import Crosswalk.Proofs.Formula.Shapes
import Crosswalk.Proofs.Formula.Whitelist

/-!
# The parser on tokens that differ in texts

No function of the parser tells tokens apart that differ in the texts of quotations alone.  All of
them call each other, so this is shown for all of them at once, by induction on the bound of their
calls.

* `Uniform` — what each function does with such tokens, for one bound.
* `uniform` — **every bound.**
* `Syntax.rel_ofTokens?` — the trees of such tokens.
* `exists_term_of_same` — **tokens have a term, whatever the texts in them are.**
-/

namespace Crosswalk.Formula

/-- **What the functions of the parser do with tokens that differ in texts alone**, with a bound on
the depth of their calls. -/
structure Uniform (n : Nat) : Prop where
  expression : Keeps (Option.Rel SameTree) (expression n)
  namedExpression : Keeps (Option.Rel SameTree) (namedExpression n)
  disjunction : Keeps (Option.Rel SameTree) (disjunction n)
  alternatives : Keeps SameTrees (alternatives n)
  conjunction : Keeps (Option.Rel SameTree) (conjunction n)
  requirements : Keeps SameTrees (requirements n)
  inversion : Keeps (Option.Rel SameTree) (inversion n)
  relations : Keeps (fun p q => p.1 = q.1 ∧ SameTrees p.2 q.2) (relations n)
  binary : ∀ levels, Keeps (Option.Rel SameTree) (binary n levels)
  operands : ∀ ops levels ⦃e e'⦄, e.shape = e'.shape → ∀ ⦃ts ts'⦄, Same ts ts' →
    SameTree (operands n ops levels e ts) (operands n ops levels e' ts')
  factor : Keeps (Option.Rel SameTree) (factor n)
  awaited : Keeps (Option.Rel SameTree) (awaited n)
  primary : Keeps (Option.Rel SameTree) (primary n)
  trailers : ∀ ⦃e e'⦄, e.shape = e'.shape → ∀ ⦃ts ts'⦄, Same ts ts' →
    SameTree (trailers n e ts) (trailers n e' ts')
  trailer : ∀ ⦃e e'⦄, e.shape = e'.shape → ∀ ⦃ts ts'⦄, Same ts ts' →
    Option.Rel SameTree (trailer n e ts) (trailer n e' ts')
  arguments : ∀ phase, Keeps (Option.Rel SameArguments) (arguments n phase)
  moreArguments : ∀ phase, Keeps (Option.Rel SameArguments) (moreArguments n phase)
  subscripts : Keeps (Option.Rel SameRest) (subscripts n)
  moreSubscripts : Keeps (Option.Rel SameRest) (moreSubscripts n)
  subscript : Keeps (Option.Rel SameTree) (subscript n)
  slice : Keeps SameRest (slice n)
  bound : Keeps SameRest (bound n)
  item : Keeps (Option.Rel SameTree) (item n)
  items : ∀ closing, Keeps (Option.Rel SameTrees) (items n closing)
  moreItems : ∀ closing, Keeps (Option.Rel SameTrees) (moreItems n closing)
  atom : Keeps (Option.Rel SameTree) (atom n)
  group : Keeps (Option.Rel SameTree) (group n)
  bare : Keeps (Option.Rel SameTree) (bare n)
  bareItem : Keeps (Option.Rel SameTree) (bareItem n)
  bareItems : Keeps SameTrees (bareItems n)
  braces : Keeps (Option.Rel SameTree) (braces n)
  pairs : Keeps (Option.Rel SameRest) (pairs n)
  morePairs : Keeps (Option.Rel SameRest) (morePairs n)
  pair : Keeps (Option.Rel SameRest) (pair n)
  clauses : Keeps (Option.Rel SameRest) (clauses n)
  tests : Keeps SameRest (tests n)
  targets : Keeps (Option.Rel SameTree) (targets n)
  moreTargets : Keeps SameTrees (moreTargets n)
  target : Keeps (Option.Rel SameTree) (target n)
  bracketedTargets : Keeps (Option.Rel SameTree) (bracketedTargets n)
  parameters : ∀ st, Keeps (Option.Rel SameRest) (parameters n st)
  nextParameter : ∀ text text' st ⦃ts ts'⦄, Same ts ts' →
    Option.Rel SameRest (nextParameter n text st ts) (nextParameter n text' st ts')

/-! ## Lists -/

section Lists

lemma keeps_none {α : Type} {R : α → α → Prop} {f : List Token → Option α}
    (h : ∀ ts, f ts = none) :
    Keeps (Option.Rel R) f := by
  intro ts ts' _
  rw [h, h]
  exact .none

lemma keeps_nothing {f : List Token → List Syntax × List Token} (h : ∀ ts, f ts = ([], ts)) :
    Keeps SameTrees f := by
  intro ts ts' hts
  rw [h, h]
  exact ⟨rfl, hts⟩

/-- Operands, each behind a word. -/
lemma keeps_chain {f : List Token → Option (Syntax × List Token)}
    {g : List Token → List Syntax × List Token} (w : String) (hf : Keeps (Option.Rel SameTree) f)
    (hg : Keeps SameTrees g) :
    Keeps SameTrees fun ts =>
      match (do f (← word? w ts)) with
      | some (e, rest) => let (es, rest) := g rest; (e :: es, rest)
      | none => ([], ts) := by
  intro ts ts' hts
  have hfirst : Option.Rel SameTree (do f (← word? w ts)) (do f (← word? w ts')) :=
    rel_bind (same_word? w hts) fun r r' hr => hf hr
  dsimp only
  rcases rel_cases hfirst with ⟨hx, hy⟩ | ⟨p, q, hx, hy, hpq⟩
  · rw [hx, hy]
    exact ⟨rfl, hts⟩
  · rw [hx, hy]
    exact (hg hpq.2).cons hpq.1

/-- An operator with the operand behind it. -/
lemma keeps_operand {α : Type} {f : List Token → Option (α × List Token)}
    {g : List Token → Option (Syntax × List Token)} (hf : Keeps (Option.Rel SameResult) f)
    (hg : Keeps (Option.Rel SameTree) g) :
    Keeps (Option.Rel fun p q => p.1 = q.1 ∧ SameTree p.2 q.2) (fun ts => do
      let (op, rest) ← f ts
      let (e, rest) ← g rest
      some (op, e, rest)) :=
  fun _ _ hts => rel_bind (hf hts) fun _ _ hpq => rel_bind (hg hpq.2) fun _ _ hpq' =>
    .some ⟨hpq.1, hpq'⟩

/-- Items with commas between them, of which the first may be missing. -/
lemma keeps_list {f : List Token → Option (Syntax × List Token)}
    {g : List Token → List Syntax × List Token} (hf : Keeps (Option.Rel SameTree) f)
    (hg : Keeps SameTrees g) :
    Keeps SameTrees fun ts =>
      match f ts with
      | none => ([], ts)
      | some (e, rest) =>
        match symbol? "," rest with
        | none => ([e], rest)
        | some rest => let (es, rest) := g rest; (e :: es, rest) := by
  intro ts ts' hts
  dsimp only
  rcases rel_cases (hf hts) with ⟨hx, hy⟩ | ⟨⟨e, r⟩, ⟨e', r'⟩, hx, hy, he, hr⟩
  · rw [hx, hy]
    exact ⟨rfl, hts⟩
  rw [hx, hy]
  dsimp only
  rcases rel_cases (same_symbol? "," hr) with ⟨hx, hy⟩ | ⟨s, s', hx, hy, hs⟩
  · rw [hx, hy]
    exact ⟨shapes_cons he rfl, hr⟩
  · rw [hx, hy]
    exact (hg hs).cons he

/-- One item, or a tuple of several. -/
lemma keeps_tuple {f : List Token → Option (Syntax × List Token)}
    {g : List Token → List Syntax × List Token} (hf : Keeps (Option.Rel SameTree) f)
    (hg : Keeps SameTrees g) :
    Keeps (Option.Rel SameTree) (fun ts => do
      let (e, rest) ← f ts
      match symbol? "," rest with
      | none => some (e, rest)
      | some rest =>
        let (es, rest) := g rest
        some (tupleOf (e :: es), rest)) := by
  intro ts ts' hts
  refine rel_bind (hf hts) ?_
  rintro ⟨e, r⟩ ⟨e', r'⟩ ⟨he, hr⟩
  dsimp only
  rcases rel_cases (same_symbol? "," hr) with ⟨hx, hy⟩ | ⟨s, s', hx, hy, hs⟩
  · rw [hx, hy]
    exact .some ⟨he, hr⟩
  · rw [hx, hy]
    obtain ⟨hes, hrest⟩ := hg hs
    exact .some ⟨shape_tupleOf (shapes_cons he hes), hrest⟩

end Lists

/-! ## One more call -/

namespace Uniform

variable {n : Nat}

lemma expression_succ (h : Uniform n) :
    Keeps (Option.Rel SameTree) (Formula.expression (n + 1)) := by
  intro ts ts' hts
  rcases hts.word_cases "lambda" with ⟨r, r', rfl, rfl, hr⟩ | ⟨hne, hne'⟩
  · rw [Formula.expression, Formula.expression]
    refine rel_bind (h.parameters _ hr) fun p q hpq => ?_
    refine rel_bind (same_symbol? ":" hpq) fun ts ts' hts => ?_
    refine rel_bind (h.expression hts) fun p q hpq => ?_
    exact .some ⟨rfl, hpq.2⟩
  · rw [Formula.expression.eq_3 ts n hne, Formula.expression.eq_3 ts' n hne']
    refine rel_bind (h.disjunction hts) fun p q hpq => ?_
    refine rel_or ?_ (.some hpq)
    refine rel_bind (same_word? "if" hpq.2) fun ts ts' hts => ?_
    refine rel_bind (h.disjunction hts) fun p' q' hpq' => ?_
    refine rel_bind (same_word? "else" hpq'.2) fun ts ts' hts => ?_
    refine rel_bind (h.expression hts) fun p'' q'' hpq'' => ?_
    exact .some ⟨by simp only [Syntax.shape, hpq.1, hpq'.1, hpq''.1], hpq''.2⟩

lemma namedExpression_succ (h : Uniform n) :
    Keeps (Option.Rel SameTree) (Formula.namedExpression (n + 1)) := by
  intro ts ts' hts
  rcases hts.assigned_cases ":=" with ⟨w, r, r', rfl, rfl, hr⟩ | ⟨hne, hne'⟩
  · rw [Formula.namedExpression, Formula.namedExpression]
    split
    · exact .none
    · exact rel_bind (h.expression hr) fun p q hpq => .some ⟨rfl, hpq.2⟩
  · rw [Formula.namedExpression.eq_3 ts n hne, Formula.namedExpression.eq_3 ts' n hne']
    refine rel_bind (h.expression hts) ?_
    rintro ⟨e, r⟩ ⟨e', r'⟩ ⟨he, hr⟩
    dsimp only
    rw [isSome_symbol? ":=" hr]
    split
    · exact .none
    · exact .some ⟨he, hr⟩

lemma disjunction_succ (h : Uniform n) :
    Keeps (Option.Rel SameTree) (Formula.disjunction (n + 1)) := by
  intro ts ts' hts
  rw [Formula.disjunction, Formula.disjunction]
  refine rel_bind (h.conjunction hts) fun p q hpq => ?_
  exact .some ⟨shape_junction .or hpq.1 (h.alternatives hpq.2).1, (h.alternatives hpq.2).2⟩

lemma alternatives_succ (h : Uniform n) : Keeps SameTrees (Formula.alternatives (n + 1)) := by
  intro ts ts' hts
  rw [Formula.alternatives, Formula.alternatives]
  exact keeps_chain "or" h.conjunction h.alternatives hts

lemma conjunction_succ (h : Uniform n) :
    Keeps (Option.Rel SameTree) (Formula.conjunction (n + 1)) := by
  intro ts ts' hts
  rw [Formula.conjunction, Formula.conjunction]
  refine rel_bind (h.inversion hts) fun p q hpq => ?_
  exact .some ⟨shape_junction .and hpq.1 (h.requirements hpq.2).1, (h.requirements hpq.2).2⟩

lemma requirements_succ (h : Uniform n) : Keeps SameTrees (Formula.requirements (n + 1)) := by
  intro ts ts' hts
  rw [Formula.requirements, Formula.requirements]
  exact keeps_chain "and" h.inversion h.requirements hts

lemma inversion_succ (h : Uniform n) : Keeps (Option.Rel SameTree) (Formula.inversion (n + 1)) := by
  intro ts ts' hts
  rcases hts.word_cases "not" with ⟨r, r', rfl, rfl, hr⟩ | ⟨hne, hne'⟩
  · rw [Formula.inversion, Formula.inversion]
    refine rel_bind (h.inversion hr) fun p q hpq => .some ⟨?_, hpq.2⟩
    simp only [Syntax.shape, hpq.1]
  · rw [Formula.inversion.eq_3 ts n hne, Formula.inversion.eq_3 ts' n hne']
    refine rel_bind (h.binary binaryOps hts) fun p q hpq => ?_
    obtain ⟨hops, hes, hrest⟩ := h.relations hpq.2
    exact .some ⟨shape_comparison hpq.1 hops hes, hrest⟩

lemma relations_succ (h : Uniform n) :
    Keeps (fun p q => p.1 = q.1 ∧ SameTrees p.2 q.2) (Formula.relations (n + 1)) := by
  intro ts ts' hts
  have hfirst := keeps_operand (fun _ _ => same_relation?) (h.binary binaryOps) hts
  dsimp only at hfirst
  rw [Formula.relations, Formula.relations]
  rcases rel_cases hfirst with ⟨hx, hy⟩ | ⟨p, q, hx, hy, hop, hpq⟩
  · rw [hx, hy]
    exact ⟨rfl, rfl, hts⟩
  · rw [hx, hy]
    obtain ⟨hops, hmore⟩ := h.relations hpq.2
    exact ⟨congrArg₂ List.cons hop hops, hmore.cons hpq.1⟩

lemma binary_succ (h : Uniform n) (levels : List (List (String × BinaryOp))) :
    Keeps (Option.Rel SameTree) (Formula.binary (n + 1) levels) := by
  intro ts ts' hts
  cases levels with
  | nil =>
      rw [Formula.binary, Formula.binary]
      exact h.factor hts
  | cons ops tighter =>
      rw [Formula.binary, Formula.binary]
      exact rel_bind (h.binary tighter hts) fun p q hpq =>
        .some (h.operands ops tighter hpq.1 hpq.2)

lemma operands_succ (h : Uniform n) (ops : List (String × BinaryOp))
    (levels : List (List (String × BinaryOp))) ⦃e e' : Syntax⦄ (he : e.shape = e'.shape)
    ⦃ts ts' : List Token⦄ (hts : Same ts ts') :
    SameTree (Formula.operands (n + 1) ops levels e ts)
      (Formula.operands (n + 1) ops levels e' ts') := by
  have hfirst := keeps_operand (fun _ _ => same_operator? ops) (h.binary levels) hts
  dsimp only at hfirst
  rw [Formula.operands, Formula.operands]
  rcases rel_cases hfirst with ⟨hx, hy⟩ | ⟨p, q, hx, hy, hop, hpq⟩
  · rw [hx, hy]
    exact ⟨he, hts⟩
  · rw [hx, hy]
    refine h.operands ops levels ?_ hpq.2
    simp only [Syntax.shape, hop, he, hpq.1]

lemma factor_succ (h : Uniform n) : Keeps (Option.Rel SameTree) (Formula.factor (n + 1)) := by
  intro ts ts' hts
  rw [Formula.factor, Formula.factor]
  rcases rel_cases (same_sign? hts) with ⟨hx, hy⟩ | ⟨p, q, hx, hy, hop, hpq⟩
  · rw [hx, hy]
    refine rel_bind (h.awaited hts) fun p q hpq => rel_or ?_ (.some hpq)
    refine rel_bind (same_symbol? "**" hpq.2) fun r r' hr => ?_
    refine rel_bind (h.factor hr) fun p' q' hpq' => .some ⟨?_, hpq'.2⟩
    simp only [Syntax.shape, hpq.1, hpq'.1]
  · rw [hx, hy]
    refine rel_bind (h.factor hpq) fun p' q' hpq' => .some ⟨?_, hpq'.2⟩
    simp only [Syntax.shape, hop, hpq'.1]

lemma awaited_succ (h : Uniform n) : Keeps (Option.Rel SameTree) (Formula.awaited (n + 1)) := by
  intro ts ts' hts
  rcases hts.word_cases "await" with ⟨r, r', rfl, rfl, hr⟩ | ⟨hne, hne'⟩
  · rw [Formula.awaited, Formula.awaited]
    exact rel_bind (h.primary hr) fun p q hpq => .some ⟨rfl, hpq.2⟩
  · rw [Formula.awaited.eq_3 ts n hne, Formula.awaited.eq_3 ts' n hne']
    exact h.primary hts

lemma primary_succ (h : Uniform n) : Keeps (Option.Rel SameTree) (Formula.primary (n + 1)) := by
  intro ts ts' hts
  rw [Formula.primary, Formula.primary]
  exact rel_bind (h.atom hts) fun p q hpq => .some (h.trailers hpq.1 hpq.2)

lemma trailers_succ (h : Uniform n) ⦃e e' : Syntax⦄ (he : e.shape = e'.shape)
    ⦃ts ts' : List Token⦄
    (hts : Same ts ts') :
    SameTree (Formula.trailers (n + 1) e ts) (Formula.trailers (n + 1) e' ts') := by
  rw [Formula.trailers, Formula.trailers]
  rcases rel_cases (h.trailer he hts) with ⟨hx, hy⟩ | ⟨p, q, hx, hy, hpq⟩
  · rw [hx, hy]
    exact ⟨he, hts⟩
  · rw [hx, hy]
    exact h.trailers hpq.1 hpq.2

lemma trailer_succ (h : Uniform n) ⦃e e' : Syntax⦄ (he : e.shape = e'.shape)
    ⦃ts ts' : List Token⦄
    (hts : Same ts ts') :
    Option.Rel SameTree (Formula.trailer (n + 1) e ts) (Formula.trailer (n + 1) e' ts') := by
  rcases hts.symbol_cases "." with ⟨r, r', rfl, rfl, hr⟩ | ⟨hdot, hdot'⟩
  · rw [Formula.trailer, Formula.trailer]
    exact rel_bind (same_name? hr) fun p q hpq => .some ⟨rfl, hpq.2⟩
  rcases hts.symbol_cases "(" with ⟨r, r', rfl, rfl, hr⟩ | ⟨hcall, hcall'⟩
  · rw [Formula.trailer, Formula.trailer]
    refine rel_bind (h.arguments 0 hr) ?_
    rintro p q ⟨hargs, hkeywords, hrest⟩
    exact .some ⟨shape_call he hargs hkeywords, hrest⟩
  rcases hts.symbol_cases "[" with ⟨r, r', rfl, rfl, hr⟩ | ⟨hopen, hopen'⟩
  · rw [Formula.trailer, Formula.trailer]
    refine rel_bind (h.subscripts hr) fun p q hpq => ?_
    exact rel_bind (same_symbol? "]" hpq) fun r r' hr => .some ⟨rfl, hr⟩
  rw [Formula.trailer.eq_5 e ts n hdot hcall hopen,
    Formula.trailer.eq_5 e' ts' n hdot' hcall' hopen']
  exact .none

lemma arguments_succ (h : Uniform n) (phase : Nat) :
    Keeps (Option.Rel SameArguments) (Formula.arguments (n + 1) phase) := by
  intro ts ts' hts
  rcases hts.symbol_cases ")" with ⟨r, r', rfl, rfl, hr⟩ | ⟨hclose, hclose'⟩
  · rw [Formula.arguments, Formula.arguments]
    exact .some ⟨rfl, rfl, hr⟩
  rcases hts.symbol_cases "**" with ⟨r, r', rfl, rfl, hr⟩ | ⟨hstars, hstars'⟩
  · rw [Formula.arguments, Formula.arguments]
    refine rel_bind (h.expression hr) fun p q hpq => ?_
    refine rel_bind (h.moreArguments 3 hpq.2) ?_
    rintro p' q' ⟨hargs, hkeywords, hrest⟩
    exact .some ⟨hargs, congrArg (· + 1) hkeywords, hrest⟩
  rcases hts.symbol_cases "*" with ⟨r, r', rfl, rfl, hr⟩ | ⟨hstar, hstar'⟩
  · rw [Formula.arguments, Formula.arguments]
    split
    · exact .none
    · refine rel_bind (h.expression hr) fun p q hpq => ?_
      refine rel_bind (h.moreArguments _ hpq.2) ?_
      rintro p' q' ⟨hargs, hkeywords, hrest⟩
      exact .some ⟨shapes_cons rfl hargs, hkeywords, hrest⟩
  rcases hts.assigned_cases "=" with ⟨w, r, r', rfl, rfl, hr⟩ | ⟨hnamed, hnamed'⟩
  · rw [Formula.arguments, Formula.arguments]
    split
    · exact .none
    · refine rel_bind (h.expression hr) fun p q hpq => ?_
      refine rel_bind (h.moreArguments _ hpq.2) ?_
      rintro p' q' ⟨hargs, hkeywords, hrest⟩
      exact .some ⟨hargs, congrArg (· + 1) hkeywords, hrest⟩
  rw [Formula.arguments.eq_6 phase ts n hclose hstars hstar hnamed,
    Formula.arguments.eq_6 phase ts' n hclose' hstars' hstar' hnamed']
  split
  · exact .none
  · refine rel_bind (h.namedExpression hts) ?_
    rintro ⟨e, r⟩ ⟨e', r'⟩ ⟨he, hr⟩
    dsimp only
    rw [startsClause_eq hr]
    split
    · refine rel_bind (h.clauses hr) fun p q hpq => ?_
      exact rel_bind (same_symbol? ")" hpq) fun r r' hr => .some ⟨rfl, rfl, hr⟩
    · refine rel_bind (h.moreArguments 1 hr) ?_
      rintro p q ⟨hargs, hkeywords, hrest⟩
      exact .some ⟨shapes_cons he hargs, hkeywords, hrest⟩

lemma moreArguments_succ (h : Uniform n) (phase : Nat) :
    Keeps (Option.Rel SameArguments) (Formula.moreArguments (n + 1) phase) := by
  intro ts ts' hts
  rcases hts.symbol_cases ")" with ⟨r, r', rfl, rfl, hr⟩ | ⟨hclose, hclose'⟩
  · rw [Formula.moreArguments, Formula.moreArguments]
    exact .some ⟨rfl, rfl, hr⟩
  rcases hts.symbol_cases "," with ⟨r, r', rfl, rfl, hr⟩ | ⟨hcomma, hcomma'⟩
  · rw [Formula.moreArguments, Formula.moreArguments]
    exact h.arguments phase hr
  rw [Formula.moreArguments.eq_4 phase ts n hclose hcomma,
    Formula.moreArguments.eq_4 phase ts' n hclose' hcomma']
  exact .none

lemma subscripts_succ (h : Uniform n) :
    Keeps (Option.Rel SameRest) (Formula.subscripts (n + 1)) := by
  intro ts ts' hts
  rw [Formula.subscripts, Formula.subscripts]
  refine rel_bind (h.subscript hts) ?_
  rintro ⟨e, r⟩ ⟨e', r'⟩ ⟨he, hr⟩
  dsimp only
  rw [isSome_symbol? "," hr, isStarred_eq he]
  split
  · exact rel_bind (h.moreSubscripts hr) fun p q hpq => .some hpq
  · exact .some hr

lemma moreSubscripts_succ (h : Uniform n) :
    Keeps (Option.Rel SameRest) (Formula.moreSubscripts (n + 1)) := by
  intro ts ts' hts
  rw [Formula.moreSubscripts, Formula.moreSubscripts]
  rcases rel_cases (same_symbol? "," hts) with ⟨hx, hy⟩ | ⟨r, r', hx, hy, hr⟩
  · rw [hx, hy]
    exact .some hts
  · rw [hx, hy]
    dsimp only
    rw [isSome_symbol? "]" hr]
    split
    · exact .some hr
    · refine rel_bind (h.subscript hr) fun p q hpq => ?_
      exact rel_bind (h.moreSubscripts hpq.2) fun p q hpq => .some hpq

lemma subscript_succ (h : Uniform n) : Keeps (Option.Rel SameTree) (Formula.subscript (n + 1)) := by
  intro ts ts' hts
  rcases hts.symbol_cases "*" with ⟨r, r', rfl, rfl, hr⟩ | ⟨hstar, hstar'⟩
  · rw [Formula.subscript, Formula.subscript]
    exact rel_bind (h.expression hr) fun p q hpq => .some ⟨rfl, hpq.2⟩
  rcases hts.symbol_cases ":" with ⟨r, r', rfl, rfl, hr⟩ | ⟨hcolon, hcolon'⟩
  · rw [Formula.subscript, Formula.subscript]
    exact .some ⟨rfl, h.slice hr⟩
  rw [Formula.subscript.eq_4 ts n hstar hcolon, Formula.subscript.eq_4 ts' n hstar' hcolon']
  refine rel_bind (h.namedExpression hts) ?_
  rintro ⟨e, r⟩ ⟨e', r'⟩ ⟨he, hr⟩
  dsimp only
  rcases rel_cases (same_symbol? ":" hr) with ⟨hx, hy⟩ | ⟨s, s', hx, hy, hs⟩
  · rw [hx, hy]
    exact .some ⟨he, hr⟩
  · rw [hx, hy, startsNamed_eq hts]
    dsimp only
    split
    · exact .none
    · exact .some ⟨rfl, h.slice hs⟩

lemma slice_succ (h : Uniform n) : Keeps SameRest (Formula.slice (n + 1)) := by
  intro ts ts' hts
  rw [Formula.slice, Formula.slice]
  have hupper := h.bound hts
  generalize Formula.bound n ts = p at hupper ⊢
  generalize Formula.bound n ts' = q at hupper ⊢
  obtain ⟨upper, r⟩ := p
  obtain ⟨upper', r'⟩ := q
  dsimp only
  rcases rel_cases (same_symbol? ":" hupper) with ⟨hx, hy⟩ | ⟨s, s', hx, hy, hs⟩
  · rw [hx, hy]
    exact hupper
  · rw [hx, hy]
    exact h.bound hs

lemma bound_succ (h : Uniform n) : Keeps SameRest (Formula.bound (n + 1)) := by
  intro ts ts' hts
  rw [Formula.bound, Formula.bound]
  rcases rel_cases (h.expression hts) with ⟨hx, hy⟩ | ⟨p, q, hx, hy, hpq⟩
  · rw [hx, hy]
    exact hts
  · rw [hx, hy]
    exact hpq.2

lemma item_succ (h : Uniform n) : Keeps (Option.Rel SameTree) (Formula.item (n + 1)) := by
  intro ts ts' hts
  rcases hts.symbol_cases "*" with ⟨r, r', rfl, rfl, hr⟩ | ⟨hstar, hstar'⟩
  · rw [Formula.item, Formula.item]
    exact rel_bind (h.binary binaryOps hr) fun p q hpq => .some ⟨rfl, hpq.2⟩
  · rw [Formula.item.eq_3 ts n hstar, Formula.item.eq_3 ts' n hstar']
    exact h.namedExpression hts

lemma items_succ (h : Uniform n) (closing : String) :
    Keeps (Option.Rel SameTrees) (Formula.items (n + 1) closing) := by
  intro ts ts' hts
  rw [Formula.items, Formula.items]
  rcases rel_cases (same_symbol? closing hts) with ⟨hx, hy⟩ | ⟨r, r', hx, hy, hr⟩
  · rw [hx, hy]
    refine rel_bind (h.item hts) fun p q hpq => ?_
    exact rel_bind (h.moreItems closing hpq.2) fun p' q' hpq' => .some (hpq'.cons hpq.1)
  · rw [hx, hy]
    exact .some ⟨rfl, hr⟩

lemma moreItems_succ (h : Uniform n) (closing : String) :
    Keeps (Option.Rel SameTrees) (Formula.moreItems (n + 1) closing) := by
  intro ts ts' hts
  rw [Formula.moreItems, Formula.moreItems]
  rcases rel_cases (same_symbol? closing hts) with ⟨hx, hy⟩ | ⟨r, r', hx, hy, hr⟩
  · rw [hx, hy]
    exact rel_bind (same_symbol? "," hts) fun r r' hr => h.items closing hr
  · rw [hx, hy]
    exact .some ⟨rfl, hr⟩

/-- What stands in square brackets is treated like what stands in round ones. -/
lemma atom_bracket (h : Uniform n) {ts ts' : List Token} (hts : Same ts ts') :
    Option.Rel SameTree (Formula.atom (n + 1) (.symbol "[" :: ts))
      (Formula.atom (n + 1) (.symbol "[" :: ts')) := by
  rw [Formula.atom, Formula.atom]
  rcases rel_cases (same_symbol? "]" hts) with ⟨hx, hy⟩ | ⟨r, r', hx, hy, hr⟩
  · rw [hx, hy]
    refine rel_bind (h.item hts) ?_
    rintro ⟨e, r⟩ ⟨e', r'⟩ ⟨he, hr⟩
    dsimp only
    rw [startsClause_eq hr, isStarred_eq he]
    split
    · refine rel_bind (h.clauses hr) fun p q hpq => ?_
      exact rel_bind (same_symbol? "]" hpq) fun r r' hr => .some ⟨rfl, hr⟩
    · exact rel_bind (h.moreItems "]" hr) fun p q hpq => .some ⟨rfl, hpq.2⟩
  · rw [hx, hy]
    exact .some ⟨rfl, hr⟩

/-- A word is a literal or a name, whatever follows. -/
lemma atom_word (n : Nat) (w : String) {ts ts' : List Token} (hts : Same ts ts') :
    Option.Rel SameTree (Formula.atom (n + 1) (.word w :: ts))
      (Formula.atom (n + 1) (.word w :: ts')) := by
  by_cases htrue : w = "True"
  · subst htrue
    rw [Formula.atom, Formula.atom]
    exact .some ⟨rfl, hts⟩
  by_cases hfalse : w = "False"
  · subst hfalse
    rw [Formula.atom, Formula.atom]
    exact .some ⟨rfl, hts⟩
  by_cases hnone : w = "None"
  · subst hnone
    rw [Formula.atom, Formula.atom]
    exact .some ⟨rfl, hts⟩
  rw [Formula.atom.eq_5 n w ts htrue hfalse hnone, Formula.atom.eq_5 n w ts' htrue hfalse hnone]
  split
  · exact .none
  · exact .some ⟨rfl, hts⟩

lemma atom_succ (h : Uniform n) : Keeps (Option.Rel SameTree) (Formula.atom (n + 1)) := by
  intro ts ts' hts
  cases hts with
  | nil =>
      rw [Formula.atom.eq_12] <;> simp
  | @text s s' marked r r' hr =>
      rw [Formula.atom, Formula.atom]
      exact rel_quotations n (.text s s' marked hr)
  | @cons t r r' hr =>
      cases t with
      | lineEnd =>
          rw [Formula.atom.eq_12, Formula.atom.eq_12] <;> simp
      | numeral l =>
          rw [Formula.atom, Formula.atom]
          exact .some ⟨rfl, hr⟩
      | quotation q =>
          rw [Formula.atom, Formula.atom]
          exact rel_quotations n (.cons (.quotation q) hr)
      | word w => exact atom_word n w hr
      | symbol s =>
          by_cases hdots : s = "..."
          · subst hdots
            rw [Formula.atom, Formula.atom]
            exact .some ⟨rfl, hr⟩
          by_cases hround : s = "("
          · subst hround
            rw [Formula.atom, Formula.atom]
            exact h.group hr
          by_cases hsquare : s = "["
          · subst hsquare
            exact h.atom_bracket hr
          by_cases hbrace : s = "\x7b"
          · subst hbrace
            rw [Formula.atom, Formula.atom]
            exact h.braces hr
          have hother : ∀ r, Formula.atom (n + 1) (.symbol s :: r) = none := fun r => by
            rw [Formula.atom.eq_12] <;> simp [hdots, hround, hsquare, hbrace]
          rw [hother r, hother r']
          exact .none

lemma group_succ (h : Uniform n) : Keeps (Option.Rel SameTree) (Formula.group (n + 1)) := by
  intro ts ts' hts
  rcases hts.symbol_cases ")" with ⟨r, r', rfl, rfl, hr⟩ | ⟨hclose, hclose'⟩
  · rw [Formula.group, Formula.group]
    exact .some ⟨rfl, hr⟩
  rcases hts.words_cases "yield" "from" with ⟨r, r', rfl, rfl, hr⟩ | ⟨hfrom, hfrom'⟩
  · rw [Formula.group, Formula.group]
    refine rel_bind (h.expression hr) fun p q hpq => ?_
    exact rel_bind (same_symbol? ")" hpq.2) fun r r' hr => .some ⟨rfl, hr⟩
  rcases hts.word_cases "yield" with ⟨r, r', rfl, rfl, hr⟩ | ⟨hyield, hyield'⟩
  · rw [Formula.group.eq_4 n r fun s hs => hfrom s (congrArg _ hs),
      Formula.group.eq_4 n r' fun s hs => hfrom' s (congrArg _ hs)]
    rcases rel_cases (same_symbol? ")" hr) with ⟨hx, hy⟩ | ⟨s, s', hx, hy, hs⟩
    · rw [hx, hy]
      refine rel_bind (h.bare hr) fun p q hpq => ?_
      exact rel_bind (same_symbol? ")" hpq.2) fun r r' hr => .some ⟨rfl, hr⟩
    · rw [hx, hy]
      exact .some ⟨rfl, hs⟩
  rw [Formula.group.eq_5 ts n hclose hfrom hyield, Formula.group.eq_5 ts' n hclose' hfrom' hyield']
  refine rel_bind (h.item hts) ?_
  rintro ⟨e, r⟩ ⟨e', r'⟩ ⟨he, hr⟩
  dsimp only
  rw [startsClause_eq hr, isStarred_eq he]
  split
  · refine rel_bind (h.clauses hr) fun p q hpq => ?_
    exact rel_bind (same_symbol? ")" hpq) fun r r' hr => .some ⟨rfl, hr⟩
  · rcases rel_cases (same_symbol? ")" hr) with ⟨hx, hy⟩ | ⟨s, s', hx, hy, hs⟩
    · rw [hx, hy]
      refine rel_bind (h.moreItems ")" hr) fun p q hpq => .some ⟨?_, hpq.2⟩
      exact shape_tupleOf (shapes_cons he hpq.1)
    · rw [hx, hy]
      dsimp only
      split
      · exact .none
      · exact .some ⟨he, hs⟩

lemma bare_succ (h : Uniform n) : Keeps (Option.Rel SameTree) (Formula.bare (n + 1)) := by
  intro ts ts' hts
  rw [Formula.bare, Formula.bare]
  exact keeps_tuple h.bareItem h.bareItems hts

lemma bareItem_succ (h : Uniform n) : Keeps (Option.Rel SameTree) (Formula.bareItem (n + 1)) := by
  intro ts ts' hts
  rcases hts.symbol_cases "*" with ⟨r, r', rfl, rfl, hr⟩ | ⟨hstar, hstar'⟩
  · rw [Formula.bareItem, Formula.bareItem]
    exact rel_bind (h.binary binaryOps hr) fun p q hpq => .some ⟨rfl, hpq.2⟩
  · rw [Formula.bareItem.eq_3 ts n hstar, Formula.bareItem.eq_3 ts' n hstar']
    exact h.expression hts

lemma bareItems_succ (h : Uniform n) : Keeps SameTrees (Formula.bareItems (n + 1)) := by
  intro ts ts' hts
  rw [Formula.bareItems, Formula.bareItems]
  exact keeps_list h.bareItem h.bareItems hts

lemma braces_succ (h : Uniform n) : Keeps (Option.Rel SameTree) (Formula.braces (n + 1)) := by
  intro ts ts' hts
  rw [Formula.braces, Formula.braces, isSome_symbol? "\x7d" hts, isSome_symbol? "**" hts]
  split
  · exact rel_bind (h.pairs hts) fun p q hpq => .some ⟨rfl, hpq⟩
  refine rel_bind (h.item hts) ?_
  rintro ⟨e, r⟩ ⟨e', r'⟩ ⟨he, hr⟩
  dsimp only
  rcases rel_cases (same_symbol? ":" hr) with ⟨hx, hy⟩ | ⟨s, s', hx, hy, hs⟩
  · rw [hx, hy, startsClause_eq hr, isStarred_eq he]
    dsimp only
    split
    · refine rel_bind (h.clauses hr) fun p q hpq => ?_
      exact rel_bind (same_symbol? "\x7d" hpq) fun r r' hr => .some ⟨rfl, hr⟩
    · exact rel_bind (h.moreItems "\x7d" hr) fun p q hpq => .some ⟨rfl, hpq.2⟩
  · rw [hx, hy, startsNamed_eq hts, isStarred_eq he]
    dsimp only
    split
    · exact .none
    refine rel_bind (h.expression hs) ?_
    rintro ⟨v, s⟩ ⟨v', s'⟩ ⟨hv, hs⟩
    dsimp only
    rw [startsClause_eq hs]
    split
    · refine rel_bind (h.clauses hs) fun p q hpq => ?_
      exact rel_bind (same_symbol? "\x7d" hpq) fun r r' hr => .some ⟨rfl, hr⟩
    · exact rel_bind (h.morePairs hs) fun p q hpq => .some ⟨rfl, hpq⟩

lemma pairs_succ (h : Uniform n) : Keeps (Option.Rel SameRest) (Formula.pairs (n + 1)) := by
  intro ts ts' hts
  rw [Formula.pairs, Formula.pairs]
  rcases rel_cases (same_symbol? "\x7d" hts) with ⟨hx, hy⟩ | ⟨r, r', hx, hy, hr⟩
  · rw [hx, hy]
    refine rel_bind (h.pair hts) fun p q hpq => ?_
    exact rel_bind (h.morePairs hpq) fun p q hpq => .some hpq
  · rw [hx, hy]
    exact .some hr

lemma morePairs_succ (h : Uniform n) : Keeps (Option.Rel SameRest) (Formula.morePairs (n + 1)) := by
  intro ts ts' hts
  rw [Formula.morePairs, Formula.morePairs]
  rcases rel_cases (same_symbol? "\x7d" hts) with ⟨hx, hy⟩ | ⟨r, r', hx, hy, hr⟩
  · rw [hx, hy]
    exact rel_bind (same_symbol? "," hts) fun r r' hr => h.pairs hr
  · rw [hx, hy]
    exact .some hr

lemma pair_succ (h : Uniform n) : Keeps (Option.Rel SameRest) (Formula.pair (n + 1)) := by
  intro ts ts' hts
  rcases hts.symbol_cases "**" with ⟨r, r', rfl, rfl, hr⟩ | ⟨hne, hne'⟩
  · rw [Formula.pair, Formula.pair]
    exact rel_bind (h.binary binaryOps hr) fun p q hpq => .some hpq.2
  · rw [Formula.pair.eq_3 ts n hne, Formula.pair.eq_3 ts' n hne']
    refine rel_bind (h.expression hts) fun p q hpq => ?_
    refine rel_bind (same_symbol? ":" hpq.2) fun r r' hr => ?_
    exact rel_bind (h.expression hr) fun p q hpq => .some hpq.2

/-- A clause behind the words that it begins with. -/
lemma clause (h : Uniform n) (head : String) {ts ts' : List Token} (hts : Same ts ts') :
    Option.Rel SameRest
      (do
        let (target, ts) ← Formula.targets n ts
        let ts ← word? "in" ts
        let (source, ts) ← Formula.disjunction n ts
        let (tests, ts) := Formula.tests n ts
        let text := head ++ target.render Level.tuple ++ " in " ++ source.render Level.test.next ++
          tests
        if startsClause ts then
          let (more, ts) ← Formula.clauses n ts
          some (text ++ more, ts)
        else some (text, ts))
      (do
        let (target, ts) ← Formula.targets n ts'
        let ts ← word? "in" ts
        let (source, ts) ← Formula.disjunction n ts
        let (tests, ts) := Formula.tests n ts
        let text := head ++ target.render Level.tuple ++ " in " ++ source.render Level.test.next ++
          tests
        if startsClause ts then
          let (more, ts) ← Formula.clauses n ts
          some (text ++ more, ts)
        else some (text, ts)) := by
  refine rel_bind (h.targets hts) fun p q hpq => ?_
  refine rel_bind (same_word? "in" hpq.2) fun r r' hr => ?_
  refine rel_bind (h.disjunction hr) fun p q hpq => ?_
  have hrest := h.tests hpq.2
  dsimp only
  rw [startsClause_eq hrest]
  split
  · exact rel_bind (h.clauses hrest) fun p q hpq => .some hpq
  · exact .some hrest

lemma clauses_succ (h : Uniform n) : Keeps (Option.Rel SameRest) (Formula.clauses (n + 1)) := by
  intro ts ts' hts
  rcases hts.words_cases "async" "for" with ⟨r, r', rfl, rfl, hr⟩ | ⟨hasync, hasync'⟩
  · rw [Formula.clauses, Formula.clauses]
    exact h.clause " async for " hr
  rcases hts.word_cases "for" with ⟨r, r', rfl, rfl, hr⟩ | ⟨hfor, hfor'⟩
  · rw [Formula.clauses, Formula.clauses]
    exact h.clause " for " hr
  rw [Formula.clauses.eq_4 ts n hasync hfor, Formula.clauses.eq_4 ts' n hasync' hfor']
  exact .none

lemma tests_succ (h : Uniform n) : Keeps SameRest (Formula.tests (n + 1)) := by
  intro ts ts' hts
  have hfirst : Option.Rel SameTree (do Formula.disjunction n (← word? "if" ts))
      (do Formula.disjunction n (← word? "if" ts')) :=
    rel_bind (same_word? "if" hts) fun r r' hr => h.disjunction hr
  rw [Formula.tests, Formula.tests]
  rcases rel_cases hfirst with ⟨hx, hy⟩ | ⟨p, q, hx, hy, hpq⟩
  · rw [hx, hy]
    exact hts
  · rw [hx, hy]
    exact h.tests hpq.2

lemma targets_succ (h : Uniform n) : Keeps (Option.Rel SameTree) (Formula.targets (n + 1)) := by
  intro ts ts' hts
  rw [Formula.targets, Formula.targets]
  exact keeps_tuple h.target h.moreTargets hts

lemma moreTargets_succ (h : Uniform n) : Keeps SameTrees (Formula.moreTargets (n + 1)) := by
  intro ts ts' hts
  rw [Formula.moreTargets, Formula.moreTargets]
  exact keeps_list h.target h.moreTargets hts

lemma target_succ (h : Uniform n) : Keeps (Option.Rel SameTree) (Formula.target (n + 1)) := by
  intro ts ts' hts
  rcases hts.symbol_cases "*" with ⟨r, r', rfl, rfl, hr⟩ | ⟨hstar, hstar'⟩
  · rw [Formula.target, Formula.target, isSome_symbol? "*" hr]
    split
    · exact .none
    · exact rel_bind (h.target hr) fun p q hpq => .some ⟨rfl, hpq.2⟩
  rw [Formula.target.eq_3 ts n hstar, Formula.target.eq_3 ts' n hstar']
  rcases rel_cases (h.primary hts) with
    ⟨hx, hy⟩ | ⟨⟨e, r⟩, ⟨e', r'⟩, hx, hy, he, hr⟩
  · rw [hx, hy]
    exact h.bracketedTargets hts
  rw [hx, hy]
  cases e with
  | name w =>
      obtain rfl := eq_name_of_shape he.symm
      exact .some ⟨rfl, hr⟩
  | foreign construct text level =>
      obtain ⟨text', rfl⟩ := eq_foreign_of_shape he.symm
      dsimp only
      split
      · exact .some ⟨rfl, hr⟩
      · exact h.bracketedTargets hts
  | _ =>
      cases e' with
      | name w => cases eq_name_of_shape he
      | foreign construct text level =>
          obtain ⟨text', ht⟩ := eq_foreign_of_shape he
          cases ht
      | _ => exact h.bracketedTargets hts

lemma bracketedTargets_succ (h : Uniform n) :
    Keeps (Option.Rel SameTree) (Formula.bracketedTargets (n + 1)) := by
  intro ts ts' hts
  rcases hts.symbol_cases "(" with ⟨r, r', rfl, rfl, hr⟩ | ⟨hround, hround'⟩
  · rw [Formula.bracketedTargets, Formula.bracketedTargets]
    rcases rel_cases (same_symbol? ")" hr) with ⟨hx, hy⟩ | ⟨s, s', hx, hy, hs⟩
    · rw [hx, hy]
      refine rel_bind (h.targets hr) ?_
      rintro ⟨e, r⟩ ⟨e', r'⟩ ⟨he, hr⟩
      refine rel_bind (same_symbol? ")" hr) fun r r' hr => ?_
      rw [isStarred_eq he]
      split
      · exact .none
      · exact .some ⟨he, hr⟩
    · rw [hx, hy]
      exact .some ⟨rfl, hs⟩
  rcases hts.symbol_cases "[" with ⟨r, r', rfl, rfl, hr⟩ | ⟨hsquare, hsquare'⟩
  · rw [Formula.bracketedTargets, Formula.bracketedTargets]
    rcases rel_cases (same_symbol? "]" hr) with ⟨hx, hy⟩ | ⟨s, s', hx, hy, hs⟩
    · rw [hx, hy]
      refine rel_bind (h.target hr) ?_
      rintro ⟨e, r⟩ ⟨e', r'⟩ ⟨he, hr⟩
      dsimp only
      rcases rel_cases (same_symbol? "," hr) with ⟨hx, hy⟩ | ⟨s, s', hx, hy, hs⟩
      · rw [hx, hy]
        exact rel_bind (same_symbol? "]" hr) fun r r' hr => .some ⟨rfl, hr⟩
      · rw [hx, hy]
        exact rel_bind (same_symbol? "]" (h.moreTargets hs).2) fun r r' hr => .some ⟨rfl, hr⟩
    · rw [hx, hy]
      exact .some ⟨rfl, hs⟩
  rw [Formula.bracketedTargets.eq_4 ts n hround hsquare,
    Formula.bracketedTargets.eq_4 ts' n hround' hsquare']
  exact .none

lemma parameters_succ (h : Uniform n) (st : ParameterState) :
    Keeps (Option.Rel SameRest) (Formula.parameters (n + 1) st) := by
  intro ts ts' hts
  rcases hts.symbol_cases ":" with ⟨r, r', rfl, rfl, hr⟩ | ⟨hcolon, hcolon'⟩
  · rw [Formula.parameters, Formula.parameters]
    split
    · exact .none
    · exact .some hts
  rcases hts.symbol_cases "/" with ⟨r, r', rfl, rfl, hr⟩ | ⟨hslash, hslash'⟩
  · rw [Formula.parameters, Formula.parameters]
    split
    · exact .none
    · exact h.nextParameter _ _ _ hr
  rcases hts.symbol_cases "**" with ⟨r, r', rfl, rfl, hr⟩ | ⟨hstars, hstars'⟩
  · rw [Formula.parameters, Formula.parameters]
    split
    · exact .none
    refine rel_bind (same_name? hr) ?_
    rintro ⟨w, r⟩ ⟨w', r'⟩ ⟨hw, hr⟩
    dsimp only
    have hrest : Same ((symbol? "," r).getD r) ((symbol? "," r').getD r') := by
      rcases rel_cases (same_symbol? "," hr) with ⟨hx, hy⟩ | ⟨s, s', hx, hy, hs⟩
      · rw [hx, hy]
        exact hr
      · rw [hx, hy]
        exact hs
    rw [isSome_symbol? ":" hrest]
    split
    · exact .some hrest
    · exact .none
  rcases hts.symbol_cases "*" with ⟨r, r', rfl, rfl, hr⟩ | ⟨hstar, hstar'⟩
  · rw [Formula.parameters, Formula.parameters]
    split
    · exact .none
    rcases rel_cases (same_name? hr) with
      ⟨hx, hy⟩ | ⟨⟨w, s⟩, ⟨w', s'⟩, hx, hy, hw, hs⟩
    · rw [hx, hy]
      dsimp only
      rw [← Option.not_isSome, ← Option.not_isSome, isSome_symbol? "," hr]
      split
      · exact .none
      · exact h.nextParameter _ _ _ hr
    · rw [hx, hy]
      exact h.nextParameter _ _ _ hs
  rw [Formula.parameters.eq_6 st ts n hcolon hslash hstars hstar,
    Formula.parameters.eq_6 st ts' n hcolon' hslash' hstars' hstar']
  refine rel_bind (same_name? hts) ?_
  rintro ⟨w, r⟩ ⟨w', r'⟩ ⟨hw, hr⟩
  dsimp only
  rcases rel_cases (same_symbol? "=" hr) with ⟨hx, hy⟩ | ⟨s, s', hx, hy, hs⟩
  · rw [hx, hy]
    dsimp only
    split
    · exact .none
    · exact h.nextParameter _ _ _ hr
  · rw [hx, hy]
    exact rel_bind (h.expression hs) fun p q hpq => h.nextParameter _ _ _ hpq.2

lemma nextParameter_succ (h : Uniform n) (text text' : Layout) (st : ParameterState)
    ⦃ts ts' : List Token⦄ (hts : Same ts ts') :
    Option.Rel SameRest (Formula.nextParameter (n + 1) text st ts)
      (Formula.nextParameter (n + 1) text' st ts') := by
  rcases hts.symbol_cases "," with ⟨r, r', rfl, rfl, hr⟩ | ⟨hcomma, hcomma'⟩
  · rw [Formula.nextParameter, Formula.nextParameter]
    exact rel_bind (h.parameters st hr) fun p q hpq => .some hpq
  rcases hts.symbol_cases ":" with ⟨r, r', rfl, rfl, hr⟩ | ⟨hcolon, hcolon'⟩
  · rw [Formula.nextParameter, Formula.nextParameter]
    split
    · exact .none
    · exact .some hts
  rw [Formula.nextParameter.eq_4 text st ts n hcomma hcolon,
    Formula.nextParameter.eq_4 text' st ts' n hcomma' hcolon']
  exact .none

lemma succ (h : Uniform n) : Uniform (n + 1) where
  expression := h.expression_succ
  namedExpression := h.namedExpression_succ
  disjunction := h.disjunction_succ
  alternatives := h.alternatives_succ
  conjunction := h.conjunction_succ
  requirements := h.requirements_succ
  inversion := h.inversion_succ
  relations := h.relations_succ
  binary := h.binary_succ
  operands := h.operands_succ
  factor := h.factor_succ
  awaited := h.awaited_succ
  primary := h.primary_succ
  trailers := h.trailers_succ
  trailer := h.trailer_succ
  arguments := h.arguments_succ
  moreArguments := h.moreArguments_succ
  subscripts := h.subscripts_succ
  moreSubscripts := h.moreSubscripts_succ
  subscript := h.subscript_succ
  slice := h.slice_succ
  bound := h.bound_succ
  item := h.item_succ
  items := h.items_succ
  moreItems := h.moreItems_succ
  atom := h.atom_succ
  group := h.group_succ
  bare := h.bare_succ
  bareItem := h.bareItem_succ
  bareItems := h.bareItems_succ
  braces := h.braces_succ
  pairs := h.pairs_succ
  morePairs := h.morePairs_succ
  pair := h.pair_succ
  clauses := h.clauses_succ
  tests := h.tests_succ
  targets := h.targets_succ
  moreTargets := h.moreTargets_succ
  target := h.target_succ
  bracketedTargets := h.bracketedTargets_succ
  parameters := h.parameters_succ
  nextParameter := h.nextParameter_succ

/-- Without any calls nothing is read. -/
lemma zero : Uniform 0 where
  expression := keeps_none (Formula.expression.eq_1)
  namedExpression := keeps_none (Formula.namedExpression.eq_1)
  disjunction := keeps_none (Formula.disjunction.eq_1)
  alternatives := keeps_nothing Formula.alternatives.eq_1
  conjunction := keeps_none (Formula.conjunction.eq_1)
  requirements := keeps_nothing Formula.requirements.eq_1
  inversion := keeps_none (Formula.inversion.eq_1)
  relations ts ts' hts := by
    rw [Formula.relations, Formula.relations]
    exact ⟨rfl, rfl, hts⟩
  binary levels := keeps_none (Formula.binary.eq_1 levels)
  operands ops levels e e' he ts ts' hts := by
    rw [Formula.operands, Formula.operands]
    exact ⟨he, hts⟩
  factor := keeps_none (Formula.factor.eq_1)
  awaited := keeps_none (Formula.awaited.eq_1)
  primary := keeps_none (Formula.primary.eq_1)
  trailers e e' he ts ts' hts := by
    rw [Formula.trailers, Formula.trailers]
    exact ⟨he, hts⟩
  trailer e e' he ts ts' hts := by
    rw [Formula.trailer, Formula.trailer]
    exact .none
  arguments phase := keeps_none (Formula.arguments.eq_1 phase)
  moreArguments phase := keeps_none (Formula.moreArguments.eq_1 phase)
  subscripts := keeps_none (Formula.subscripts.eq_1)
  moreSubscripts := keeps_none (Formula.moreSubscripts.eq_1)
  subscript := keeps_none (Formula.subscript.eq_1)
  slice ts ts' hts := by
    rw [Formula.slice, Formula.slice]
    exact hts
  bound ts ts' hts := by
    rw [Formula.bound, Formula.bound]
    exact hts
  item := keeps_none (Formula.item.eq_1)
  items closing := keeps_none (Formula.items.eq_1 closing)
  moreItems closing := keeps_none (Formula.moreItems.eq_1 closing)
  atom := keeps_none (Formula.atom.eq_1)
  group := keeps_none (Formula.group.eq_1)
  bare := keeps_none (Formula.bare.eq_1)
  bareItem := keeps_none (Formula.bareItem.eq_1)
  bareItems := keeps_nothing Formula.bareItems.eq_1
  braces := keeps_none (Formula.braces.eq_1)
  pairs := keeps_none (Formula.pairs.eq_1)
  morePairs := keeps_none (Formula.morePairs.eq_1)
  pair := keeps_none (Formula.pair.eq_1)
  clauses := keeps_none (Formula.clauses.eq_1)
  tests ts ts' hts := by
    rw [Formula.tests, Formula.tests]
    exact hts
  targets := keeps_none (Formula.targets.eq_1)
  moreTargets := keeps_nothing Formula.moreTargets.eq_1
  target := keeps_none (Formula.target.eq_1)
  bracketedTargets := keeps_none (Formula.bracketedTargets.eq_1)
  parameters st := keeps_none (Formula.parameters.eq_1 st)
  nextParameter text text' st ts ts' hts := by
    rw [Formula.nextParameter, Formula.nextParameter]
    exact .none

end Uniform

/-- **The parser treats tokens that differ in texts alone alike.** -/
theorem uniform (n : Nat) : Uniform n := by
  induction n with
  | zero => exact .zero
  | succ n ih => exact ih.succ

/-! ## Whole formulas -/

section Formulas

variable {ts ts' : List Token} {bound : List (String × String)}

lemma Same.sizes_eq (h : Same ts ts') : ts.map Token.size = ts'.map Token.size := by
  induction h with
  | nil => rfl
  | cons t h ih => exact congrArg (t.size :: ·) ih
  | text s s' marked h ih => exact congrArg (1 :: ·) ih

lemma Same.length_eq (h : Same ts ts') : ts.length = ts'.length := by
  simpa using congrArg List.length h.sizes_eq

lemma onlyLineEnds_eq (h : Same ts ts') : onlyLineEnds ts = onlyLineEnds ts' := by
  induction h with
  | nil => rfl
  | cons t h ih =>
      rw [onlyLineEnds, List.all_cons, ← onlyLineEnds, ih]
      rfl
  | text s s' marked h ih => rfl

lemma same_moreExpressions (bound n : Nat) : Keeps SameTrees (moreExpressions bound n) := by
  induction n with
  | zero => exact fun ts ts' hts => ⟨rfl, hts⟩
  | succ n ih =>
      intro ts ts' hts
      rw [moreExpressions, moreExpressions]
      exact keeps_list (uniform bound).expression ih hts

/-- **Tokens that differ in texts alone have trees of one shape.** -/
theorem Syntax.rel_ofTokens? (h : Same ts ts') :
    Option.Rel (fun e e' => e.shape = e'.shape) (Syntax.ofTokens? ts) (Syntax.ofTokens? ts') := by
  rw [Syntax.ofTokens?, Syntax.ofTokens?, h.sizes_eq, h.length_eq]
  refine rel_bind ((uniform _).expression h) ?_
  rintro ⟨e, r⟩ ⟨e', r'⟩ ⟨he, hr⟩
  dsimp only
  rcases rel_cases (same_symbol? "," hr) with ⟨hx, hy⟩ | ⟨s, s', hx, hy, hs⟩
  · rw [hx, hy, onlyLineEnds_eq hr]
    dsimp only
    split
    · exact .some he
    · exact .none
  · obtain ⟨hes, hrest⟩ :=
      same_moreExpressions (32 * (ts'.map Token.size).foldl (· + ·) 2) (ts'.length + 1) hs
    rw [hx, hy]
    dsimp only
    rw [onlyLineEnds_eq hrest]
    split
    · exact .some (shape_tupleOf (shapes_cons he hes))
    · exact .none

lemma Syntax.function?_shape (e : Syntax) : e.shape.function? = e.function? := by
  cases e with
  | literal l => cases l <;> rfl
  | _ => rfl

lemma Syntax.allProblems_shapes {es : List Syntax}
    (h : ∀ e ∈ es, e.shape.problems bound = [] ↔ e.problems bound = []) :
    Syntax.allProblems bound (Syntax.shapes es) = [] ↔ Syntax.allProblems bound es = [] := by
  induction es with
  | nil => exact Iff.rfl
  | cons e es ih =>
      obtain ⟨he, hes⟩ := List.forall_mem_cons.1 h
      rw [Syntax.shapes, Syntax.allProblems, Syntax.allProblems, List.append_eq_nil_iff,
        List.append_eq_nil_iff, he, ih hes]

/-- No text is refused. -/
lemma Syntax.problems_shape (e : Syntax) : e.shape.problems bound = [] ↔
    e.problems bound = [] := by
  induction e using Syntax.induction with
  | literal l => cases l <;> simp [Syntax.shape, Syntax.problems, Literal.value?]
  | name id => exact Iff.rfl
  | unary op e he => simp [Syntax.shape, Syntax.problems, he]
  | binary op l r hl hr => simp [Syntax.shape, Syntax.problems, hl, hr]
  | junction op es hes => exact Syntax.allProblems_shapes hes
  | comparison e ops es he hes =>
      simp [Syntax.shape, Syntax.problems, he, Syntax.allProblems_shapes hes]
  | choice c y n hc hy hn => simp [Syntax.shape, Syntax.problems, hc, hy, hn]
  | call target args keywords _ hargs =>
      rw [Syntax.shape, Syntax.problems, Syntax.problems, Syntax.function?_shape]
      cases target.function? with
      | none => simp
      | some f => simp [Syntax.allProblems_shapes hargs]
  | foreign construct text level => exact Iff.rfl

/-- **Tokens have a term, whatever the texts in them are.** -/
theorem exists_term_of_same (h : Same ts ts') {e : Syntax} {t : Term}
    (he : Syntax.ofTokens? ts = some e) (ht : e.term? bound = some t) :
    ∃ e' t', Syntax.ofTokens? ts' = some e' ∧ e'.term? bound = some t' := by
  have hrel := Syntax.rel_ofTokens? h
  rw [he] at hrel
  cases hofTokens : Syntax.ofTokens? ts' with
  | none =>
      rw [hofTokens] at hrel
      cases hrel
  | some e' =>
      rw [hofTokens] at hrel
      have hshape : e.shape = e'.shape := by
        cases hrel
        assumption
      have hproblems : e'.problems bound = [] := by
        rw [← Syntax.problems_shape, ← hshape, Syntax.problems_shape,
          ← Syntax.isSome_term?, ht]
        rfl
      obtain ⟨t', ht'⟩ := Option.isSome_iff_exists.1 ((Syntax.isSome_term? e').2 hproblems)
      exact ⟨e', t', rfl, ht'⟩

end Formulas

end Crosswalk.Formula
