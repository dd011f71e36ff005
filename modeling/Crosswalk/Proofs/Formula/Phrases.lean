import Crosswalk.Formula.Grammar
import Crosswalk.Proofs.Formula.Whitelist
import Mathlib.Data.Set.List

/-!
# The phrases of formulas

The parser reads a whole language of expressions, of which formulas are a small part.  A tree of
this part comes from tokens that the grammar below describes.  The grammar does not say how tightly
operators bind, which the parser does; it says which tokens there are, and in which order.

* `Phrase` — **the grammar of formulas.**
* `Syntax.IsFormula` — trees without refused places, whatever names stand for fields.
* `Reads` — what the functions of the parser use up; `reads` says that **they use up phrases**.
* `Syntax.ofTokens?_eq_some` — the tokens of a formula are a phrase and line ends.
-/

namespace Crosswalk.Formula

/-! ## Phrases -/

/-- What a phrase is read as: a tree, or the part of one that stands behind its beginning. -/
inductive Reading where
  | tree (e : Syntax)
  /-- The operands behind the first one of a junction. -/
  | operands (op : Junction) (es : List Syntax)
  /-- The comparisons behind the first operand of a chain. -/
  | comparisons (ops : List Relation) (es : List Syntax)
  /-- The arguments of a call with the closing bracket. -/
  | arguments (es : List Syntax)

/-- A text between quotes, with whether it is marked. -/
def textToken (s : String × Bool) : Token := .quotation (.text s.1 s.2)

/-- **The phrases that formulas are made of.**  How tightly operators bind is left open. -/
inductive Phrase : List Token → Reading → Prop where
  | yes : Phrase [.word "True"] (.tree (.literal (.bool true)))
  | no : Phrase [.word "False"] (.tree (.literal (.bool false)))
  | absent : Phrase [.word "None"] (.tree (.literal .absent))
  | name {w : String} (h : w ∉ reservedWords) : Phrase [.word w] (.tree (.name (normalForm w)))
  | numeral (l : Literal) : Phrase [.numeral l] (.tree (.literal l))
  | texts (s : String × Bool) (more : List (String × Bool)) :
      Phrase ((s :: more).map textToken)
        (.tree (.literal (.text (String.join ((s :: more).map Prod.fst)) s.2)))
  | bracket {ts : List Token} {e : Syntax} (h : Phrase ts (.tree e)) :
      Phrase (.symbol "(" :: (ts ++ [.symbol ")"])) (.tree e)
  | sign {op : UnaryOp} {ts : List Token} {e : Syntax} (hop : op = .plus ∨ op = .minus)
      (h : Phrase ts (.tree e)) : Phrase (.symbol op.render :: ts) (.tree (.unary op e))
  | not {ts : List Token} {e : Syntax} (h : Phrase ts (.tree e)) :
      Phrase (.word "not" :: ts) (.tree (.unary .not e))
  | binary {op : BinaryOp} {ls rs : List Token} {l r : Syntax} (hl : Phrase ls (.tree l))
      (hr : Phrase rs (.tree r)) : Phrase (ls ++ .symbol op.render :: rs) (.tree (.binary op l r))
  | choice {cs ys ns : List Token} {c y n : Syntax} (hy : Phrase ys (.tree y))
      (hc : Phrase cs (.tree c)) (hn : Phrase ns (.tree n)) :
      Phrase (ys ++ .word "if" :: (cs ++ .word "else" :: ns)) (.tree (.choice c y n))
  | junction {op : Junction} {ts us : List Token} {e : Syntax} {es : List Syntax}
      (h : Phrase ts (.tree e)) (more : Phrase us (.operands op es)) :
      Phrase (ts ++ us) (.tree (.junction op (e :: es)))
  | noOperands (op : Junction) : Phrase [] (.operands op [])
  | operand {op : Junction} {ts us : List Token} {e : Syntax} {es : List Syntax}
      (h : Phrase ts (.tree e)) (more : Phrase us (.operands op es)) :
      Phrase (.word op.render :: (ts ++ us)) (.operands op (e :: es))
  | comparison {ts us : List Token} {e : Syntax} {ops : List Relation} {es : List Syntax}
      (h : Phrase ts (.tree e)) (more : Phrase us (.comparisons ops es)) :
      Phrase (ts ++ us) (.tree (.comparison e ops es))
  | noComparisons : Phrase [] (.comparisons [] [])
  | compared {op : Relation} {ts us : List Token} {e : Syntax} {ops : List Relation}
      {es : List Syntax} (h : Phrase ts (.tree e)) (more : Phrase us (.comparisons ops es)) :
      Phrase (.symbol op.render :: (ts ++ us)) (.comparisons (op :: ops) (e :: es))
  | call {ts us : List Token} {id : String} {args : List Syntax} (h : Phrase ts (.tree (.name id)))
      (more : Phrase us (.arguments args)) :
      Phrase (ts ++ .symbol "(" :: us) (.tree (.call (.name id) args []))
  | noArguments : Phrase [.symbol ")"] (.arguments [])
  | lastArgument {ts : List Token} {e : Syntax} (h : Phrase ts (.tree e)) :
      Phrase (ts ++ [.symbol ")"]) (.arguments [e])
  | argument {ts us : List Token} {e : Syntax} {es : List Syntax} (h : Phrase ts (.tree e))
      (more : Phrase us (.arguments es)) :
      Phrase (ts ++ .symbol "," :: us) (.arguments (e :: es))

/-! ## Trees without refused places -/

/-- **A tree that a formula could have**, if its names stood for fields. -/
def Syntax.IsFormula (e : Syntax) : Prop := ∃ bound, e.problems bound = []

section IsFormula

variable {e l r c y n : Syntax} {es : List Syntax}

lemma Syntax.not_isFormula_foreign (construct : Construct) (text : Layout) (level : Level) :
    ¬ (Syntax.foreign construct text level).IsFormula := by
  rintro ⟨bound, h⟩
  cases h

lemma Syntax.not_isFormula_tupleOf (es : List Syntax) : ¬ (tupleOf es).IsFormula := by
  rw [tupleOf]
  split <;> exact Syntax.not_isFormula_foreign _ _ _

/-- **Nothing comes out but trees outside of formulas.** -/
def IsOutside (x : Option (Syntax × List Token)) : Prop := ∀ p, x = some p → ¬ p.1.IsFormula

namespace IsOutside

lemma none : IsOutside none := nofun

lemma foreign {construct : Construct} {text : Layout} {level : Level} {rest : List Token} :
    IsOutside (some (.foreign construct text level, rest)) := by
  rintro p ⟨⟩
  exact Syntax.not_isFormula_foreign construct text level

lemma tupleOf {es : List Syntax} {rest : List Token} : IsOutside (some (tupleOf es, rest)) := by
  rintro p ⟨⟩
  exact Syntax.not_isFormula_tupleOf es

/-- Whatever is read before. -/
lemma bind {α : Type} {x : Option α} {f : α → Option (Syntax × List Token)}
    (h : ∀ a, IsOutside (f a)) : IsOutside (x >>= f) := by
  intro p hp
  obtain ⟨a, -, hp⟩ := Option.bind_eq_some_iff.1 hp
  exact h a p hp

end IsOutside

lemma Syntax.isFormula_name (id : String) : (Syntax.name id).IsFormula :=
  ⟨[(id, "")], by simp [Syntax.problems]⟩

lemma Syntax.IsFormula.unary {op : UnaryOp} (h : (Syntax.unary op e).IsFormula) :
    op ≠ .invert ∧ e.IsFormula := by
  obtain ⟨bound, h⟩ := h
  obtain ⟨hop, he⟩ := List.append_eq_nil_iff.1 h
  exact ⟨(by rintro rfl; cases hop), bound, he⟩

lemma Syntax.IsFormula.binary {op : BinaryOp} (h : (Syntax.binary op l r).IsFormula) :
    l.IsFormula ∧ r.IsFormula := by
  obtain ⟨bound, h⟩ := h
  obtain ⟨hl, hr⟩ := List.append_eq_nil_iff.1 h
  exact ⟨⟨bound, (List.append_eq_nil_iff.1 hl).1⟩, bound, hr⟩

lemma Syntax.IsFormula.junction {op : Junction} (h : (Syntax.junction op es).IsFormula) :
    ∀ e ∈ es, e.IsFormula := by
  obtain ⟨bound, h⟩ := h
  exact fun e he => ⟨bound, Syntax.allProblems_eq_nil.1 h e he⟩

lemma Syntax.IsFormula.comparison {ops : List Relation}
    (h : (Syntax.comparison e ops es).IsFormula) :
    e.IsFormula ∧ (∀ op ∈ ops, op.problems = []) ∧ ∀ e ∈ es, e.IsFormula := by
  obtain ⟨bound, h⟩ := h
  obtain ⟨h, hes⟩ := List.append_eq_nil_iff.1 h
  obtain ⟨he, hops⟩ := List.append_eq_nil_iff.1 h
  exact ⟨⟨bound, he⟩, List.flatMap_eq_nil_iff.1 hops,
    fun e he => ⟨bound, Syntax.allProblems_eq_nil.1 hes e he⟩⟩

lemma Syntax.IsFormula.choice (h : (Syntax.choice c y n).IsFormula) :
    c.IsFormula ∧ y.IsFormula ∧ n.IsFormula := by
  obtain ⟨bound, h⟩ := h
  obtain ⟨h, hn⟩ := List.append_eq_nil_iff.1 h
  obtain ⟨hc, hy⟩ := List.append_eq_nil_iff.1 h
  exact ⟨⟨bound, hc⟩, ⟨bound, hy⟩, bound, hn⟩

/-- What is called is called by its name, and nothing is given by keyword. -/
lemma Syntax.IsFormula.call {keywords : List Layout} (h : (Syntax.call e es keywords).IsFormula) :
    (∃ id, e = .name id) ∧ keywords = [] ∧ ∀ e ∈ es, e.IsFormula := by
  obtain ⟨bound, h⟩ := h
  rw [Syntax.problems] at h
  split at h
  · cases h
  · next id f hf =>
      obtain ⟨hkeywords, hes⟩ := List.append_eq_nil_iff.1 h
      refine ⟨?_, ?_, fun e he => ⟨bound, Syntax.allProblems_eq_nil.1 hes e he⟩⟩
      · cases e with
        | name id => exact ⟨id, rfl⟩
        | _ => cases hf
      · cases keywords with
        | nil => rfl
        | cons k ks => cases hkeywords

end IsFormula

/-! ## The parser reads phrases -/

/-- A function of the parser that uses up phrases. -/
def ReadsTrees (f : List Token → Option (Syntax × List Token)) : Prop :=
  ∀ ⦃ts : List Token⦄ ⦃e : Syntax⦄ ⦃rest : List Token⦄, f ts = some (e, rest) →
    e.IsFormula →
    ∃ used, ts = used ++ rest ∧ Phrase used (.tree e)

/-- A function of the parser that uses up the operands behind a first one. -/
def ReadsOperands (op : Junction) (f : List Token → List Syntax × List Token) : Prop :=
  ∀ ⦃ts : List Token⦄ ⦃es : List Syntax⦄ ⦃rest : List Token⦄, f ts = (es, rest) →
    (∀ e ∈ es, e.IsFormula) → ∃ used, ts = used ++ rest ∧ Phrase used (.operands op es)

/-- A function of the parser that uses up what makes a tree of a given one. -/
def Extends (e : Syntax) (ts : List Token) (e' : Syntax) (rest : List Token) : Prop :=
  e.IsFormula ∧ ∀ ls, Phrase ls (.tree e) →
    ∃ used, ts = used ++ rest ∧ Phrase (ls ++ used) (.tree e')

lemma ReadsTrees.of_none {f : List Token → Option (Syntax × List Token)}
    (h : ∀ ts, f ts = none) :
    ReadsTrees f := by
  intro ts e rest hparse
  rw [h] at hparse
  cases hparse

lemma Extends.refl {e : Syntax} (he : e.IsFormula) (ts : List Token) : Extends e ts e ts :=
  ⟨he, fun ls hls => ⟨[], rfl, by rwa [List.append_nil]⟩⟩

/-- Levels of operators that are written as they are rendered. -/
def AreRendered (levels : List (List (String × BinaryOp))) : Prop :=
  ∀ ops ∈ levels, ∀ p ∈ ops, p.1 = p.2.render

lemma areRendered_binaryOps : AreRendered binaryOps := by
  unfold AreRendered
  decide

/-- **What the functions of the parser use up**, with a bound on the depth of their calls. -/
structure Reads (n : Nat) : Prop where
  expression : ReadsTrees (expression n)
  namedExpression : ReadsTrees (namedExpression n)
  disjunction : ReadsTrees (disjunction n)
  alternatives : ReadsOperands .or (alternatives n)
  conjunction : ReadsTrees (conjunction n)
  requirements : ReadsOperands .and (requirements n)
  inversion : ReadsTrees (inversion n)
  relations : ∀ ⦃ts ops es rest⦄, relations n ts = (ops, es, rest) →
    (∀ op ∈ ops, op.problems = []) →
    (∀ e ∈ es, e.IsFormula) →
      ∃ used, ts = used ++ rest ∧ Phrase used (.comparisons ops es)
  binary : ∀ ⦃levels⦄, AreRendered levels → ReadsTrees (binary n levels)
  operands : ∀ ⦃ops levels left ts e rest⦄, AreRendered (ops :: levels) →
    operands n ops levels left ts = (e, rest) → e.IsFormula → Extends left ts e rest
  factor : ReadsTrees (factor n)
  awaited : ReadsTrees (awaited n)
  primary : ReadsTrees (primary n)
  trailers : ∀ ⦃left ts e rest⦄, trailers n left ts = (e, rest) → e.IsFormula →
    Extends left ts e rest
  trailer : ∀ ⦃left ts e rest⦄, trailer n left ts = some (e, rest) → e.IsFormula →
    Extends left ts e rest
  arguments : ∀ ⦃phase ts es rest⦄, arguments n phase ts = some (es, [], rest) →
    (∀ e ∈ es, e.IsFormula) → ∃ used, ts = used ++ rest ∧ Phrase used (.arguments es)
  moreArguments : ∀ ⦃phase ts es rest⦄, moreArguments n phase ts = some (es, [], rest) →
    (∀ e ∈ es, e.IsFormula) → ∃ used, ts = used ++ rest ∧
      ∀ ls e, Phrase ls (.tree e) → Phrase (ls ++ used) (.arguments (e :: es))
  item : ReadsTrees (item n)
  atom : ReadsTrees (atom n)
  group : ∀ ⦃ts e rest⦄, group n ts = some (e, rest) → e.IsFormula →
    ∃ used, ts = used ++ .symbol ")" :: rest ∧ Phrase used (.tree e)

section Steps

variable {n : Nat}

lemma symbol?_eq_some {s : String} {ts rest : List Token} (h : symbol? s ts = some rest) :
    ts = .symbol s :: rest := by
  revert h
  fun_cases symbol? s ts with
  | case1 => rintro ⟨⟩; rfl
  | case2 => nofun
  | case3 => nofun

lemma word?_eq_some {w : String} {ts rest : List Token} (h : word? w ts = some rest) :
    ts = .word w :: rest := by
  revert h
  fun_cases word? w ts with
  | case1 => rintro ⟨⟩; rfl
  | case2 => nofun
  | case3 => nofun

lemma Reads.expression_succ (h : Reads n) : ReadsTrees (Formula.expression (n + 1)) := by
  intro ts e rest hparse he
  rw [Formula.expression.eq_def] at hparse
  split at hparse
  · cases hparse
  · next heq =>
      cases heq
      exact absurd he (IsOutside.bind (fun _ => .bind fun _ => .bind fun _ => .foreign) _ hparse)
  · next heq _ =>
      cases heq
      obtain ⟨⟨yes, more⟩, hyes, hparse⟩ := Option.bind_eq_some_iff.1 hparse
      rcases Option.or_eq_some_iff.1 hparse with hwhole | ⟨-, hparse⟩
      · obtain ⟨ts₁, hif, hwhole⟩ := Option.bind_eq_some_iff.1 hwhole
        obtain ⟨⟨test, ts₂⟩, htest, hwhole⟩ := Option.bind_eq_some_iff.1 hwhole
        obtain ⟨ts₃, helse, hwhole⟩ := Option.bind_eq_some_iff.1 hwhole
        obtain ⟨⟨no, ts₄⟩, hno, hwhole⟩ := Option.bind_eq_some_iff.1 hwhole
        cases hwhole
        obtain ⟨hc, hy, hn⟩ := he.choice
        obtain ⟨ys, rfl, hys⟩ := h.disjunction hyes hy
        obtain rfl := word?_eq_some hif
        obtain ⟨cs, rfl, hcs⟩ := h.disjunction htest hc
        obtain rfl := word?_eq_some helse
        obtain ⟨ns, rfl, hns⟩ := h.expression hno hn
        exact ⟨_, by simp, .choice hys hcs hns⟩
      · cases hparse
        exact h.disjunction hyes he

lemma Reads.namedExpression_succ (h : Reads n) : ReadsTrees (Formula.namedExpression (n + 1)) := by
  intro ts e rest hparse he
  rw [Formula.namedExpression.eq_def] at hparse
  dsimp only at hparse
  split at hparse
  · split at hparse
    · cases hparse
    · exact absurd he (IsOutside.bind (fun _ => .foreign) _ hparse)
  · obtain ⟨⟨e, more⟩, hexpression, hparse⟩ := Option.bind_eq_some_iff.1 hparse
    dsimp only at hparse
    split at hparse
    · cases hparse
    · cases hparse
      exact h.expression hexpression he

/-- An operand and those behind it make a junction, unless it stands alone. -/
lemma Phrase.of_operands {op : Junction} {f : List Token → Option (Syntax × List Token)}
    {g : List Token → List Syntax × List Token} (hf : ReadsTrees f) (hg : ReadsOperands op g)
    {ts more : List Token} {e : Syntax} (hfirst : f ts = some (e, more))
    (he : (if (g more).1.isEmpty then e else .junction op (e :: (g more).1)).IsFormula) :
    ∃ used, ts = used ++ (g more).2 ∧
      Phrase used (.tree (if (g more).1.isEmpty then e else .junction op (e :: (g more).1))) := by
  obtain ⟨es, rest, hrest⟩ : ∃ es rest, g more = (es, rest) := ⟨_, _, rfl⟩
  rw [hrest] at he ⊢
  cases es with
  | nil =>
      obtain ⟨us, rfl, hus⟩ := hg hrest (List.forall_mem_nil _)
      obtain ⟨used, rfl, hused⟩ := hf hfirst he
      cases hus
      exact ⟨used, rfl, hused⟩
  | cons x es =>
      obtain ⟨he, hes⟩ := List.forall_mem_cons.1 he.junction
      obtain ⟨us, rfl, hus⟩ := hg hrest hes
      obtain ⟨used, rfl, hused⟩ := hf hfirst he
      exact ⟨used ++ us, (List.append_assoc used us rest).symm, .junction hused hus⟩

/-- The operands behind an operator are one operand and those behind it. -/
lemma Phrase.operands_cons {op : Junction} {f : List Token → Option (Syntax × List Token)}
    {g : List Token → List Syntax × List Token} (hf : ReadsTrees f) (hg : ReadsOperands op g)
    {ts more rest : List Token} {e : Syntax} {es : List Syntax}
    (hfirst : (word? op.render ts).bind f = some (e, more)) (hrest : g more = (es, rest))
    (hes : ∀ x ∈ e :: es, x.IsFormula) :
    ∃ used, ts = used ++ rest ∧ Phrase used (.operands op (e :: es)) := by
  obtain ⟨ts, hword, hexpression⟩ := Option.bind_eq_some_iff.1 hfirst
  obtain ⟨he, hes⟩ := List.forall_mem_cons.1 hes
  obtain rfl := word?_eq_some hword
  obtain ⟨us, rfl, hus⟩ := hg hrest hes
  obtain ⟨used, rfl, hused⟩ := hf hexpression he
  exact ⟨.word op.render :: (used ++ us), by simp, .operand hused hus⟩

lemma Reads.disjunction_succ (h : Reads n) : ReadsTrees (Formula.disjunction (n + 1)) := by
  intro ts e rest hparse he
  rw [Formula.disjunction] at hparse
  obtain ⟨⟨first, more⟩, hfirst, hparse⟩ := Option.bind_eq_some_iff.1 hparse
  cases hparse
  exact Phrase.of_operands h.conjunction h.alternatives hfirst he

lemma Reads.conjunction_succ (h : Reads n) : ReadsTrees (Formula.conjunction (n + 1)) := by
  intro ts e rest hparse he
  rw [Formula.conjunction] at hparse
  obtain ⟨⟨first, more⟩, hfirst, hparse⟩ := Option.bind_eq_some_iff.1 hparse
  cases hparse
  exact Phrase.of_operands h.inversion h.requirements hfirst he

lemma Reads.alternatives_succ (h : Reads n) : ReadsOperands .or (Formula.alternatives (n + 1)) := by
  intro ts es rest hparse hes
  rw [Formula.alternatives] at hparse
  split at hparse
  · next e more hfirst =>
      cases hparse
      exact Phrase.operands_cons h.conjunction h.alternatives hfirst rfl hes
  · cases hparse
    exact ⟨[], rfl, .noOperands _⟩

lemma Reads.requirements_succ (h : Reads n) :
    ReadsOperands .and (Formula.requirements (n + 1)) := by
  intro ts es rest hparse hes
  rw [Formula.requirements] at hparse
  split at hparse
  · next e more hfirst =>
      cases hparse
      exact Phrase.operands_cons h.inversion h.requirements hfirst rfl hes
  · cases hparse
    exact ⟨[], rfl, .noOperands _⟩

/-- Without a comparison nothing is used up. -/
lemma relations_eq_nil {ts rest : List Token} {es : List Syntax}
    (h : relations n ts = ([], es, rest)) : es = [] ∧ rest = ts := by
  cases n with
  | zero =>
      rw [relations] at h
      cases h
      exact ⟨rfl, rfl⟩
  | succ n =>
      rw [relations] at h
      split at h <;> cases h
      exact ⟨rfl, rfl⟩

lemma Reads.inversion_succ (h : Reads n) : ReadsTrees (Formula.inversion (n + 1)) := by
  intro ts e rest hparse he
  rw [Formula.inversion.eq_def] at hparse
  split at hparse
  · cases hparse
  · next heq =>
      cases heq
      obtain ⟨⟨operand, more⟩, hoperand, hparse⟩ := Option.bind_eq_some_iff.1 hparse
      cases hparse
      obtain ⟨used, rfl, hused⟩ := h.inversion hoperand he.unary.2
      exact ⟨.word "not" :: used, rfl, .not hused⟩
  · next heq _ =>
      cases heq
      obtain ⟨⟨first, more⟩, hfirst, hparse⟩ := Option.bind_eq_some_iff.1 hparse
      obtain ⟨ops, es, tail, hrest⟩ :
          ∃ ops es tail, Formula.relations n more = (ops, es, tail) := ⟨_, _, _, rfl⟩
      dsimp only at hparse
      rw [hrest] at hparse
      cases hparse
      cases ops with
      | nil =>
          obtain ⟨-, rfl⟩ := relations_eq_nil hrest
          exact h.binary areRendered_binaryOps hfirst he
      | cons op ops =>
          obtain ⟨he, hops, hes⟩ := he.comparison
          obtain ⟨us, rfl, hus⟩ := h.relations hrest hops hes
          obtain ⟨used, rfl, hused⟩ := h.binary areRendered_binaryOps hfirst he
          exact ⟨used ++ us, (List.append_assoc used us tail).symm, .comparison hused hus⟩

/-- A comparison that formulas have is written as it is rendered. -/
lemma relation?_eq_some {ts rest : List Token} {op : Relation} (h : relation? ts = some (op, rest))
    (hop : op.problems = []) : ts = .symbol op.render :: rest := by
  revert h
  fun_cases relation? ts with
  | case1 s rest =>
      intro h
      obtain ⟨op, hlookup, h⟩ := Option.map_eq_some_iff.1 h
      cases h
      have hrendered : ∀ p ∈ [("==", Relation.eq), ("!=", .notEq), ("<=", .lessEq),
          ("<", .less), (">=", .greaterEq), (">", .greater)], p.1 = p.2.render := by decide
      rw [← hrendered (s, op) (mem_of_lookup hlookup)]
  | case2 | case3 | case4 | case5 =>
      rintro ⟨⟩
      cases hop
  | case6 => nofun

lemma Reads.relations_succ (h : Reads n) {ts rest : List Token} {ops : List Relation}
    {es : List Syntax} (hparse : Formula.relations (n + 1) ts = (ops, es, rest))
    (hops : ∀ op ∈ ops, op.problems = []) (hes : ∀ e ∈ es, e.IsFormula) :
    ∃ used, ts = used ++ rest ∧ Phrase used (.comparisons ops es) := by
  rw [Formula.relations] at hparse
  split at hparse
  · next op e more hfirst =>
      obtain ⟨⟨op, ts'⟩, hop, hfirst⟩ := Option.bind_eq_some_iff.1 hfirst
      obtain ⟨⟨e, more⟩, hexpression, hfirst⟩ := Option.bind_eq_some_iff.1 hfirst
      cases hfirst
      cases hparse
      obtain ⟨hproblems, hops⟩ := List.forall_mem_cons.1 hops
      obtain ⟨he, hes⟩ := List.forall_mem_cons.1 hes
      obtain rfl := relation?_eq_some hop hproblems
      obtain ⟨used, rfl, hused⟩ := h.binary areRendered_binaryOps hexpression he
      obtain ⟨us, hmore, hus⟩ := @h.relations more _ _ _ rfl hops hes
      exact ⟨.symbol op.render :: (used ++ us), by simp [← hmore], .compared hused hus⟩
  · cases hparse
    exact ⟨[], rfl, .noComparisons⟩

lemma Reads.binary_succ (h : Reads n) {levels : List (List (String × BinaryOp))}
    (hlevels : AreRendered levels) : ReadsTrees (Formula.binary (n + 1) levels) := by
  intro ts e rest hparse he
  cases levels with
  | nil =>
      rw [Formula.binary] at hparse
      exact h.factor hparse he
  | cons ops levels =>
      rw [Formula.binary] at hparse
      obtain ⟨⟨first, more⟩, hfirst, hparse⟩ := Option.bind_eq_some_iff.1 hparse
      obtain ⟨hformula, hextends⟩ := h.operands hlevels (Option.some.inj hparse) he
      obtain ⟨ls, rfl, hls⟩ := h.binary (List.forall_mem_cons.1 hlevels).2 hfirst hformula
      obtain ⟨us, rfl, hus⟩ := hextends ls hls
      exact ⟨ls ++ us, (List.append_assoc ls us rest).symm, hus⟩

lemma operator?_eq_some {ops : List (String × BinaryOp)} {ts rest : List Token} {op : BinaryOp}
    (h : operator? ops ts = some (op, rest)) (hops : ∀ p ∈ ops, p.1 = p.2.render) :
    ts = .symbol op.render :: rest := by
  revert h
  fun_cases operator? ops ts with
  | case1 s rest =>
      intro h
      obtain ⟨op, hlookup, h⟩ := Option.map_eq_some_iff.1 h
      cases h
      rw [← hops (s, op) (mem_of_lookup hlookup)]
  | case2 => nofun

lemma Reads.operands_succ (h : Reads n) {ops : List (String × BinaryOp)}
    {levels : List (List (String × BinaryOp))} {left e : Syntax} {ts rest : List Token}
    (hlevels : AreRendered (ops :: levels))
    (hparse : Formula.operands (n + 1) ops levels left ts = (e, rest)) (he : e.IsFormula) :
    Extends left ts e rest := by
  rw [Formula.operands] at hparse
  split at hparse
  · next op right more hfirst =>
      obtain ⟨⟨op, ts'⟩, hop, hfirst⟩ := Option.bind_eq_some_iff.1 hfirst
      obtain ⟨⟨right, more⟩, hright, hfirst⟩ := Option.bind_eq_some_iff.1 hfirst
      cases hfirst
      obtain ⟨hops, htighter⟩ := List.forall_mem_cons.1 hlevels
      obtain rfl := operator?_eq_some hop hops
      obtain ⟨hformula, hextends⟩ := h.operands hlevels hparse he
      obtain ⟨hl, hr⟩ := hformula.binary
      obtain ⟨rs, rfl, hrs⟩ := h.binary htighter hright hr
      refine ⟨hl, fun ls hls => ?_⟩
      obtain ⟨us, rfl, hus⟩ := hextends _ (.binary hls hrs)
      exact ⟨.symbol op.render :: (rs ++ us), by simp, by simpa using hus⟩
  · cases hparse
    exact .refl he _

/-- A sign that formulas have is written as it is rendered. -/
lemma sign?_eq_some {ts rest : List Token} {op : UnaryOp} (h : sign? ts = some (op, rest))
    (hop : op ≠ .invert) : (op = .plus ∨ op = .minus) ∧ ts = .symbol op.render :: rest := by
  revert h
  fun_cases sign? ts with
  | case1 rest =>
      rintro ⟨⟩
      exact ⟨Or.inl rfl, rfl⟩
  | case2 rest =>
      rintro ⟨⟩
      exact ⟨Or.inr rfl, rfl⟩
  | case3 rest =>
      rintro ⟨⟩
      exact absurd rfl hop
  | case4 => nofun

lemma Reads.factor_succ (h : Reads n) : ReadsTrees (Formula.factor (n + 1)) := by
  intro ts e rest hparse he
  rw [Formula.factor] at hparse
  split at hparse
  · next op more hsign =>
      obtain ⟨⟨operand, tail⟩, hoperand, hparse⟩ := Option.bind_eq_some_iff.1 hparse
      cases hparse
      obtain ⟨hop, hformula⟩ := he.unary
      obtain ⟨hop, rfl⟩ := sign?_eq_some hsign hop
      obtain ⟨used, rfl, hused⟩ := h.factor hoperand hformula
      exact ⟨.symbol op.render :: used, rfl, .sign hop hused⟩
  · obtain ⟨⟨base, more⟩, hbase, hparse⟩ := Option.bind_eq_some_iff.1 hparse
    rcases Option.or_eq_some_iff.1 hparse with hwhole | ⟨-, hparse⟩
    · obtain ⟨ts', hsymbol, hwhole⟩ := Option.bind_eq_some_iff.1 hwhole
      obtain ⟨⟨exponent, tail⟩, hexponent, hwhole⟩ := Option.bind_eq_some_iff.1 hwhole
      cases hwhole
      obtain ⟨hl, hr⟩ := he.binary
      obtain ⟨ls, rfl, hls⟩ := h.awaited hbase hl
      obtain rfl := symbol?_eq_some hsymbol
      obtain ⟨rs, rfl, hrs⟩ := h.factor hexponent hr
      exact ⟨ls ++ .symbol BinaryOp.pow.render :: rs, by rw [List.append_assoc]; rfl,
        .binary hls hrs⟩
    · cases hparse
      exact h.awaited hbase he

lemma Reads.awaited_succ (h : Reads n) : ReadsTrees (Formula.awaited (n + 1)) := by
  intro ts e rest hparse he
  rw [Formula.awaited.eq_def] at hparse
  split at hparse
  · cases hparse
  · exact absurd he (IsOutside.bind (fun _ => .foreign) _ hparse)
  · next heq _ =>
      cases heq
      exact h.primary hparse he

lemma Reads.primary_succ (h : Reads n) : ReadsTrees (Formula.primary (n + 1)) := by
  intro ts e rest hparse he
  rw [Formula.primary] at hparse
  obtain ⟨⟨first, more⟩, hfirst, hparse⟩ := Option.bind_eq_some_iff.1 hparse
  obtain ⟨hformula, hextends⟩ := h.trailers (Option.some.inj hparse) he
  obtain ⟨ls, rfl, hls⟩ := h.atom hfirst hformula
  obtain ⟨us, rfl, hus⟩ := hextends ls hls
  exact ⟨ls ++ us, (List.append_assoc ls us rest).symm, hus⟩

lemma Reads.trailers_succ (h : Reads n) {left e : Syntax} {ts rest : List Token}
    (hparse : Formula.trailers (n + 1) left ts = (e, rest)) (he : e.IsFormula) :
    Extends left ts e rest := by
  rw [Formula.trailers] at hparse
  split at hparse
  · next e' more htrailer =>
      obtain ⟨hformula, hextends⟩ := h.trailers hparse he
      obtain ⟨hleft, hextends'⟩ := h.trailer htrailer hformula
      refine ⟨hleft, fun ls hls => ?_⟩
      obtain ⟨us, rfl, hus⟩ := hextends' ls hls
      obtain ⟨vs, rfl, hvs⟩ := hextends _ hus
      exact ⟨us ++ vs, (List.append_assoc us vs rest).symm, by rwa [← List.append_assoc]⟩
  · cases hparse
    exact .refl he _

/-- Behind the target of a call there is nothing but its arguments. -/
lemma Reads.trailer_succ (h : Reads n) {left e : Syntax} {ts rest : List Token}
    (hparse : Formula.trailer (n + 1) left ts = some (e, rest)) (he : e.IsFormula) :
    Extends left ts e rest := by
  rw [Formula.trailer.eq_def] at hparse
  split at hparse
  · cases hparse
  · exact absurd he (IsOutside.bind (fun _ => .foreign) _ hparse)
  · next heq =>
      cases heq
      obtain ⟨⟨args, keywords, more⟩, hargs, hparse⟩ := Option.bind_eq_some_iff.1 hparse
      cases hparse
      obtain ⟨⟨id, rfl⟩, rfl, hformula⟩ := he.call
      obtain ⟨us, rfl, hus⟩ := h.arguments hargs hformula
      exact ⟨Syntax.isFormula_name id,
        fun ls hls => ⟨.symbol "(" :: us, rfl, .call hls hus⟩⟩
  · exact absurd he (IsOutside.bind (fun _ => .bind fun _ => .foreign) _ hparse)
  · cases hparse

lemma Reads.arguments_succ (h : Reads n) {phase : Nat} {ts rest : List Token} {es : List Syntax}
    (hparse : Formula.arguments (n + 1) phase ts = some (es, [], rest))
    (hes : ∀ e ∈ es, e.IsFormula) :
    ∃ used, ts = used ++ rest ∧ Phrase used (.arguments es) := by
  rw [Formula.arguments.eq_def] at hparse
  dsimp only at hparse
  split at hparse
  · cases hparse
    exact ⟨[.symbol ")"], rfl, .noArguments⟩
  · obtain ⟨⟨e, more⟩, -, hparse⟩ := Option.bind_eq_some_iff.1 hparse
    obtain ⟨⟨args, keywords, more⟩, -, hparse⟩ := Option.bind_eq_some_iff.1 hparse
    cases hparse
  · split at hparse
    · cases hparse
    · obtain ⟨⟨e, more⟩, -, hparse⟩ := Option.bind_eq_some_iff.1 hparse
      obtain ⟨⟨args, keywords, more⟩, -, hparse⟩ := Option.bind_eq_some_iff.1 hparse
      cases hparse
      exact absurd (hes _ List.mem_cons_self) (Syntax.not_isFormula_foreign _ _ _)
  · split at hparse
    · cases hparse
    · obtain ⟨⟨e, more⟩, -, hparse⟩ := Option.bind_eq_some_iff.1 hparse
      obtain ⟨⟨args, keywords, more⟩, -, hparse⟩ := Option.bind_eq_some_iff.1 hparse
      cases hparse
  · split at hparse
    · cases hparse
    · obtain ⟨⟨e, more⟩, hexpression, hparse⟩ := Option.bind_eq_some_iff.1 hparse
      dsimp only at hparse
      split at hparse
      · obtain ⟨⟨text, more⟩, -, hparse⟩ := Option.bind_eq_some_iff.1 hparse
        obtain ⟨more', -, hparse⟩ := Option.bind_eq_some_iff.1 hparse
        cases hparse
        exact absurd (hes _ List.mem_cons_self) (Syntax.not_isFormula_foreign _ _ _)
      · obtain ⟨⟨args, keywords, tail⟩, hmore, hparse⟩ := Option.bind_eq_some_iff.1 hparse
        cases hparse
        obtain ⟨he, hes⟩ := List.forall_mem_cons.1 hes
        obtain ⟨us, rfl, hus⟩ := h.moreArguments hmore hes
        obtain ⟨used, rfl, hused⟩ := h.namedExpression hexpression he
        exact ⟨used ++ us, (List.append_assoc used us tail).symm, hus used e hused⟩

lemma Reads.moreArguments_succ (h : Reads n) {phase : Nat} {ts rest : List Token} {es : List Syntax}
    (hparse : Formula.moreArguments (n + 1) phase ts = some (es, [], rest))
    (hes : ∀ e ∈ es, e.IsFormula) : ∃ used, ts = used ++ rest ∧
      ∀ ls e, Phrase ls (.tree e) → Phrase (ls ++ used) (.arguments (e :: es)) := by
  rw [Formula.moreArguments.eq_def] at hparse
  split at hparse
  · cases hparse
  · cases hparse
    exact ⟨[.symbol ")"], rfl, fun ls e hls => .lastArgument hls⟩
  · next heq =>
      cases heq
      obtain ⟨us, rfl, hus⟩ := h.arguments hparse hes
      exact ⟨.symbol "," :: us, rfl, fun ls e hls => .argument hls hus⟩
  · cases hparse

lemma Reads.item_succ (h : Reads n) : ReadsTrees (Formula.item (n + 1)) := by
  intro ts e rest hparse he
  rw [Formula.item.eq_def] at hparse
  split at hparse
  · cases hparse
  · exact absurd he (IsOutside.bind (fun _ => .foreign) _ hparse)
  · next heq _ =>
      cases heq
      exact h.namedExpression hparse he

lemma quotations_eq (ts : List Token) :
    ts = (quotations ts).1.map Token.quotation ++ (quotations ts).2 := by
  fun_induction quotations ts with
  | case1 q rest qs tail h ih =>
      rw [h] at ih
      exact congrArg (.quotation q :: ·) ih
  | case2 => rfl

/-- Quotations that make a tree of a formula are texts. -/
lemma joined_eq_some {qs : List Quotation} {e : Syntax} (h : joined n qs = some e)
    (he : e.IsFormula) (hne : qs ≠ []) : ∃ (s : String × Bool) (more : List (String × Bool)),
      qs.map Token.quotation = (s :: more).map textToken ∧
        e = .literal (.text (String.join ((s :: more).map Prod.fst)) s.2) := by
  cases n with
  | zero =>
      rw [joined] at h
      cases h
  | succ n =>
      rw [joined.eq_def] at h
      dsimp only at h
      split at h
      · cases h
        obtain ⟨bound, he⟩ := he
        cases he
      · split at h
        · cases h
        · next hoctets =>
            split at h
            · obtain ⟨text, -, h⟩ := Option.bind_eq_some_iff.1 h
              cases h
              exact absurd he (Syntax.not_isFormula_foreign _ _ _)
            · next hfields =>
                let toQuotation : String × Bool → Quotation := fun s => .text s.1 s.2
                have htexts : ∀ q ∈ qs, q ∈ Set.range toQuotation := by
                  intro q hq
                  cases q with
                  | text s marked => exact ⟨(s, marked), rfl⟩
                  | octets bytes => exact absurd (List.any_eq_true.2 ⟨_, hq, rfl⟩) hoctets
                  | fields raw body => exact absurd (List.any_eq_true.2 ⟨_, hq, rfl⟩) hfields
                obtain ⟨ss, rfl⟩ := (Set.range_list_map toQuotation).symm.subset htexts
                cases ss with
                | nil => exact absurd rfl hne
                | cons s more =>
                    cases h
                    refine ⟨s, more, List.map_map, ?_⟩
                    rw [List.map_map]
                    rfl

lemma Reads.group_succ (h : Reads n) {ts rest : List Token} {e : Syntax}
    (hparse : Formula.group (n + 1) ts = some (e, rest)) (he : e.IsFormula) :
    ∃ used, ts = used ++ .symbol ")" :: rest ∧ Phrase used (.tree e) := by
  rw [Formula.group.eq_def] at hparse
  split at hparse
  · cases hparse
  · cases hparse
    exact absurd he (Syntax.not_isFormula_foreign _ _ _)
  · exact absurd he (IsOutside.bind (fun _ => .bind fun _ => .foreign) _ hparse)
  · split at hparse
    · cases hparse
      exact absurd he (Syntax.not_isFormula_foreign _ _ _)
    · exact absurd he (IsOutside.bind (fun _ => .bind fun _ => .foreign) _ hparse)
  · next heq _ _ _ =>
      cases heq
      obtain ⟨⟨e, more⟩, hitem, hparse⟩ := Option.bind_eq_some_iff.1 hparse
      dsimp only at hparse
      split at hparse
      · exact absurd he (IsOutside.bind (fun _ => .bind fun _ => .foreign) _ hparse)
      · split at hparse
        · next hsymbol =>
            split at hparse
            · cases hparse
            · cases hparse
              obtain rfl := symbol?_eq_some hsymbol
              exact h.item hitem he
        · exact absurd he (IsOutside.bind (fun _ => .tupleOf) _ hparse)

/-- Braces make no tree of a formula. -/
lemma isOutside_braces (ts : List Token) : IsOutside (braces n ts) := by
  cases n with
  | zero =>
      rw [braces]
      exact .none
  | succ n =>
      rw [braces]
      split
      · exact .bind fun _ => .foreign
      · refine .bind ?_
        rintro ⟨e, rest⟩
        dsimp only
        split
        · split
          · exact .none
          · refine .bind ?_
            rintro ⟨value, rest⟩
            dsimp only
            split
            · exact .bind fun _ => .bind fun _ => .foreign
            · exact .bind fun _ => .foreign
        · split
          · exact .bind fun _ => .bind fun _ => .foreign
          · exact .bind fun _ => .foreign

lemma Reads.atom_succ (h : Reads n) : ReadsTrees (Formula.atom (n + 1)) := by
  intro ts e rest hparse he
  rw [Formula.atom.eq_def] at hparse
  dsimp only at hparse
  split at hparse
  · cases hparse
    exact ⟨[.word "True"], rfl, .yes⟩
  · cases hparse
    exact ⟨[.word "False"], rfl, .no⟩
  · cases hparse
    exact ⟨[.word "None"], rfl, .absent⟩
  · split at hparse
    · cases hparse
    · next w rest _ _ _ hw =>
        cases hparse
        exact ⟨[.word w], rfl, .name hw⟩
  · cases hparse
    exact ⟨[.numeral _], rfl, .numeral _⟩
  · next q more =>
      obtain ⟨qs, tail, hqs⟩ : ∃ qs tail, quotations (.quotation q :: more) = (qs, tail) :=
        ⟨_, _, rfl⟩
      rw [hqs] at hparse
      obtain ⟨e, hjoined, hparse⟩ := Option.bind_eq_some_iff.1 hparse
      cases hparse
      have hne : qs ≠ [] := by
        rintro rfl
        rw [quotations] at hqs
        cases hqs
      obtain ⟨s, ss, htexts, rfl⟩ := joined_eq_some hjoined he hne
      have hts := quotations_eq (.quotation q :: more)
      rw [hqs, htexts] at hts
      exact ⟨_, hts, .texts s ss⟩
  · cases hparse
    obtain ⟨bound, he⟩ := he
    cases he
  · next more =>
      obtain ⟨used, rfl, hused⟩ := h.group hparse he
      exact ⟨.symbol "(" :: (used ++ [.symbol ")"]), by simp, .bracket hused⟩
  · split at hparse
    · cases hparse
      exact absurd he (Syntax.not_isFormula_foreign _ _ _)
    · obtain ⟨⟨e, more⟩, -, hparse⟩ := Option.bind_eq_some_iff.1 hparse
      dsimp only at hparse
      split at hparse
      · exact absurd he (IsOutside.bind (fun _ => .bind fun _ => .foreign) _ hparse)
      · exact absurd he (IsOutside.bind (fun _ => .foreign) _ hparse)
  · exact absurd he (isOutside_braces _ _ hparse)
  · cases hparse

/-- Without a bound nothing is read. -/
lemma reads_zero : Reads 0 where
  expression := .of_none fun _ => by rw [expression]
  namedExpression := .of_none fun _ => by rw [namedExpression]
  disjunction := .of_none fun _ => by rw [disjunction]
  alternatives := by
    intro ts es rest hparse _
    rw [alternatives] at hparse
    cases hparse
    exact ⟨[], rfl, .noOperands _⟩
  conjunction := .of_none fun _ => by rw [conjunction]
  requirements := by
    intro ts es rest hparse _
    rw [requirements] at hparse
    cases hparse
    exact ⟨[], rfl, .noOperands _⟩
  inversion := .of_none fun _ => by rw [inversion]
  relations := by
    intro ts ops es rest hparse _ _
    rw [relations] at hparse
    cases hparse
    exact ⟨[], rfl, .noComparisons⟩
  binary := fun levels _ => .of_none fun _ => by rw [binary]
  operands := by
    intro ops levels left ts e rest _ hparse he
    rw [operands] at hparse
    cases hparse
    exact .refl he _
  factor := .of_none fun _ => by rw [factor]
  awaited := .of_none fun _ => by rw [awaited]
  primary := .of_none fun _ => by rw [primary]
  trailers := by
    intro left ts e rest hparse he
    rw [trailers] at hparse
    cases hparse
    exact .refl he _
  trailer := by
    intro left ts e rest hparse
    rw [trailer] at hparse
    cases hparse
  arguments := by
    intro phase ts es rest hparse
    rw [arguments] at hparse
    cases hparse
  moreArguments := by
    intro phase ts es rest hparse
    rw [moreArguments] at hparse
    cases hparse
  item := .of_none fun _ => by rw [item]
  atom := .of_none fun _ => by rw [atom]
  group := by
    intro ts e rest hparse
    rw [group] at hparse
    cases hparse

/-- **The parser reads phrases**, at every depth. -/
theorem reads (n : Nat) : Reads n := by
  induction n with
  | zero => exact reads_zero
  | succ n ih =>
      exact ⟨ih.expression_succ, ih.namedExpression_succ, ih.disjunction_succ,
        ih.alternatives_succ, ih.conjunction_succ, ih.requirements_succ, ih.inversion_succ,
        fun _ _ _ _ => ih.relations_succ, fun _ => ih.binary_succ,
        fun _ _ _ _ _ _ => ih.operands_succ, ih.factor_succ, ih.awaited_succ, ih.primary_succ,
        fun _ _ _ _ => ih.trailers_succ, fun _ _ _ _ => ih.trailer_succ,
        fun _ _ _ _ => ih.arguments_succ, fun _ _ _ _ => ih.moreArguments_succ, ih.item_succ,
          ih.atom_succ, fun _ _ _ => ih.group_succ⟩

end Steps

/-! ## Whole texts -/

/-- **The tokens of a formula are a phrase and line ends behind it.** -/
theorem Syntax.ofTokens?_eq_some {ts : List Token} {e : Syntax} (h : Syntax.ofTokens? ts = some e)
    (he : e.IsFormula) :
    ∃ used rest, ts = used ++ rest ∧ Phrase used (.tree e) ∧ onlyLineEnds rest := by
  rw [Syntax.ofTokens?] at h
  obtain ⟨⟨first, more⟩, hfirst, h⟩ := Option.bind_eq_some_iff.1 h
  dsimp only at h
  split at h
  · split at h
    · next hends =>
        cases h
        obtain ⟨used, rfl, hused⟩ := (reads _).expression hfirst he
        exact ⟨used, more, rfl, hused, hends⟩
    · cases h
  · split at h
    · cases h
      exact absurd he (Syntax.not_isFormula_tupleOf _)
    · cases h

end Crosswalk.Formula
