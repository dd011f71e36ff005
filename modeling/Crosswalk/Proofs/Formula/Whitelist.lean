import Crosswalk.Formula.Compiled
import Crosswalk.Proofs.Sequence

/-!
# What a formula may be made of, and what its evaluation meets

The check of a formula goes down its tree: it looks at some nodes itself, leaves others to what
stands below them, and turns back at the first foreign construct.  Here it is compared with a plain
list of what every single node may be, wherever it stands.  A tree is accepted exactly when all of
its nodes are on that list, and then it has a term; the term reads no field but those of the
placeholders, so a row that has them all leaves nothing undefined.

* `Syntax.induction`, `Term.induction` — induction on the two kinds of trees.
* `Syntax.nodes` — **all nodes of a tree**, at every depth.
* `Syntax.IsAllowed` — what a node may be.
* `Syntax.problems_eq_nil_iff` — **no problems exactly when every node is allowed.**
* `Syntax.isSome_term?` — a term exactly when there are no problems; `Syntax.term?_induction` is
  induction on the trees that have one.
* `Term.fields` — the labels that a term reads; `Term.evaluate_congr` says that its value depends
  on nothing else.
* **`compile_iff`** — which sources are formulas, and how their evaluation ends.
-/

namespace Crosswalk.Formula

/-! ## Induction -/

/-- Induction on the trees of expressions. -/
@[elab_as_elim]
theorem Syntax.induction {P : Syntax → Prop} (literal : ∀ l, P (.literal l))
    (name : ∀ id, P (.name id)) (unary : ∀ op e, P e → P (.unary op e))
    (binary : ∀ op l r, P l → P r → P (.binary op l r))
    (junction : ∀ op es, (∀ e ∈ es, P e) → P (.junction op es))
    (comparison : ∀ e ops es, P e → (∀ e ∈ es, P e) → P (.comparison e ops es))
    (choice : ∀ c y n, P c → P y → P n → P (.choice c y n))
    (call : ∀ f args keywords, P f → (∀ e ∈ args, P e) → P (.call f args keywords))
    (foreign : ∀ construct text level, P (.foreign construct text level)) (e : Syntax) : P e := by
  exact @Syntax.rec P (fun es => ∀ e ∈ es, P e)
    literal name unary binary junction comparison choice call foreign
    (List.forall_mem_nil P) (fun _ _ he hes => List.forall_mem_cons.2 ⟨he, hes⟩) e

/-- Induction on terms. -/
@[elab_as_elim]
theorem Term.induction {P : Term → Prop} (literal : ∀ v, P (.literal v))
    (field : ∀ label, P (.field label)) (unary : ∀ op t, P t → P (.unary op t))
    (binary : ∀ op l r, P l → P r → P (.binary op l r))
    (junction : ∀ op ts, (∀ t ∈ ts, P t) → P (.junction op ts))
    (comparison : ∀ t ops ts, P t → (∀ t ∈ ts, P t) → P (.comparison t ops ts))
    (choice : ∀ c y n, P c → P y → P n → P (.choice c y n))
    (call : ∀ f args, (∀ t ∈ args, P t) → P (.call f args)) (t : Term) : P t := by
  exact @Term.rec P (fun ts => ∀ t ∈ ts, P t)
    literal field unary binary junction comparison choice call
    (List.forall_mem_nil P) (fun _ _ ht hts => List.forall_mem_cons.2 ⟨ht, hts⟩) t

/-! ## The nodes of a tree -/

mutual

/-- **The nodes of a tree**, at every depth.  The target of a call belongs to the call. -/
def Syntax.nodes : Syntax → List Syntax
  | .literal l => [.literal l]
  | .name id => [.name id]
  | .unary op e => .unary op e :: e.nodes
  | .binary op l r => .binary op l r :: (l.nodes ++ r.nodes)
  | .junction op es => .junction op es :: Syntax.allNodes es
  | .comparison e ops es => .comparison e ops es :: (e.nodes ++ Syntax.allNodes es)
  | .choice c y n => .choice c y n :: (c.nodes ++ y.nodes ++ n.nodes)
  | .call f args keywords => .call f args keywords :: Syntax.allNodes args
  | .foreign construct text level => [.foreign construct text level]

/-- The nodes of several trees. -/
def Syntax.allNodes : List Syntax → List Syntax
  | [] => []
  | e :: es => e.nodes ++ Syntax.allNodes es

end

/-- **What a node of a formula may be**, whatever stands below it: a literal of five kinds, the
name that stands for one of the placeholders, an operator or a comparison of formulas, a junction,
a choice, or a direct call of a known function with nothing given by keyword. -/
def Syntax.IsAllowed (labels : List String) : Syntax → Prop
  | .literal l =>
    l = .absent ∨ (∃ b, l = .bool b) ∨ (∃ n, l = .int n) ∨ (∃ x, l = .float x) ∨
      ∃ s marked, l = .text s marked
  | .name id => ∃ i < labels.length, id = bindingName i
  | .unary op _ => op ∈ [UnaryOp.plus, .minus, .not]
  | .binary op _ _ => op ∈ [BinaryOp.add, .sub, .mul, .div, .floorDiv, .mod, .pow]
  | .junction _ _ => True
  | .comparison _ ops _ =>
    ∀ op ∈ ops, op ∈ [Relation.eq, .notEq, .less, .lessEq, .greater, .greaterEq]
  | .choice _ _ _ => True
  | .call target _ keywords =>
    (∃ id ∈ Function.names.map Prod.fst, target = .name id) ∧ keywords = []
  | .foreign _ _ _ => False

section Nodes

variable {labels : List String}

@[simp] lemma Syntax.isAllowed_unary {op : UnaryOp} {e : Syntax} :
    IsAllowed labels (.unary op e) ↔ op ∈ [UnaryOp.plus, .minus, .not] := Iff.rfl

@[simp] lemma Syntax.isAllowed_binary {op : BinaryOp} {l r : Syntax} :
    IsAllowed labels (.binary op l r) ↔
      op ∈ [BinaryOp.add, .sub, .mul, .div, .floorDiv, .mod, .pow] := Iff.rfl

@[simp] lemma Syntax.isAllowed_junction {op : Junction} {es : List Syntax} :
    IsAllowed labels (.junction op es) := trivial

@[simp] lemma Syntax.isAllowed_comparison {e : Syntax} {ops : List Relation} {es : List Syntax} :
    IsAllowed labels (.comparison e ops es) ↔
      ∀ op ∈ ops, op ∈ [Relation.eq, .notEq, .less, .lessEq, .greater, .greaterEq] := Iff.rfl

@[simp] lemma Syntax.isAllowed_choice {c y n : Syntax} : IsAllowed labels (.choice c y n) := trivial

@[simp] lemma Syntax.isAllowed_call {f : Syntax} {args : List Syntax} {keywords : List Layout} :
    IsAllowed labels (.call f args keywords) ↔
      (∃ id ∈ Function.names.map Prod.fst, f = .name id) ∧ keywords = [] := Iff.rfl

@[simp] lemma Syntax.not_isAllowed_foreign {construct : Construct} {text : Layout} {level : Level} :
    ¬ IsAllowed labels (.foreign construct text level) := id

lemma Syntax.mem_allNodes {n : Syntax} {es : List Syntax} :
    n ∈ Syntax.allNodes es ↔ ∃ e ∈ es, n ∈ e.nodes := by
  induction es with
  | nil => simp [Syntax.allNodes]
  | cons e es ih => simp [Syntax.allNodes, ih]

/-- What holds of the nodes of several trees holds of the nodes of each. -/
lemma Syntax.forall_allNodes {es : List Syntax} {P : Syntax → Prop} :
    (∀ n ∈ Syntax.allNodes es, P n) ↔ ∀ e ∈ es, ∀ n ∈ e.nodes, P n := by
  simp only [Syntax.mem_allNodes]
  exact ⟨fun h e he n hn => h n ⟨e, he, hn⟩, fun h n ⟨e, he, hn⟩ => h e he n hn⟩

lemma Syntax.allProblems_eq_nil {bound : List (String × String)} {es : List Syntax} :
    Syntax.allProblems bound es = [] ↔ ∀ e ∈ es, e.problems bound = [] := by
  induction es with
  | nil => simp [Syntax.allProblems]
  | cons e es ih => simp [Syntax.allProblems, ih]

/-! ## Names -/

lemma isSome_lookup_bindings {id : String} :
    ((bindings labels).lookup id).isSome ↔ ∃ i < labels.length, id = bindingName i := by
  rw [isSome_lookup_iff]
  simp only [bindings, List.mem_map, List.mem_mapIdx]
  constructor
  · rintro ⟨_, ⟨i, hi, rfl⟩, rfl⟩
    exact ⟨i, hi, rfl⟩
  · rintro ⟨i, hi, rfl⟩
    exact ⟨_, ⟨i, hi, rfl⟩, rfl⟩

lemma mem_of_lookup_bindings {id label : String} (h : (bindings labels).lookup id = some label) :
    label ∈ labels := by
  obtain ⟨i, hi, heq⟩ := List.mem_mapIdx.1 (mem_of_lookup h)
  simp only [Prod.mk.injEq] at heq
  exact heq.2 ▸ List.getElem_mem hi

lemma Syntax.function?_eq_none {target : Syntax} :
    target.function? = none ↔ ¬ ∃ id ∈ Function.names.map Prod.fst, target = .name id := by
  cases target with
  | name id =>
      have h := isSome_lookup_iff (l := Function.names) (a := id)
      rw [← Option.not_isSome_iff_eq_none]
      simp [Syntax.function?, Function.ofName?, h]
  | _ => simp [Syntax.function?]

/-! ## Problems -/

lemma Literal.isSome_value? {l : Literal} :
    l.value?.isSome ↔ Syntax.IsAllowed labels (.literal l) := by
  cases l <;> simp [Literal.value?, Syntax.IsAllowed]

lemma UnaryOp.problems_eq_nil {op : UnaryOp} :
    op.problems = [] ↔ op ∈ [UnaryOp.plus, .minus, .not] := by
  cases op <;> simp [UnaryOp.problems]

lemma BinaryOp.problems_eq_nil {op : BinaryOp} :
    op.problems = [] ↔ op ∈ [BinaryOp.add, .sub, .mul, .div, .floorDiv, .mod, .pow] := by
  cases op <;> simp [BinaryOp.problems]

lemma Relation.problems_eq_nil {op : Relation} :
    op.problems = [] ↔ op ∈ [Relation.eq, .notEq, .less, .lessEq, .greater, .greaterEq] := by
  cases op <;> simp [Relation.problems]

/-- **There are no problems exactly when every node is allowed.** -/
theorem Syntax.problems_eq_nil_iff (e : Syntax) :
    e.problems (bindings labels) = [] ↔ ∀ n ∈ e.nodes, n.IsAllowed labels := by
  induction e using Syntax.induction with
  | literal l =>
      rw [Syntax.problems, Syntax.nodes, List.forall_mem_singleton, ← Literal.isSome_value?]
      by_cases h : l.value?.isSome <;> simp [h]
  | name id =>
      rw [Syntax.problems, Syntax.nodes, List.forall_mem_singleton, Syntax.IsAllowed,
        ← isSome_lookup_bindings]
      simp
  | unary op e he =>
      rw [Syntax.problems, Syntax.nodes, List.forall_mem_cons, ← he,
        Syntax.isAllowed_unary, ← UnaryOp.problems_eq_nil]
      exact List.append_eq_nil_iff
  | binary op l r hl hr =>
      rw [Syntax.problems, Syntax.nodes, List.forall_mem_cons, List.forall_mem_append, ← hl,
        ← hr, Syntax.isAllowed_binary, ← BinaryOp.problems_eq_nil]
      simp only [List.append_eq_nil_iff]
      tauto
  | junction op es hes =>
      rw [Syntax.problems, Syntax.nodes, List.forall_mem_cons, Syntax.forall_allNodes,
        Syntax.allProblems_eq_nil]
      simpa using forall₂_congr hes
  | comparison e ops es he hes =>
      rw [Syntax.problems, Syntax.nodes, List.forall_mem_cons, List.forall_mem_append,
        Syntax.forall_allNodes, ← he, ← forall₂_congr hes, Syntax.isAllowed_comparison]
      simp only [List.append_eq_nil_iff, List.flatMap_eq_nil_iff, Relation.problems_eq_nil,
        Syntax.allProblems_eq_nil]
      tauto
  | choice c y n hc hy hn =>
      rw [Syntax.problems, Syntax.nodes, List.forall_mem_cons, List.forall_mem_append,
        List.forall_mem_append, ← hc, ← hy, ← hn]
      simp only [List.append_eq_nil_iff, Syntax.isAllowed_choice, true_and]
  | call target args keywords _ hargs =>
      rw [Syntax.problems, Syntax.nodes, List.forall_mem_cons, Syntax.forall_allNodes,
        ← forall₂_congr hargs, Syntax.isAllowed_call]
      cases hf : target.function? with
      | none =>
          -- an unknown target is a problem by itself, and the arguments are not looked at
          have hname := Syntax.function?_eq_none.1 hf
          exact iff_of_false (List.cons_ne_nil _ _) fun h => hname h.1.1
      | some f =>
          have hname : ∃ id ∈ Function.names.map Prod.fst, target = .name id := by
            by_contra hnot
            rw [Syntax.function?_eq_none.2 hnot] at hf
            cases hf
          simp only [List.append_eq_nil_iff, Syntax.allProblems_eq_nil, hname, true_and]
          cases keywords <;> simp
  | foreign construct text level => simp [Syntax.problems, Syntax.nodes]

end Nodes

/-! ## Terms of trees -/

section Terms

variable {bound : List (String × String)}

lemma UnaryOp.isSome_sign? {op : UnaryOp} : op.sign?.isSome ↔ op.problems = [] := by
  cases op <;> simp [UnaryOp.sign?, UnaryOp.problems]

lemma BinaryOp.isSome_arithmetic? {op : BinaryOp} : op.arithmetic?.isSome ↔ op.problems = [] := by
  cases op <;> simp [BinaryOp.arithmetic?, BinaryOp.problems]

lemma Relation.isSome_comparison? {op : Relation} : op.comparison?.isSome ↔ op.problems = [] := by
  cases op <;> simp [Relation.comparison?, Relation.problems]

lemma Relation.isSome_comparisons {ops : List Relation} :
    (ops.mapM Relation.comparison?).isSome ↔ ops.flatMap Relation.problems = [] := by
  induction ops with
  | nil => simp
  | cons op ops ih =>
      rw [List.flatMap_cons, List.append_eq_nil_iff, ← ih, ← Relation.isSome_comparison?,
        List.mapM_cons]
      cases op.comparison? <;> cases ops.mapM Relation.comparison? <;> simp

lemma Syntax.isSome_terms? {es : List Syntax} :
    (Syntax.terms? bound es).isSome ↔ ∀ e ∈ es, (e.term? bound).isSome := by
  induction es with
  | nil => simp [Syntax.terms?]
  | cons e es ih =>
      rw [List.forall_mem_cons, ← ih, Syntax.terms?]
      cases e.term? bound <;> cases Syntax.terms? bound es <;> simp

/-- **A tree has a term exactly when it has no problems.** -/
lemma Syntax.isSome_term? (e : Syntax) : (e.term? bound).isSome ↔ e.problems bound = [] := by
  induction e using Syntax.induction with
  | literal l => cases h : l.value? <;> simp [Syntax.term?, Syntax.problems, h]
  | name id => cases h : bound.lookup id <;> simp [Syntax.term?, Syntax.problems, h]
  | unary op e he =>
      rw [Syntax.term?, Syntax.problems, List.append_eq_nil_iff, ← he, ← UnaryOp.isSome_sign?]
      cases op.sign? <;> cases e.term? bound <;> simp
  | binary op l r hl hr =>
      rw [Syntax.term?, Syntax.problems, List.append_eq_nil_iff, List.append_eq_nil_iff, ← hl,
        ← hr, ← BinaryOp.isSome_arithmetic?]
      cases op.arithmetic? <;> cases l.term? bound <;> cases r.term? bound <;> simp
  | junction op es hes =>
      rw [Syntax.term?, Syntax.problems, Syntax.allProblems_eq_nil, ← forall₂_congr hes,
        ← Syntax.isSome_terms?]
      cases Syntax.terms? bound es <;> simp
  | comparison e ops es he hes =>
      rw [Syntax.term?, Syntax.problems, List.append_eq_nil_iff, List.append_eq_nil_iff,
        Syntax.allProblems_eq_nil, ← he, ← forall₂_congr hes, ← Syntax.isSome_terms?,
        ← Relation.isSome_comparisons]
      cases e.term? bound <;> cases ops.mapM Relation.comparison? <;>
        cases Syntax.terms? bound es <;> simp
  | choice c y n hc hy hn =>
      rw [Syntax.term?, Syntax.problems, List.append_eq_nil_iff, List.append_eq_nil_iff, ← hc,
        ← hy, ← hn]
      cases c.term? bound <;> cases y.term? bound <;> cases n.term? bound <;> simp
  | call target args keywords _ hargs =>
      rw [Syntax.term?, Syntax.problems]
      cases target.function? with
      | none => simp
      | some f =>
          rw [List.append_eq_nil_iff, Syntax.allProblems_eq_nil, ← forall₂_congr hargs,
            ← Syntax.isSome_terms?]
          cases keywords <;> cases Syntax.terms? bound args <;> simp
  | foreign construct text level => simp [Syntax.term?, Syntax.problems]

/-! ### The trees that have terms, one by one -/

variable {t : Term} {ts : List Term}

lemma Syntax.term?_literal {l : Literal} :
    (Syntax.literal l).term? bound = some t ↔ ∃ v, l.value? = some v ∧ .literal v = t :=
  Option.map_eq_some_iff

lemma Syntax.term?_name {id : String} :
    (Syntax.name id).term? bound = some t ↔
      ∃ label, bound.lookup id = some label ∧ .field label = t :=
  Option.map_eq_some_iff

lemma Syntax.term?_unary {op : UnaryOp} {e : Syntax} :
    (Syntax.unary op e).term? bound = some t ↔
      ∃ sign operand, op.sign? = some sign ∧ e.term? bound = some operand ∧
        .unary sign operand = t := by
  simp [Syntax.term?, Option.bind_eq_some_iff]

lemma Syntax.term?_binary {op : BinaryOp} {l r : Syntax} :
    (Syntax.binary op l r).term? bound = some t ↔
      ∃ arithmetic left right, op.arithmetic? = some arithmetic ∧ l.term? bound = some left ∧
        r.term? bound = some right ∧ .binary arithmetic left right = t := by
  simp [Syntax.term?, Option.bind_eq_some_iff]

lemma Syntax.term?_junction {op : Junction} {es : List Syntax} :
    (Syntax.junction op es).term? bound = some t ↔
      ∃ operands, Syntax.terms? bound es = some operands ∧ .junction op operands = t := by
  simp [Syntax.term?, Option.bind_eq_some_iff]

lemma Syntax.term?_comparison {ops : List Relation} {e : Syntax} {es : List Syntax} :
    (Syntax.comparison e ops es).term? bound = some t ↔
      ∃ first comparisons rest, e.term? bound = some first ∧
        ops.mapM Relation.comparison? = some comparisons ∧ Syntax.terms? bound es = some rest ∧
          .comparison first comparisons rest = t := by
  simp [Syntax.term?, Option.bind_eq_some_iff]

lemma Syntax.term?_choice {c y n : Syntax} :
    (Syntax.choice c y n).term? bound = some t ↔
      ∃ test yes no, c.term? bound = some test ∧ y.term? bound = some yes ∧
        n.term? bound = some no ∧ .choice test yes no = t := by
  simp [Syntax.term?, Option.bind_eq_some_iff]

lemma Syntax.term?_call {target : Syntax} {args : List Syntax} {keywords : List Layout} :
    (Syntax.call target args keywords).term? bound = some t ↔
      ∃ f operands, target.function? = some f ∧ keywords = [] ∧
        Syntax.terms? bound args = some operands ∧ .call f.2 operands = t := by
  cases keywords <;> simp [Syntax.term?, Option.bind_eq_some_iff]

lemma Syntax.terms?_cons {e : Syntax} {es : List Syntax} :
    Syntax.terms? bound (e :: es) = some ts ↔
      ∃ first rest, e.term? bound = some first ∧ Syntax.terms? bound es = some rest ∧
        first :: rest = ts := by
  simp [Syntax.terms?, Option.bind_eq_some_iff]

/-- Induction on the trees that have terms, together with their terms. -/
theorem Syntax.term?_induction {P : Syntax → Term → Prop}
    (literal : ∀ l v, l.value? = some v → P (.literal l) (.literal v))
    (name : ∀ id label, bound.lookup id = some label → P (.name id) (.field label))
    (unary : ∀ op sign e t, op.sign? = some sign → P e t → P (.unary op e) (.unary sign t))
    (binary : ∀ op arithmetic l r t u, op.arithmetic? = some arithmetic → P l t → P r u →
      P (.binary op l r) (.binary arithmetic t u))
    (junction : ∀ op es ts, List.Forall₂ P es ts → P (.junction op es) (.junction op ts))
    (comparison : ∀ e ops es t comparisons ts,
      ops.mapM Relation.comparison? = some comparisons → P e t →
      List.Forall₂ P es ts → P (.comparison e ops es) (.comparison t comparisons ts))
    (choice : ∀ c y n t u v, P c t → P y u → P n v → P (.choice c y n) (.choice t u v))
    (call : ∀ target f args ts, target.function? = some f → List.Forall₂ P args ts →
      P (.call target args []) (.call f.2 ts)) (e : Syntax) :
    ∀ t, e.term? bound = some t → P e t := by
  have hall : ∀ es : List Syntax, (∀ e ∈ es, ∀ t, e.term? bound = some t → P e t) →
      ∀ ts, Syntax.terms? bound es = some ts → List.Forall₂ P es ts := by
    intro es hes
    induction es with
    | nil =>
        rintro ts ⟨⟩
        exact .nil
    | cons e es ih =>
        intro ts hts
        obtain ⟨first, rest, hfirst, hrest, rfl⟩ := Syntax.terms?_cons.1 hts
        obtain ⟨he, hes⟩ := List.forall_mem_cons.1 hes
        exact .cons (he first hfirst) (ih hes rest hrest)
  induction e using Syntax.induction with
  | literal l =>
      intro t ht
      obtain ⟨v, hv, rfl⟩ := Syntax.term?_literal.1 ht
      exact literal l v hv
  | name id =>
      intro t ht
      obtain ⟨label, hlabel, rfl⟩ := Syntax.term?_name.1 ht
      exact name id label hlabel
  | unary op e he =>
      intro t ht
      obtain ⟨sign, operand, hsign, hoperand, rfl⟩ := Syntax.term?_unary.1 ht
      exact unary op sign e operand hsign (he operand hoperand)
  | binary op l r hl hr =>
      intro t ht
      obtain ⟨arithmetic, left, right, hop, hleft, hright, rfl⟩ := Syntax.term?_binary.1 ht
      exact binary op arithmetic l r left right hop (hl left hleft) (hr right hright)
  | junction op es hes =>
      intro t ht
      obtain ⟨operands, hoperands, rfl⟩ := Syntax.term?_junction.1 ht
      exact junction op es operands (hall es hes operands hoperands)
  | comparison e ops es he hes =>
      intro t ht
      obtain ⟨first, comparisons, rest, hfirst, hops, hrest, rfl⟩ :=
        Syntax.term?_comparison.1 ht
      exact comparison e ops es first comparisons rest hops (he first hfirst)
        (hall es hes rest hrest)
  | choice c y n hc hy hn =>
      intro t ht
      obtain ⟨test, yes, no, htest, hyes, hno, rfl⟩ := Syntax.term?_choice.1 ht
      exact choice c y n test yes no (hc test htest) (hy yes hyes) (hn no hno)
  | call target args keywords _ hargs =>
      intro t ht
      obtain ⟨f, operands, hf, rfl, hoperands, rfl⟩ := Syntax.term?_call.1 ht
      exact call target f args operands hf (hall args hargs operands hoperands)
  | foreign construct text level =>
      intro t ht
      cases ht

end Terms

/-! ## The labels that a term reads -/

mutual

/-- The labels that a term reads. -/
def Term.fields : Term → List String
  | .literal _ => []
  | .field label => [label]
  | .unary _ t => t.fields
  | .binary _ l r => l.fields ++ r.fields
  | .junction _ ts => Term.allFields ts
  | .comparison t _ ts => t.fields ++ Term.allFields ts
  | .choice c y n => c.fields ++ y.fields ++ n.fields
  | .call _ args => Term.allFields args

/-- The labels that several terms read. -/
def Term.allFields : List Term → List String
  | [] => []
  | t :: ts => t.fields ++ Term.allFields ts

end

lemma Term.allFields_eq_flatMap (ts : List Term) : Term.allFields ts = ts.flatMap Term.fields := by
  induction ts with
  | nil => rfl
  | cons t ts ih => rw [Term.allFields, ih, List.flatMap_cons]

lemma Term.allGuarded_eq_map (ts : List Term) : Term.allGuarded ts = ts.map Term.guarded := by
  induction ts with
  | nil => rfl
  | cons t ts ih => rw [Term.allGuarded, ih, List.map_cons]

lemma Term.mem_allFields {l : String} {ts : List Term} :
    l ∈ Term.allFields ts ↔ ∃ t ∈ ts, l ∈ t.fields := by
  rw [Term.allFields_eq_flatMap, List.mem_flatMap]

/-- Size checks read nothing. -/
lemma Term.fields_guarded (t : Term) : t.guarded.fields = t.fields := by
  have hall : ∀ ts : List Term, (∀ t ∈ ts, t.guarded.fields = t.fields) →
      Term.allFields (Term.allGuarded ts) = Term.allFields ts := by
    intro ts hts
    rw [Term.allGuarded_eq_map, Term.allFields_eq_flatMap, Term.allFields_eq_flatMap,
      List.flatMap_map, List.flatMap_congr hts]
  induction t using Term.induction with
  | literal v => rfl
  | field label => rfl
  | unary op t ht => simpa [Term.guarded, Term.fields] using ht
  | binary op l r hl hr => simp [Term.guarded, Term.fields, hl, hr]
  | junction op ts hts => simp [Term.guarded, Term.fields, hall ts hts]
  | comparison t ops ts ht hts => simp [Term.guarded, Term.fields, ht, hall ts hts]
  | choice c y n hc hy hn => simp [Term.guarded, Term.fields, hc, hy, hn]
  | call f args hargs => simp [Term.guarded, Term.fields, hall args hargs]

/-- The term of a tree reads labels that names stand for. -/
lemma Syntax.fields_term? {bound : List (String × String)} {labels : List String}
    (hbound : ∀ id label, bound.lookup id = some label → label ∈ labels) (e : Syntax) :
    ∀ t, e.term? bound = some t → t.fields ⊆ labels := by
  have hall : ∀ {es : List Syntax} {ts : List Term},
      List.Forall₂ (fun _ t => t.fields ⊆ labels) es ts → Term.allFields ts ⊆ labels := by
    intro es ts hts l hl
    obtain ⟨t, ht, hl⟩ := Term.mem_allFields.1 hl
    obtain ⟨_, -, hlabels⟩ := exists_of_forall₂ hts t ht
    exact hlabels hl
  refine Syntax.term?_induction (P := fun _ t => t.fields ⊆ labels) ?literal ?name ?unary ?binary
    ?junction ?comparison ?choice ?call e
  case literal =>
    intro l v _
    exact List.nil_subset _
  case name =>
    intro id label hlabel
    exact List.cons_subset.2 ⟨hbound id label hlabel, List.nil_subset _⟩
  case unary =>
    intro _ _ _ t _ ht
    exact ht
  case binary =>
    intro _ _ _ _ t u _ ht hu
    exact List.append_subset.2 ⟨ht, hu⟩
  case junction =>
    intro _ _ ts hts
    exact hall hts
  case comparison =>
    intro _ _ _ t _ ts _ ht hts
    exact List.append_subset.2 ⟨ht, hall hts⟩
  case choice =>
    intro _ _ _ t u v ht hu hv
    exact List.append_subset.2 ⟨List.append_subset.2 ⟨ht, hu⟩, hv⟩
  case call =>
    intro _ _ _ ts _ hts
    exact hall hts

/-! ## Evaluation -/

section Evaluation

variable {env env' : String → Value} {ts : List Term}

lemma Term.evaluateAll_congr (h : ∀ t ∈ ts, t.evaluate env = t.evaluate env') :
    Term.evaluateAll env ts = Term.evaluateAll env' ts := by
  induction ts with
  | nil => rfl
  | cons t ts ih =>
      obtain ⟨ht, hts⟩ := List.forall_mem_cons.1 h
      rw [Term.evaluateAll, Term.evaluateAll, ht, ih hts]

lemma Term.evaluateJunction_congr {op : Junction} {last : Value}
    (h : ∀ t ∈ ts, t.evaluate env = t.evaluate env') :
    Term.evaluateJunction env op last ts = Term.evaluateJunction env' op last ts := by
  induction ts generalizing last with
  | nil => rfl
  | cons t ts ih =>
      obtain ⟨ht, hts⟩ := List.forall_mem_cons.1 h
      simp only [Term.evaluateJunction, ht, ih hts]

lemma Term.evaluateChain_congr {ops : List Comparison} {left : Value}
    (h : ∀ t ∈ ts, t.evaluate env = t.evaluate env') :
    Term.evaluateChain env left ops ts = Term.evaluateChain env' left ops ts := by
  induction ts generalizing left ops with
  | nil => cases ops <;> rfl
  | cons t ts ih =>
      obtain ⟨ht, hts⟩ := List.forall_mem_cons.1 h
      cases ops with
      | nil => rfl
      | cons op ops => simp only [Term.evaluateChain, ht, ih hts]

/-- **The value of a term depends on the labels that it reads alone.** -/
theorem Term.evaluate_congr (t : Term) (h : ∀ l ∈ t.fields, env l = env' l) :
    t.evaluate env = t.evaluate env' := by
  have hall : ∀ ts : List Term,
      (∀ t ∈ ts, (∀ l ∈ t.fields, env l = env' l) → t.evaluate env = t.evaluate env') →
        (∀ l ∈ Term.allFields ts, env l = env' l) →
          ∀ t ∈ ts, t.evaluate env = t.evaluate env' :=
    fun ts hts h t ht => hts t ht fun l hl => h l (Term.mem_allFields.2 ⟨t, ht, hl⟩)
  induction t using Term.induction with
  | literal v => rfl
  | field label => exact congrArg Except.ok (h label List.mem_cons_self)
  | unary op t ht => rw [Term.evaluate, Term.evaluate, ht h]
  | binary op l r hl hr =>
      obtain ⟨hleft, hright⟩ := List.forall_mem_append.1 h
      rw [Term.evaluate, Term.evaluate, hl hleft, hr hright]
  | junction op ts hts =>
      rw [Term.evaluate, Term.evaluate]
      exact Term.evaluateJunction_congr (hall ts hts h)
  | comparison t ops ts ht hts =>
      obtain ⟨hfirst, hrest⟩ := List.forall_mem_append.1 h
      simp only [Term.evaluate, ht hfirst, Term.evaluateChain_congr (hall ts hts hrest)]
  | choice c y n hc hy hn =>
      obtain ⟨hboth, hno⟩ := List.forall_mem_append.1 h
      obtain ⟨htest, hyes⟩ := List.forall_mem_append.1 hboth
      rw [Term.evaluate, Term.evaluate, hc htest, hy hyes, hn hno]
  | call f args hargs =>
      rw [Term.evaluate, Term.evaluate, Term.evaluateAll_congr (hall args hargs h)]

end Evaluation

/-! ## Formulas -/

section Formulas

variable {source : String}

/-- A row that has all labels, with texts that can be read, gives every label a value. -/
lemma bind_of_readable {row : Row} {labels : List String}
    (h : ∀ l ∈ labels, ∃ raw v, row.get? l = some raw ∧ Value.ofField raw = .ok v) :
    ∃ values, bind source row labels = .ok values ∧ values.map Prod.fst = labels := by
  induction labels with
  | nil => exact ⟨[], rfl, rfl⟩
  | cons label labels ih =>
      obtain ⟨⟨raw, v, hraw, hv⟩, hlabels⟩ := List.forall_mem_cons.1 h
      obtain ⟨values, hvalues, hkeys⟩ := ih hlabels
      refine ⟨(label, v) :: values, ?_, by rw [List.map_cons, hkeys]⟩
      simp only [bind, hraw, hv, hvalues, ok_bind]

/-- An empty text is no expression. -/
lemma ofText?_nil : Syntax.ofText? (String.ofList []) = none := by
  rw [← Option.isNone_iff_eq_none]
  decide +kernel

/-- **What a source has to be for a formula, and what the formula is then.** -/
lemma compile_eq_ok {chars : List Char} {labels : List String} {tree : Syntax} {f : Formula}
    (hchars : substitute [] (trimChars source.toList) = (chars, labels))
    (htree : Syntax.ofText? (String.ofList chars) = some tree) :
    compile source = .ok f ↔ tree.problems (bindings labels) = [] ∧
      ∃ term, tree.term? (bindings labels) = some term ∧
        f = ⟨source, labels, term.guarded⟩ := by
  -- an empty source is refused before it is parsed, but it would not parse anyway
  have hne : chars.isEmpty = false := by
    cases chars with
    | nil =>
        rw [ofText?_nil] at htree
        cases htree
    | cons c cs => rfl
  simp only [compile, hchars, hne, htree]
  cases hp : tree.problems (bindings labels) with
  | nil =>
      obtain ⟨term, hterm⟩ := Option.isSome_iff_exists.1 ((Syntax.isSome_term? tree).2 hp)
      simp [hterm, eq_comm]
  | cons p ps => simp

/-- **Formulas are the sources whose every node is allowed, and their evaluation does not get
stuck.** On a row that has all labels, with texts that can be read, every label that the term asks
for has a value; what other names might stand for makes no difference; and the evaluation ends with
a value or with a failure of the formula. -/
theorem compile_iff {chars : List Char} {labels : List String} {tree : Syntax}
    (hchars : substitute [] (trimChars source.toList) = (chars, labels))
    (htree : Syntax.ofText? (String.ofList chars) = some tree) :
    (tree.problems (bindings labels) = [] ↔ ∀ n ∈ tree.nodes, n.IsAllowed labels) ∧
      ((∃ f, compile source = .ok f) ↔ tree.problems (bindings labels) = []) ∧
      ∀ f, compile source = .ok f → ∀ row : Row,
        (∀ l ∈ f.labels, ∃ raw v, row.get? l = some raw ∧ Value.ofField raw = .ok v) →
          ∃ values, bind f.source row f.labels = .ok values ∧
            (∀ l ∈ f.term.fields, (values.lookup l).isSome) ∧
            ∀ env : String → Value, (∀ l v, values.lookup l = some v → env l = v) →
              (∃ v, f.term.evaluate env = .ok v ∧ f.evaluate row = .ok v) ∨
                ∃ fault, f.term.evaluate env = .error fault ∧
                  f.evaluate row = .error (.evaluation (.failed f.source fault) none) := by
  refine ⟨Syntax.problems_eq_nil_iff tree, ?_, ?_⟩
  · constructor
    · rintro ⟨f, hf⟩
      exact ((compile_eq_ok hchars htree).1 hf).1
    · intro hp
      obtain ⟨term, hterm⟩ := Option.isSome_iff_exists.1 ((Syntax.isSome_term? tree).2 hp)
      exact ⟨_, (compile_eq_ok hchars htree).2 ⟨hp, term, hterm, rfl⟩⟩
  · intro f hf row hrow
    obtain ⟨-, term, hterm, rfl⟩ := (compile_eq_ok hchars htree).1 hf
    have hbind : ∃ values, bind source row labels = .ok values ∧ values.map Prod.fst = labels :=
      bind_of_readable hrow
    obtain ⟨values, hvalues, hkeys⟩ := hbind
    have hfields : ∀ l ∈ term.guarded.fields, (values.lookup l).isSome := by
      intro l hl
      rw [Term.fields_guarded] at hl
      rw [isSome_lookup_iff, hkeys]
      exact Syntax.fields_term? (fun _ _ => mem_of_lookup_bindings) tree term hterm hl
    refine ⟨values, hvalues, hfields, fun env henv => ?_⟩
    have hsame : term.guarded.evaluate (fun label => (values.lookup label).getD .absent) =
        term.guarded.evaluate env := by
      refine Term.evaluate_congr _ fun l hl => ?_
      obtain ⟨v, hv⟩ := Option.isSome_iff_exists.1 (hfields l hl)
      rw [hv, Option.getD_some, henv l v hv]
    simp only [evaluate, hvalues, ok_bind, hsame]
    cases term.guarded.evaluate env with
    | ok v => exact Or.inl ⟨v, rfl, rfl⟩
    | error fault => exact Or.inr ⟨fault, rfl, rfl⟩

end Formulas

/-- A name in capitals if it counts, and else twice. -/
def shout : String := "upper($name$) if $count$ > 1 else $name$ * 2"

/-- Every node of a formula with a choice, a call and a product is allowed, and it has a value on a
row with both labels. -/
theorem compile_iff_shout :
    ∃ chars tree f, substitute [] (trimChars shout.toList) = (chars, ["name", "count"]) ∧
      Syntax.ofText? (String.ofList chars) = some tree ∧ compile shout = .ok f ∧
        (∀ n ∈ tree.nodes, n.IsAllowed ["name", "count"]) ∧
          ∃ v, f.evaluate ⟨[("name", "ada"), ("count", "2")]⟩ = .ok v := by
  have hchars : substitute [] (trimChars shout.toList) =
      ("upper(_v0) if _v1 > 1 else _v0 * 2".toList, ["name", "count"]) := by decide +kernel
  have hparses : (Syntax.ofText? (String.ofList
      "upper(_v0) if _v1 > 1 else _v0 * 2".toList)).isSome := by decide +kernel
  have hcompiles : (compile shout).toOption.map Formula.labels = some ["name", "count"] := by
    decide +kernel
  obtain ⟨tree, htree⟩ := Option.isSome_iff_exists.1 hparses
  obtain ⟨f, hf, hlabels⟩ := Option.map_eq_some_iff.1 hcompiles
  replace hf := ok_of_toOption hf
  obtain ⟨hallowed, haccepted, hends⟩ := compile_iff hchars htree
  refine ⟨_, tree, f, hchars, htree, hf, hallowed.1 (haccepted.1 ⟨f, hf⟩), ?_⟩
  have hrow : ∀ l ∈ f.labels, ∃ raw v,
      Row.get? ⟨[("name", "ada"), ("count", "2")]⟩ l = some raw ∧
        Value.ofField raw = .ok v := by
    rw [hlabels]
    exact List.forall_mem_cons.2 ⟨⟨"ada", .text "ada", by decide, by decide +kernel⟩,
      List.forall_mem_singleton.2 ⟨"2", .int 2, by decide, by decide +kernel⟩⟩
  have hvalue : (compile shout >>= fun f =>
      f.evaluate ⟨[("name", "ada"), ("count", "2")]⟩) = .ok (.text "ADA") := by decide +kernel
  rw [hf, ok_bind] at hvalue
  obtain ⟨values, -, -, hends⟩ := hends f hf _ hrow
  rcases hends (fun l => (values.lookup l).getD .absent) (fun l v hv => by rw [hv]; rfl) with
    ⟨v, -, hv⟩ | ⟨fault, -, hfails⟩
  · exact ⟨v, hv⟩
  · rw [hvalue] at hfails
    cases hfails

end Crosswalk.Formula
