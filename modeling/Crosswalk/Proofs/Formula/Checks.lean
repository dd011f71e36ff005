import Crosswalk.Proofs.Formula.Limits

/-!
# What the size checks change

Products and powers are computed with a check of their operands in front.  Whether that changes
anything else can be seen from the course of an evaluation: the operations that it performs, with
the values that it performs them on, in their order.  A term with checks takes the course of the
term without them up to the first product or power whose operands exceed the limits, and it stops
there with the failure of the check; if there is none, it takes the same course to the same end.

* `Course` — **an outcome with the operations performed on the way**; `Term.course` is the course
  of an evaluation, and `Term.outcome_course` says that its outcome is the value of the term.
* `Operation.excess?` — the failure of a product or a power whose operands exceed the limits.
* `Course.checked` — a course up to the first such operation; `Course.checked_bind` says that it
  does not matter whether courses are checked one by one or one behind the other.
* `Term.course_guarded` — **the course of a term with checks.**
* `Syntax.isUnguarded_term?` — the term of a tree has none.
* **`compile_checked`** — the same for formulas on rows.
-/

namespace Crosswalk.Formula

variable {α β : Type}

/-! ## Operations and their limits -/

/-- **An operation of an evaluation**, with the values that it is performed on. -/
inductive Operation where
  /-- A literal is taken. -/
  | literal (v : Value)
  /-- A field is read. -/
  | field (label : String)
  /-- An operator with one operand. -/
  | sign (op : SignOp) (operand : Value)
  /-- Arithmetic with two operands, whether it is checked or not. -/
  | arithmetic (op : ArithmeticOp) (left right : Value)
  /-- A comparison of two values. -/
  | comparison (op : Comparison) (left right : Value)
  /-- A call of a function. -/
  | call (f : Function) (args : List Value)
  deriving DecidableEq

/-- The failure of a product whose operands exceed the limits: a text that is repeated to more than
`maxRepetition` characters, or whole numbers with more than `maxBits` bits together. -/
def productExcess? (l r : Value) : Option Fault :=
  if Value.repeatsTooMuch l r ∨ Value.repeatsTooMuch r l then some .repetitionTooLarge
  else match l.asInt?, r.asInt? with
    | some a, some b =>
      if Value.maxBits < Value.bitLength a + Value.bitLength b then some .productTooLarge else none
    | _, _ => none

/-- The failure of a power whose operands exceed the limits: whole numbers, of which the bits of the
first one so many times as the second one says are more than `maxBits`. -/
def powerExcess? (l r : Value) : Option Fault :=
  match l.asInt?, r.asInt? with
  | some a, some b =>
    if 0 < b ∧ 1 < a.natAbs ∧ (Value.maxBits : Int) < Value.bitLength a * b then
      some .powerTooLarge
    else none
  | _, _ => none

/-- **The failure of an operation whose operands exceed the limits.**  Only products and powers have
limits. -/
def Operation.excess? : Operation → Option Fault
  | .arithmetic .mul l r => productExcess? l r
  | .arithmetic .pow l r => powerExcess? l r
  | _ => none

/-- The operation that a checked one stands for. -/
def ArithmeticOp.unchecked : ArithmeticOp → ArithmeticOp
  | boundedMul => mul
  | boundedPow => pow
  | op => op

lemma boundedMul_eq (l r : Value) :
    l.boundedMul r = (productExcess? l r).elim (l.mul r) .error := by
  rw [Value.boundedMul, productExcess?]
  by_cases hrepeats : Value.repeatsTooMuch l r ∨ Value.repeatsTooMuch r l
  · rw [if_pos (by simpa using hrepeats), if_pos hrepeats]
    rfl
  · rw [if_neg (by simpa using hrepeats), if_neg hrepeats]
    cases l.asInt? with
    | none => rfl
    | some a =>
        cases r.asInt? with
        | none => rfl
        | some b =>
            dsimp only
            split <;> rfl

lemma boundedPow_eq (l r : Value) :
    l.boundedPow r = (powerExcess? l r).elim (l.pow r) .error := by
  rw [Value.boundedPow, powerExcess?]
  cases l.asInt? with
  | none => rfl
  | some a =>
      cases r.asInt? with
      | none => rfl
      | some b =>
          dsimp only
          split <;> rfl

/-! ## Courses -/

/-- **An outcome with the operations performed on the way.** -/
structure Course (α : Type) where
  operations : List Operation
  outcome : Outcome α

namespace Course

/-- One course behind another: a failure ends it. -/
def andThen (c : Course α) (f : α → Course β) : Course β :=
  match c.outcome with
  | .ok a => ⟨c.operations ++ (f a).operations, (f a).outcome⟩
  | .error fault => ⟨c.operations, .error fault⟩

instance : Monad Course where
  pure a := ⟨[], .ok a⟩
  bind := andThen

/-- A single operation. -/
def perform (o : Operation) (outcome : Outcome α) : Course α := ⟨[o], outcome⟩

/-- A course with one more operation in front. -/
def cons (o : Operation) (c : Course α) : Course α := ⟨o :: c.operations, c.outcome⟩

/-- A course that performs some operations for an outcome, unless one of them exceeds the limits. -/
def upTo (outcome : Outcome α) : List Operation → Course α
  | [] => ⟨[], outcome⟩
  | o :: os =>
    match o.excess? with
    | some fault => perform o (.error fault)
    | none => cons o (upTo outcome os)

/-- **A course up to the first operation whose operands exceed the limits**, with its failure. -/
def checked (c : Course α) : Course α := upTo c.outcome c.operations

@[simp] lemma outcome_pure (a : α) : (pure a : Course α).outcome = .ok a := rfl

@[simp] lemma outcome_perform (o : Operation) (outcome : Outcome α) :
    (perform o outcome).outcome = outcome := rfl

/-- Operations do not matter for the outcome. -/
@[simp] lemma outcome_bind (c : Course α) (f : α → Course β) :
    (c >>= f).outcome = c.outcome >>= fun a => (f a).outcome := by
  show (c.andThen f).outcome = _
  unfold andThen
  cases c.outcome <;> rfl

lemma cons_bind (o : Operation) (c : Course α) (f : α → Course β) :
    cons o c >>= f = cons o (c >>= f) := by
  obtain ⟨os, outcome⟩ := c
  cases outcome <;> rfl

lemma checked_cons (o : Operation) (c : Course α) :
    (cons o c).checked = match o.excess? with
      | some fault => perform o (.error fault)
      | none => cons o c.checked := rfl

@[simp] lemma checked_pure (a : α) : (pure a : Course α).checked = pure a := rfl

lemma checked_perform (o : Operation) (outcome : Outcome α) :
    (perform o outcome).checked = perform o (o.excess?.elim outcome .error) := by
  have hcons : perform o outcome = cons o ⟨[], outcome⟩ := rfl
  rw [hcons, checked_cons]
  cases o.excess? <;> rfl

/-- **Courses may be checked one by one, or one behind the other.** -/
theorem checked_bind (c : Course α) (f : α → Course β) :
    (c >>= f).checked = c.checked >>= fun a => (f a).checked := by
  obtain ⟨os, outcome⟩ := c
  induction os with
  | nil => cases outcome <;> rfl
  | cons o os ih =>
      have hcons : (⟨o :: os, outcome⟩ : Course α) = cons o ⟨os, outcome⟩ := rfl
      rw [hcons, cons_bind, checked_cons, checked_cons]
      cases o.excess? with
      | some fault => rfl
      | none =>
          dsimp only
          rw [cons_bind, ih]

/-- **What checks come to**: nothing exceeds the limits and the course is the same, or it is the
same up to the first operation that does. -/
theorem checked_cases (c : Course α) :
    ((∀ o ∈ c.operations, o.excess? = none) ∧ c.checked = c) ∨
      ∃ before o after fault, c.operations = before ++ o :: after ∧
        (∀ o' ∈ before, o'.excess? = none) ∧ o.excess? = some fault ∧
        c.checked = ⟨before ++ [o], .error fault⟩ := by
  obtain ⟨os, outcome⟩ := c
  induction os with
  | nil => exact Or.inl ⟨List.forall_mem_nil _, rfl⟩
  | cons o os ih =>
      have hcons : (⟨o :: os, outcome⟩ : Course α) = cons o ⟨os, outcome⟩ := rfl
      rw [hcons, checked_cons]
      cases hexcess : o.excess? with
      | some fault =>
          exact Or.inr ⟨[], o, os, fault, rfl, List.forall_mem_nil _, hexcess, rfl⟩
      | none =>
          dsimp only
          rcases ih with
            ⟨hall, hsame⟩ | ⟨before, o', after, fault, hos, hbefore, hfault, hstop⟩
          · rw [hsame]
            exact Or.inl ⟨List.forall_mem_cons.2 ⟨hexcess, hall⟩, rfl⟩
          · rw [hstop]
            exact Or.inr ⟨o :: before, o', after, fault, congrArg (o :: ·) hos,
              List.forall_mem_cons.2 ⟨hexcess, hbefore⟩, hfault, rfl⟩

end Course

/-! ## The course of an evaluation -/

mutual

/-- **The course of the evaluation of a term.** -/
def Term.course (env : String → Value) : Term → Course Value
  | .literal v => .perform (.literal v) (.ok v)
  | .field label => .perform (.field label) (.ok (env label))
  | .unary op operand => do
    let v ← operand.course env
    .perform (.sign op v) (op.apply v)
  | .binary op left right => do
    let l ← left.course env
    let r ← right.course env
    .perform (.arithmetic op.unchecked l r) (op.apply l r)
  | .junction op operands => Term.courseOfJunction env op (.bool (op == .and)) operands
  | .comparison first ops rest => do
    let l ← first.course env
    Term.courseOfChain env l ops rest
  | .choice test yes no => do
    if (← test.course env).isTrue then yes.course env else no.course env
  | .call f args => do
    let vs ← Term.courseOfAll env args
    .perform (.call f vs) (f.apply vs)

/-- The course of the evaluation of several terms. -/
def Term.courseOfAll (env : String → Value) : List Term → Course (List Value)
  | [] => pure []
  | t :: ts => do
    let v ← t.course env
    let vs ← Term.courseOfAll env ts
    pure (v :: vs)

/-- The course of a junction. -/
def Term.courseOfJunction (env : String → Value) (op : Junction) (last : Value) :
    List Term → Course Value
  | [] => pure last
  | t :: ts => do
    let v ← t.course env
    if op.decidedBy v then pure v else Term.courseOfJunction env op v ts

/-- The course of a chain of comparisons. -/
def Term.courseOfChain (env : String → Value) (left : Value) :
    List Comparison → List Term → Course Value
  | op :: ops, t :: ts => do
    let right ← t.course env
    if ← .perform (.comparison op left right) (op.apply left right) then
      Term.courseOfChain env right ops ts
    else pure (.bool false)
  | _, _ => pure (.bool true)

end

section Courses

variable (env : String → Value)

mutual

/-- **The outcome of the course is the value of the term.** -/
theorem Term.outcome_course : ∀ t : Term, (t.course env).outcome = t.evaluate env
  | .literal v => rfl
  | .field label => rfl
  | .unary op t => by
      simp only [Term.course, Term.evaluate, Course.outcome_bind, Term.outcome_course t,
        Course.outcome_perform]
  | .binary op l r => by
      simp only [Term.course, Term.evaluate, Course.outcome_bind, Term.outcome_course l,
        Term.outcome_course r, Course.outcome_perform]
  | .junction op ts => by
      rw [Term.course, Term.evaluate, Term.outcome_courseOfJunction]
  | .comparison t ops ts => by
      simp only [Term.course, Term.evaluate, Course.outcome_bind, Term.outcome_course t,
        Term.outcome_courseOfChain _ ops ts]
  | .choice c y n => by
      simp only [Term.course, Term.evaluate, Course.outcome_bind, Term.outcome_course c,
        apply_ite Course.outcome, Term.outcome_course y, Term.outcome_course n]
  | .call f args => by
      simp only [Term.course, Term.evaluate, Course.outcome_bind, Term.outcome_courseOfAll args,
        Course.outcome_perform]

lemma Term.outcome_courseOfAll : ∀ ts : List Term,
    (Term.courseOfAll env ts).outcome = Term.evaluateAll env ts
  | [] => rfl
  | t :: ts => by
      simp only [Term.courseOfAll, Term.evaluateAll, Course.outcome_bind, Term.outcome_course t,
        Term.outcome_courseOfAll ts, Course.outcome_pure]

lemma Term.outcome_courseOfJunction (op : Junction) : ∀ (ts : List Term) (last : Value),
    (Term.courseOfJunction env op last ts).outcome = Term.evaluateJunction env op last ts
  | [], last => rfl
  | t :: ts, last => by
      simp only [Term.courseOfJunction, Term.evaluateJunction, Course.outcome_bind,
        Term.outcome_course t, apply_ite Course.outcome, Term.outcome_courseOfJunction op ts,
        Course.outcome_pure]

lemma Term.outcome_courseOfChain : ∀ (left : Value) (ops : List Comparison) (ts : List Term),
    (Term.courseOfChain env left ops ts).outcome = Term.evaluateChain env left ops ts
  | left, op :: ops, t :: ts => by
      simp only [Term.courseOfChain, Term.evaluateChain, Course.outcome_bind, Term.outcome_course t,
        Course.outcome_perform, apply_ite Course.outcome, Term.outcome_courseOfChain _ ops ts,
        Course.outcome_pure]
  | left, [], _ => by
      rw [Term.courseOfChain, Term.evaluateChain, Course.outcome_pure] <;> nofun
  | left, _ :: _, [] => rfl

end

/-- An operator with a check is the operator, up to the check. -/
lemma Course.perform_guarded (op : ArithmeticOp) (l r : Value) :
    Course.perform (.arithmetic op.guarded.unchecked l r) (op.guarded.apply l r)
      = (Course.perform (.arithmetic op.unchecked l r) (op.apply l r)).checked := by
  rw [checked_perform]
  cases op with
  | mul => exact congrArg (perform _) (boundedMul_eq l r)
  | pow => exact congrArg (perform _) (boundedPow_eq l r)
  | boundedMul =>
      refine congrArg (perform _) ?_
      show l.boundedMul r = (productExcess? l r).elim (l.boundedMul r) .error
      rw [boundedMul_eq]
      cases productExcess? l r <;> rfl
  | boundedPow =>
      refine congrArg (perform _) ?_
      show l.boundedPow r = (powerExcess? l r).elim (l.boundedPow r) .error
      rw [boundedPow_eq]
      cases powerExcess? l r <;> rfl
  | _ => rfl

mutual

/-- **The course of a term with checks** is that of the term without them, up to the first product
or power whose operands exceed the limits. -/
theorem Term.course_guarded : ∀ t : Term, t.guarded.course env = (t.course env).checked
  | .literal v => rfl
  | .field label => rfl
  | .unary op t => by
      simp only [Term.guarded, Term.course, Course.checked_bind, Term.course_guarded t]
      rfl
  | .binary op l r => by
      simp only [Term.guarded, Term.course, Course.checked_bind, Term.course_guarded l,
        Term.course_guarded r, Course.perform_guarded]
  | .junction op ts => by
      rw [Term.guarded, Term.course, Term.course, Term.courseOfJunction_guarded]
  | .comparison t ops ts => by
      simp only [Term.guarded, Term.course, Course.checked_bind, Term.course_guarded t,
        Term.courseOfChain_guarded _ ops ts]
  | .choice c y n => by
      simp only [Term.guarded, Term.course, Course.checked_bind, Term.course_guarded c,
        apply_ite Course.checked, Term.course_guarded y, Term.course_guarded n]
  | .call f args => by
      simp only [Term.guarded, Term.course, Course.checked_bind, Term.courseOfAll_guarded args]
      rfl

lemma Term.courseOfAll_guarded : ∀ ts : List Term,
    Term.courseOfAll env (Term.allGuarded ts) = (Term.courseOfAll env ts).checked
  | [] => rfl
  | t :: ts => by
      simp only [Term.allGuarded, Term.courseOfAll, Course.checked_bind, Term.course_guarded t,
        Term.courseOfAll_guarded ts, Course.checked_pure]

lemma Term.courseOfJunction_guarded (op : Junction) : ∀ (ts : List Term) (last : Value),
    Term.courseOfJunction env op last (Term.allGuarded ts)
      = (Term.courseOfJunction env op last ts).checked
  | [], last => rfl
  | t :: ts, last => by
      simp only [Term.allGuarded, Term.courseOfJunction, Course.checked_bind, Term.course_guarded t,
        apply_ite Course.checked, Term.courseOfJunction_guarded op ts, Course.checked_pure]

lemma Term.courseOfChain_guarded : ∀ (left : Value) (ops : List Comparison) (ts : List Term),
    Term.courseOfChain env left ops (Term.allGuarded ts)
      = (Term.courseOfChain env left ops ts).checked
  | left, op :: ops, t :: ts => by
      simp only [Term.allGuarded, Term.courseOfChain, Course.checked_bind, Term.course_guarded t,
        apply_ite Course.checked, Term.courseOfChain_guarded _ ops ts, Course.checked_pure]
      rfl
  | left, [], ts => by
      simp only [Term.courseOfChain, Course.checked_pure]
  | left, _ :: _, [] => rfl

end

end Courses

/-! ## Terms without checks -/

/-- Arithmetic that is not checked, if it is arithmetic at all. -/
def Term.IsUnguarded : Term → Prop
  | .binary op _ _ => op.unchecked = op
  | _ => True

lemma BinaryOp.unchecked_arithmetic? {op : BinaryOp} {arithmetic : ArithmeticOp}
    (h : op.arithmetic? = some arithmetic) : arithmetic.unchecked = arithmetic := by
  cases op <;> cases h <;> rfl

/-- **The term of a tree has no checks**, at any depth. -/
lemma Syntax.isUnguarded_term? (bound : List (String × String)) (e : Syntax) :
    ∀ t, e.term? bound = some t → ∀ u ∈ t.subterms, u.IsUnguarded := by
  have hall : ∀ {es : List Syntax} {ts : List Term},
      List.Forall₂ (fun _ t => ∀ u ∈ t.subterms, u.IsUnguarded) es ts →
        ∀ u ∈ Term.allSubterms ts, u.IsUnguarded := by
    intro es ts hts
    refine Term.forall_allSubterms.2 fun t ht => ?_
    obtain ⟨_, -, hunguarded⟩ := exists_of_forall₂ hts t ht
    exact hunguarded
  refine Syntax.term?_induction (P := fun _ t => ∀ u ∈ t.subterms, u.IsUnguarded) ?literal ?name
    ?unary ?binary ?junction ?comparison ?choice ?call e
  case literal =>
    intro l v _
    exact List.forall_mem_singleton.2 trivial
  case name =>
    intro id label _
    exact List.forall_mem_singleton.2 trivial
  case unary =>
    intro _ _ _ t _ ht
    exact List.forall_mem_cons.2 ⟨trivial, ht⟩
  case binary =>
    intro _ _ _ _ t u hop ht hu
    exact List.forall_mem_cons.2
      ⟨BinaryOp.unchecked_arithmetic? hop, List.forall_mem_append.2 ⟨ht, hu⟩⟩
  case junction =>
    intro _ _ ts hts
    exact List.forall_mem_cons.2 ⟨trivial, hall hts⟩
  case comparison =>
    intro _ _ _ t _ ts _ ht hts
    exact List.forall_mem_cons.2
      ⟨trivial, List.forall_mem_append.2 ⟨ht, hall hts⟩⟩
  case choice =>
    intro _ _ _ t u v ht hu hv
    exact List.forall_mem_cons.2
      ⟨trivial, List.forall_mem_append.2 ⟨List.forall_mem_append.2 ⟨ht, hu⟩, hv⟩⟩
  case call =>
    intro _ _ _ ts _ hts
    exact List.forall_mem_cons.2 ⟨trivial, hall hts⟩

/-! ## Formulas -/

section Formulas

variable {source : String} {f : Formula} {row : Row} {values : List (String × Value)}

/-- A formula has the term of the tree of its source, with checks. -/
lemma exists_term_of_compile (hf : compile source = .ok f) : ∃ tree term,
    Syntax.ofText? (String.ofList (substitute [] (trimChars source.toList)).1) = some tree ∧
      tree.term? (bindings f.labels) = some term ∧ f = ⟨source, f.labels, term.guarded⟩ := by
  cases htree : Syntax.ofText? (String.ofList (substitute [] (trimChars source.toList)).1) with
  | none =>
      simp only [compile, htree] at hf
      split at hf <;> cases hf
  | some tree =>
      obtain ⟨-, term, hterm, rfl⟩ := (compile_eq_ok rfl htree).1 hf
      exact ⟨tree, term, rfl, hterm, rfl⟩

/-- The value of a formula on a row is the outcome of the course of its term. -/
lemma evaluate_eq_outcome (hvalues : bind f.source row f.labels = .ok values) :
    f.evaluate row = (f.term.course (environment values)).outcome.mapError
      fun fault => .evaluation (.failed f.source fault) none := by
  rw [evaluate_of_bind hvalues, Term.outcome_course]
  cases f.term.evaluate (environment values) <;> rfl

/-- **Size checks change nothing but where they stop.**  The term of a formula is that of the tree
of its source, which has no checks, with a check in front of every product and every power, at
every depth.  On a row whose fields can be read, its evaluation performs the same operations on the
same values in the same order as that of the term without checks, to the same end; or it does so up
to the first product or power whose operands exceed the limits, and stops there with the failure of
the check.  Where fields cannot be read, both fail in front of the first operation. -/
theorem compile_checked (hf : compile source = .ok f) : ∃ tree term,
    Syntax.ofText? (String.ofList (substitute [] (trimChars source.toList)).1) = some tree ∧
      tree.term? (bindings f.labels) = some term ∧
      (∀ u ∈ term.subterms, u.IsUnguarded) ∧
      f.term.subterms = term.subterms.map Term.guarded ∧
      (∀ op l r, .binary op l r ∈ f.term.subterms → op ≠ .mul ∧ op ≠ .pow) ∧
      ∀ row, let plain : Formula := { f with term }
        (∀ e, bind source row f.labels = .error e →
          f.evaluate row = .error e ∧ plain.evaluate row = .error e) ∧
        ∀ values, bind source row f.labels = .ok values →
          let course := term.course (environment values)
          f.evaluate row = (f.term.course (environment values)).outcome.mapError
              (fun fault => .evaluation (.failed source fault) none) ∧
            plain.evaluate row = course.outcome.mapError
              (fun fault => .evaluation (.failed source fault) none) ∧
            ((∀ o ∈ course.operations, o.excess? = none) ∧
                f.term.course (environment values) = course ∨
              ∃ before o after fault, course.operations = before ++ o :: after ∧
                (∀ o' ∈ before, o'.excess? = none) ∧ o.excess? = some fault ∧
                f.term.course (environment values) = ⟨before ++ [o], .error fault⟩) := by
  obtain ⟨tree, term, htree, hterm, heq⟩ := exists_term_of_compile hf
  generalize f.labels = labels at hterm heq
  subst heq
  refine ⟨tree, term, htree, hterm, tree.isUnguarded_term? _ term hterm,
    Term.subterms_guarded term, fun op l r h => Term.checked_of_guarded h,
    fun row => ⟨fun e he => ?_, fun values hvalues => ?_⟩⟩
  · simp only [evaluate, he, error_bind, and_self]
  · refine ⟨evaluate_eq_outcome hvalues, evaluate_eq_outcome hvalues, ?_⟩
    rw [Term.course_guarded]
    exact Course.checked_cases _

end Formulas

/-- A power that is only computed for positive numbers. -/
def doubled : String := "$n$ * 2 ** $n$ if $n$ > 0 else 1"

/-- On a row with a large number the course ends with the power, behind the comparison; the product
and the other side of the choice are not reached. -/
theorem compile_checked_doubled : ∃ f tree term, compile doubled = .ok f ∧
    Syntax.ofText? (String.ofList (substitute [] (trimChars doubled.toList)).1) = some tree ∧
      tree.term? (bindings f.labels) = some term ∧
      bind doubled ⟨[("n", "200000")]⟩ f.labels = .ok [("n", .int 200000)] ∧
      f.evaluate ⟨[("n", "3")]⟩ = .ok (.int 24) ∧
      f.evaluate ⟨[("n", "200000")]⟩
        = .error (.evaluation (.failed doubled .powerTooLarge) none) ∧
      ∃ after, (term.course (environment [("n", .int 200000)])).operations =
        [.field "n", .literal (.int 0), .comparison .greater (.int 200000) (.int 0), .field "n",
          .literal (.int 2), .field "n", .arithmetic .pow (.int 2) (.int 200000)] ++ after := by
  have hrun : (compile doubled).toOption.map (fun f =>
      (f.labels, f.evaluate ⟨[("n", "3")]⟩, f.evaluate ⟨[("n", "200000")]⟩,
        (f.term.course (environment [("n", .int 200000)])).operations)) =
      some (["n"], .ok (.int 24), .error (.evaluation (.failed doubled .powerTooLarge) none),
        [.field "n", .literal (.int 0), .comparison .greater (.int 200000) (.int 0), .field "n",
          .literal (.int 2), .field "n", .arithmetic .pow (.int 2) (.int 200000)]) := by
    decide +kernel
  have hread : bind doubled ⟨[("n", "200000")]⟩ ["n"] = .ok [("n", .int 200000)] := by
    decide +kernel
  have hexcess : Operation.excess? (.arithmetic .pow (.int 2) (.int 200000)) =
      some .powerTooLarge := by decide +kernel
  obtain ⟨f, hf, hrun⟩ := Option.map_eq_some_iff.1 hrun
  simp only [Prod.mk.injEq] at hrun
  obtain ⟨hlabels, hsmall, hlarge, hoperations⟩ := hrun
  rw [← hlabels] at hread
  obtain ⟨tree, term, htree, hterm, -, -, -, hrows⟩ := compile_checked (ok_of_toOption hf)
  refine ⟨f, tree, term, ok_of_toOption hf, htree, hterm, hread, hsmall, hlarge, ?_⟩
  obtain ⟨-, -, hcourse⟩ := (hrows ⟨[("n", "200000")]⟩).2 _ hread
  rcases hcourse with ⟨hall, hsame⟩ | ⟨before, o, after, fault, hos, -, -, hstop⟩
  · rw [hsame] at hoperations
    rw [hoperations] at hall
    have hnone := hall (.arithmetic .pow (.int 2) (.int 200000)) (by decide)
    rw [hexcess] at hnone
    cases hnone
  · rw [hstop] at hoperations
    refine ⟨after, ?_⟩
    rw [hos, ← hoperations, List.append_assoc]
    rfl

end Crosswalk.Formula
