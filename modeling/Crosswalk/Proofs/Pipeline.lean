import Crosswalk.Pipeline
import Crosswalk.Proofs.Aggregation

/-!
# The columns of a pipeline

Rows go through a pipeline with some labels that they all have, the focus and the label of the group
among them, and with some labels that they may have.  No step takes one of the first away or adds
one beyond the second, whatever it filters, computes or aggregates.  So a formula that reads one of
the labels that all rows have never misses it.

* `HasColumns` — **the invariant**: which labels a row must have, and which it may have.
* `Error.AsksFor` — a formula misses a label.
* `KeepsColumns` — what a pipeline comes to: rows with the columns, or a failure for another
  reason.
* `Step.keepOf` — a filter over things that stand for rows.
* `Step.apply_columns` — one step.
* **`pipeline_columns`** — all steps.
-/

namespace Crosswalk

/-- **The columns of a row**: it has all labels that are required, and none that is not allowed. -/
structure HasColumns (required allowed : List String) (row : Row) : Prop where
  has : ∀ l ∈ required, row.has l
  mem : ∀ l, row.has l → l ∈ allowed

/-- A failure because a formula asks for a label that a row lacks. -/
def Error.AsksFor (e : Error) (l : String) : Prop :=
  ∃ source label, e = .evaluation (.unknownLabel l source) label

/-- **Rows with the columns**, or a failure that asks for none of the labels that are required. -/
def KeepsColumns (required allowed : List String) : Except Error (List Row) → Prop
  | .ok rows => ∀ row ∈ rows, HasColumns required allowed row
  | .error e => ∀ l ∈ required, ¬ e.AsksFor l

/-! ## Formulas -/

namespace Formula

lemma bind_asksFor {source : String} {row : Row} {labels : List String} {e : Error} {l : String}
    (h : bind source row labels = .error e) (hl : e.AsksFor l) : ¬ row.has l := by
  induction labels with
  | nil => cases h
  | cons label labels ih =>
      rw [bind] at h
      split at h
      · next hget =>
          cases h
          obtain ⟨_, _, heq⟩ := hl
          cases heq
          exact Row.not_has_iff.2 hget
      · split at h
        · cases h
          obtain ⟨_, _, heq⟩ := hl
          cases heq
        · rcases bind_eq_error.1 h with hrest | ⟨values, -, h⟩
          · exact ih hrest
          · cases h

/-- **A formula asks only for labels that the row lacks.** -/
lemma evaluate_asksFor {f : Formula} {row : Row} {e : Error} {l : String}
    (h : f.evaluate row = .error e) (hl : e.AsksFor l) : ¬ row.has l := by
  rcases bind_eq_error.1 h with hbind | ⟨values, -, h⟩
  · exact bind_asksFor hbind hl
  · split at h
    · cases h
    · cases h
      obtain ⟨_, _, heq⟩ := hl
      cases heq

lemma compile_asksFor {source : String} {e : Error} {l : String}
    (h : compile source = .error e) : ¬ e.AsksFor l := by
  rintro ⟨_, _, rfl⟩
  unfold compile at h
  simp only at h
  split at h
  · cases h
  · split at h
    · cases h
    · split at h
      · cases h
      · rw [refusal, Except.error.injEq] at h
        split at h <;> cases h

end Formula

/-! ## Steps -/

section Steps

variable {focus : String} {group : Option String} {allowed : List String} {rows : List Row}

lemma Aggregation.IsFailure.not_asksFor {e : Error} (h : Aggregation.IsFailure e) (l : String) :
    ¬ e.AsksFor l := by
  rintro ⟨_, _, rfl⟩
  rcases h with ⟨_, heq⟩ | ⟨_, _, heq⟩ <;> cases heq

namespace Step

/-- The things that stand for rows on which a formula is true, as `keep` has the rows. -/
def keepOf {α : Type} (f : Formula) (rowOf : α → Row) : List α → Except Error (List α)
  | [] => .ok []
  | x :: xs => do
    let v ← f.evaluate (rowOf x)
    let kept ← keepOf f rowOf xs
    .ok (if v.isTrue then x :: kept else kept)

section KeepOf

variable {α : Type} {f : Formula} {rowOf : α → Row} {xs kept : List α}

lemma keepOf_sublist (h : keepOf f rowOf xs = .ok kept) : kept.Sublist xs := by
  induction xs generalizing kept with
  | nil =>
      cases h
      exact List.Sublist.refl _
  | cons x xs ih =>
      obtain ⟨v, -, h⟩ := bind_eq_ok.1 h
      obtain ⟨rest, hrest, h⟩ := bind_eq_ok.1 h
      cases h
      have hsub := ih hrest
      split
      · exact hsub.cons_cons _
      · exact hsub.cons _

/-- **What is kept of rows** are the rows of what is kept of the things that stand for them. -/
lemma keep_map (rowOf : α → Row) :
    keep f (xs.map rowOf) = (keepOf f rowOf xs).map (List.map rowOf) := by
  induction xs with
  | nil => rfl
  | cons x xs ih =>
      rw [keepOf, List.map_cons, keep, ih]
      cases f.evaluate (rowOf x) with
      | error e => rfl
      | ok v =>
          cases keepOf f rowOf xs with
          | error e => rfl
          | ok kept => by_cases hv : v.isTrue <;> simp [hv, Except.map]

end KeepOf

lemma keep_sublist_self {f : Formula} {out : List Row} (h : keep f rows = .ok out) :
    out.Sublist rows := by
  rw [← List.map_id rows, keep_map] at h
  obtain ⟨kept, hkept, rfl⟩ := map_eq_ok.1 h
  rw [List.map_id]
  exact keepOf_sublist hkept

lemma keep_subset {f : Formula} {out : List Row} (h : keep f rows = .ok out) : out ⊆ rows :=
  (keep_sublist_self h).subset

lemma keep_error {f : Formula} {e : Error} (h : keep f rows = .error e) :
    ∃ row ∈ rows, f.evaluate row = .error e := by
  induction rows with
  | nil => cases h
  | cons row rows ih =>
      rcases bind_eq_error.1 h with hrow | ⟨v, -, h⟩
      · exact ⟨row, List.mem_cons_self, hrow⟩
      · rcases bind_eq_error.1 h with hrest | ⟨kept, -, h⟩
        · obtain ⟨r, hr, he⟩ := ih hrest
          exact ⟨r, List.mem_cons_of_mem _ hr, he⟩
        · cases h

lemma computeRow_ok {f : Formula} {row out : Row} (h : computeRow f focus row = .ok out) :
    ∃ text, out = row.set focus text := by
  obtain ⟨v, -, h⟩ := bind_eq_ok.1 h
  obtain ⟨text, -, h⟩ := bind_eq_ok.1 h
  cases h
  exact ⟨text, rfl⟩

lemma computeRow_error {f : Formula} {row : Row} {e : Error}
    (h : computeRow f focus row = .error e) :
    f.evaluate row = .error e ∨ ∃ cause, e = .plain cause := by
  rcases bind_eq_error.1 h with hrow | ⟨v, -, h⟩
  · exact Or.inl hrow
  · rcases bind_eq_error.1 h with hformat | ⟨text, -, h⟩
    · exact Or.inr (Aggregation.uncaught_error hformat)
    · cases h

/-- The columns of what a step returns. -/
lemma apply_hasColumns {step : Step} {out : List Row} (hallowed : focus :: group.toList ⊆ allowed)
    (hrows : ∀ row ∈ rows, HasColumns (focus :: group.toList) allowed row)
    (h : step.apply focus group rows = .ok out) :
    ∀ row ∈ out, HasColumns (focus :: group.toList) allowed row := by
  intro row hrow
  cases step with
  | filter source =>
      obtain ⟨f, -, h⟩ := bind_eq_ok.1 h
      exact hrows row (keep_subset h hrow)
  | map source =>
      obtain ⟨f, -, h⟩ := bind_eq_ok.1 h
      obtain ⟨r, hr, hout⟩ := exists_of_mapM_ok h row hrow
      obtain ⟨text, rfl⟩ := computeRow_ok hout
      have hcols := hrows r hr
      refine ⟨fun l hl => Row.has_set.2 (Or.inr (hcols.has l hl)), fun l hl => ?_⟩
      rcases Row.has_set.1 hl with rfl | hl
      · exact hallowed List.mem_cons_self
      · exact hcols.mem l hl
  | aggregate a =>
      -- a computed row has the focus alone, and gets the label of the group afterwards
      obtain ⟨r, hr, hlabels⟩ := Aggregation.apply_rows h row hrow
      have hr : (∀ l, r.has l → l ∈ allowed) ∧ r.has focus := by
        rcases hr with hr | ⟨text, rfl⟩
        · exact ⟨(hrows r hr).mem, (hrows r hr).has focus List.mem_cons_self⟩
        · refine ⟨fun l hl => ?_, Row.has_rowOf.2 rfl⟩
          rw [Row.has_rowOf.1 hl]
          exact hallowed List.mem_cons_self
      refine ⟨fun l hl => (hlabels l).2 ?_, fun l hl => ?_⟩
      · rcases List.mem_cons.1 hl with rfl | hl
        · exact Or.inr hr.2
        · exact Or.inl (Option.mem_toList.1 hl)
      · rcases (hlabels l).1 hl with hgroup | hl
        · exact hallowed (List.mem_cons_of_mem _ (Option.mem_toList.2 hgroup))
        · exact hr.1 l hl

/-- A step that fails does not ask for a label that all rows have. -/
lemma apply_not_asksFor {step : Step} {e : Error} {l : String} (hrows : ∀ row ∈ rows, row.has l)
    (h : step.apply focus group rows = .error e) : ¬ e.AsksFor l := by
  intro hasks
  cases step with
  | filter source =>
      rcases bind_eq_error.1 h with hcompile | ⟨f, -, h⟩
      · exact Formula.compile_asksFor hcompile hasks
      · obtain ⟨row, hrow, he⟩ := keep_error h
        exact Formula.evaluate_asksFor he hasks (hrows row hrow)
  | map source =>
      rcases bind_eq_error.1 h with hcompile | ⟨f, -, h⟩
      · exact Formula.compile_asksFor hcompile hasks
      · obtain ⟨row, hrow, he⟩ := exists_of_mapM_error h
        rcases computeRow_error he with he | hplain
        · exact Formula.evaluate_asksFor he hasks (hrows row hrow)
        · exact Aggregation.IsFailure.not_asksFor (Or.inl hplain) l hasks
  | aggregate a => exact (Aggregation.apply_error h).not_asksFor l hasks

/-- **One step keeps the columns.** -/
theorem apply_columns (step : Step) (hallowed : focus :: group.toList ⊆ allowed)
    (hrows : ∀ row ∈ rows, HasColumns (focus :: group.toList) allowed row) :
    KeepsColumns (focus :: group.toList) allowed (step.apply focus group rows) := by
  cases h : step.apply focus group rows with
  | ok out => exact apply_hasColumns hallowed hrows h
  | error e => exact fun l hl => apply_not_asksFor (fun row hrow => (hrows row hrow).has l hl) h

end Step

/-- So do several steps. -/
lemma applySteps_columns (steps : List Step) (hallowed : focus :: group.toList ⊆ allowed)
    (hrows : ∀ row ∈ rows, HasColumns (focus :: group.toList) allowed row) :
    KeepsColumns (focus :: group.toList) allowed (applySteps focus group steps rows) := by
  induction steps generalizing rows with
  | nil => exact hrows
  | cons step steps ih =>
      have hstep := step.apply_columns hallowed hrows
      rw [applySteps]
      cases h : step.apply focus group rows with
      | error e =>
          rw [h] at hstep
          exact hstep
      | ok out =>
          rw [h] at hstep
          exact ih hstep

lemma Error.asksFor_atNode {e : Error} {label l : String} :
    (e.atNode label).AsksFor l ↔ e.AsksFor l := by
  unfold Error.atNode
  split
  · constructor
    · rintro ⟨source, label', heq⟩
      cases heq
      exact ⟨source, none, rfl⟩
    · rintro ⟨source, label', heq⟩
      cases heq
      exact ⟨source, some label, rfl⟩
  · exact Iff.rfl

/-- **A pipeline keeps the columns.** -/
theorem pipeline_columns (steps : List Step) (hallowed : focus :: group.toList ⊆ allowed)
    (hrows : ∀ row ∈ rows, HasColumns (focus :: group.toList) allowed row) :
    KeepsColumns (focus :: group.toList) allowed (pipeline focus group steps rows) := by
  have hsteps := applySteps_columns steps hallowed hrows
  unfold pipeline
  cases h : applySteps focus group steps rows with
  | ok out =>
      rw [h] at hsteps
      exact hsteps
  | error e =>
      rw [h] at hsteps
      exact fun l hl hasks => hsteps l hl (Error.asksFor_atNode.1 hasks)

end Steps

end Crosswalk
