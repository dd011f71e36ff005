import Crosswalk.Proofs.Sequence
import Crosswalk.Row

/-!
# Reading and writing rows

What a row has after a text has been put under one of its labels: that text there, and what it had
before everywhere else.

* `Row.get?_set_self`, `Row.get?_set_ne` — the two cases of reading behind a writing.
* `Row.has_set` — which labels there are then.
* `Row.set_of_notMem` — a new label comes last.
-/

namespace Crosswalk

namespace Row

lemma lookup_setCells (l k text : String) (cells : List (String × String)) :
    (setCells l text cells).lookup k = if k = l then some text else cells.lookup k := by
  induction cells with
  | nil => by_cases h : k = l <;> simp [setCells, h]
  | cons cell cells ih =>
      obtain ⟨l', t⟩ := cell
      rw [setCells]
      split
      · next hl =>
          subst hl
          by_cases h : k = l'
          · simp [h]
          · simp [List.lookup_cons, beq_false_of_ne h, h]
      · next hl =>
          rw [List.lookup_cons, List.lookup_cons, ih]
          by_cases h : k = l
          · subst h
            simp [beq_false_of_ne (Ne.symm hl)]
          · simp [h]

@[simp] lemma get?_set_self (row : Row) (l text : String) :
    (row.set l text).get? l = some text := by
  rw [get?, set, lookup_setCells, if_pos rfl]

lemma get?_set_ne {row : Row} {l k text : String} (h : k ≠ l) :
    (row.set l text).get? k = row.get? k := by
  rw [get?, set, lookup_setCells, if_neg h, get?]

/-- A row in which a text is put where it is already. -/
lemma set_of_get? {row : Row} {l text : String} (h : row.get? l = some text) :
    row.set l text = row := by
  have hcells : ∀ cells : List (String × String), cells.lookup l = some text →
      setCells l text cells = cells := by
    intro cells
    induction cells with
    | nil => exact fun h => nomatch h
    | cons cell cells ih =>
        obtain ⟨k, t⟩ := cell
        intro h
        rw [setCells]
        by_cases hk : k = l
        · subst hk
          rw [List.lookup_cons_self, Option.some_inj] at h
          rw [if_pos rfl, h]
        · rw [List.lookup_cons, beq_false_of_ne (Ne.symm hk)] at h
          rw [if_neg hk, ih h]
  rw [set, hcells row.cells h]

lemma has_iff {row : Row} {l : String} : row.has l ↔ ∃ text, row.get? l = some text := by
  rw [has, Option.isSome_iff_exists]

lemma not_has_iff {row : Row} {l : String} : ¬ row.has l ↔ row.get? l = none := by
  rw [has, Bool.not_eq_true, Option.isSome_eq_false_iff, Option.isNone_iff_eq_none]

/-- **The labels of a row** behind a writing. -/
lemma has_set {row : Row} {l k text : String} : (row.set l text).has k ↔ k = l ∨ row.has k := by
  by_cases h : k = l
  · subst h
    simp [has]
  · simp [has, get?_set_ne h, h]

lemma setCells_of_notMem {l text : String} {cells : List (String × String)}
    (h : l ∉ cells.map Prod.fst) : setCells l text cells = cells ++ [(l, text)] := by
  induction cells with
  | nil => rfl
  | cons cell cells ih =>
      obtain ⟨l', t⟩ := cell
      simp only [List.map_cons, List.mem_cons, not_or] at h
      rw [setCells, if_neg (Ne.symm h.1), ih h.2, List.cons_append]

lemma set_of_notMem {row : Row} {l text : String} (h : l ∉ row.cells.map Prod.fst) :
    row.set l text = ⟨row.cells ++ [(l, text)]⟩ := by
  rw [set, setCells_of_notMem h]

end Row

end Crosswalk
