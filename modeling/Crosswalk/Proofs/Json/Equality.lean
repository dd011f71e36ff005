import Crosswalk.Json.Equality
import Mathlib.Algebra.Order.Ring.Int
import Mathlib.Data.List.Sort

/-!
# Values that are equal as keys

A text equals itself alone.  Numbers are equal if their values are, so at most one whole number
equals a given value; a value that equals a truth value counts as that.

* `Json.equals_text`, `Json.text_equals` — the equals of a text.
* `Json.int_unique` — **the whole number that a value equals.**
* `Json.isTrue_of_equals_bool` — values that equal a truth value.
* `Json.sortByKey?_of_ascending` — **entries whose keys ascend are in order.**
-/

namespace Crosswalk.Json

@[simp] lemma equals_text (j : Json) (s : String) : j.equals (.text s) ↔ j = .text s := by
  cases j <;> simp [equals, scalarsEqual, number?]

@[simp] lemma text_equals (j : Json) (s : String) : (Json.text s).equals j ↔ j = .text s := by
  cases j with
  | text t => simp [equals, scalarsEqual, eq_comm (a := s)]
  | _ => simp [equals, scalarsEqual, number?]

/-! ## Numbers -/

/-- The order of a value and a whole number that it equals. -/
lemma equals_int_iff {j : Json} {i : Int} :
    j.equals (.int i) ↔
      ∃ v, j.number? = some v ∧ Value.compareReals? v (.int i) = some .eq := by
  cases j <;> simp [equals, scalarsEqual, number?, Value.equal, Value.isReal]

@[simp] lemma int_equals_int (a b : Int) : (Json.int a).equals (.int b) ↔ a = b := by
  simp [equals_int_iff, number?, Value.compareReals?, Value.asInt?]

lemma signed_eq_zero_iff {a : Bool} {m : Magnitude} :
    Binary64.signed a m = 0 ↔ m.significand = 0 := by
  cases a <;> simp [Binary64.signed, Magnitude.steps]

/-- A number is as much as at most one whole number. -/
lemma compareReals?_unique {v : Value} {m n : Int} (hm : v.compareReals? (.int m) = some .eq)
    (hn : v.compareReals? (.int n) = some .eq) : m = n := by
  cases v with
  | float x =>
      cases x with
      | finite a x =>
          simp only [Value.compareReals?, Value.asInt?, Option.bind_some, Binary64.compareInt?,
            Option.some.injEq, compare_eq_iff_eq] at hm hn
          have hsteps : (stepsPerOne : Int) ≠ 0 := by
            have := stepsPerOne_pos
            omega
          exact mul_right_cancel₀ hsteps (hm.symm.trans hn)
      | infinite a => cases a <;> cases hm
      | nan => cases hm
  | bool b =>
      simp only [Value.compareReals?, Value.asInt?, Option.bind_eq_bind, Option.bind_some,
        Option.some.injEq, compare_eq_iff_eq] at hm hn
      exact hm.symm.trans hn
  | int i =>
      simp only [Value.compareReals?, Value.asInt?, Option.bind_eq_bind, Option.bind_some,
        Option.some.injEq, compare_eq_iff_eq] at hm hn
      exact hm.symm.trans hn
  | _ => cases hm

lemma int_unique {j : Json} {m n : Int} (hm : j.equals (.int m)) (hn : j.equals (.int n)) :
    m = n := by
  obtain ⟨v, hv, hm⟩ := equals_int_iff.1 hm
  obtain ⟨w, hw, hn⟩ := equals_int_iff.1 hn
  obtain rfl := Option.some_inj.1 (hv.symm.trans hw)
  exact compareReals?_unique hm hn

lemma equals_bool_iff {j : Json} {b : Bool} :
    j.equals (.bool b) ↔
      ∃ v, j.number? = some v ∧ Value.compareReals? v (.bool b) = some .eq := by
  cases j <;> simp [equals, scalarsEqual, number?, Value.equal, Value.isReal]

@[simp] lemma bool_equals_bool (a b : Bool) : (Json.bool a).equals (.bool b) ↔ a = b := by
  simp only [equals_bool_iff, number?]
  cases a <;> cases b <;> decide

/-- A value that equals a truth value counts as that. -/
lemma isTrue_of_equals_bool {j : Json} {b : Bool} (h : j.equals (.bool b)) : j.isTrue = b := by
  obtain ⟨v, hv, h⟩ := equals_bool_iff.1 h
  cases j with
  | bool c =>
      cases hv
      revert h
      cases b <;> cases c <;> decide
  | int i =>
      cases hv
      simp only [Value.compareReals?, Value.asInt?, Option.bind_eq_bind, Option.bind_some,
        Option.some.injEq, compare_eq_iff_eq] at h
      subst h
      cases b <;> rfl
  | float x =>
      cases hv
      cases x with
      | finite a m =>
          simp only [Value.compareReals?, Value.asInt?, Option.bind_some, Binary64.compareInt?,
            Option.some.injEq, compare_eq_iff_eq] at h
          have hzero := signed_eq_zero_iff (a := a) (m := m)
          have hpos := stepsPerOne_pos
          generalize stepsPerOne = k at h hpos
          cases b <;> simp [Value.ofBit] at h <;> simp [isTrue, Binary64.isZero] <;> omega
      | infinite a => cases a <;> cases h
      | nan => cases h
  | _ => cases hv

/-! ## Order -/

lemma numberAtMost_int (a b : Int) : numberAtMost (.int a) (.int b) ↔ a ≤ b := by
  simp [numberAtMost, number?, Value.compareReals?, Value.asInt?, compare_gt_iff_gt]

/-- **Entries whose keys ascend are in order** already. -/
theorem sortByKey?_of_ascending {α : Type} {entries : List (Json × α)} {keys : List Int}
    (hkeys : entries.map Prod.fst = keys.map Json.int) (hasc : keys.Pairwise (· ≤ ·)) :
    sortByKey? entries = some entries := by
  have hint : ∀ e ∈ entries, ∃ i ∈ keys, e.1 = .int i := by
    intro e he
    have hmem : e.1 ∈ keys.map Json.int := hkeys ▸ List.mem_map_of_mem he
    obtain ⟨i, hi, heq⟩ := List.mem_map.1 hmem
    exact ⟨i, hi, heq.symm⟩
  have hsorted : entries.Pairwise fun a b => numberAtMost a.1 b.1 := by
    have h : (entries.map Prod.fst).Pairwise fun a b => numberAtMost a b := by
      rw [hkeys, List.pairwise_map]
      exact hasc.imp fun {a b} hab => (numberAtMost_int a b).2 hab
    exact List.pairwise_map.1 h
  rw [sortByKey?]
  split
  · rfl
  · have hall : entries.all (fun e => e.1.number?.isSome) := by
      simp only [List.all_eq_true]
      intro e he
      obtain ⟨i, -, heq⟩ := hint e he
      simp [heq, number?]
    rw [if_pos hall, List.mergeSort_of_pairwise hsorted]

end Crosswalk.Json
