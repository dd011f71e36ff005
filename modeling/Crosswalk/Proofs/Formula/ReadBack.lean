import Crosswalk.Proofs.Formula.Order
import Crosswalk.Proofs.Number.PlainForm

/-!
# Numbers are read back

A number that is written is read as a number again, though perhaps not of the same kind: a double
without a fraction is written as a whole number and read as one.  Its exact value stays the same,
and with it every comparison.  What has no exact value among the rational numbers is written as a
word, which is no numeral.

* `Value.isFinite` — the numbers that are neither infinite nor undefined.
* **`Value.ofField_format`** — a finite number is read back with its exact value;
  `Value.exists_read_back` says that it is written as before.
* `Value.ofField_format_not_finite` — an infinity and the undefined number are read back as texts.
* `Value.compare?_eq_of_exact` — numbers of one exact value are compared alike.
-/

namespace Crosswalk

namespace Value

/-- **A number that is neither infinite nor undefined.** -/
def isFinite : Value → Bool
  | int _ => true
  | float (.finite _ _) => true
  | _ => false

variable {v w u : Value} {t : String}

lemma isDefined_of_isFinite (hv : v.isFinite = true) : v.IsDefined := by
  cases v with
  | int i => exact ⟨rfl, nofun⟩
  | float x =>
      refine ⟨rfl, ?_⟩
      rintro heq
      cases heq
      cases hv
  | _ => cases hv

/-- A double without a fraction is the whole number that it is written as. -/
lemma exact_truncate {negative : Bool} {m : Magnitude} {i : Int}
    (hwhole : (Binary64.finite negative m).isIntegral = true)
    (htruncate : (Binary64.finite negative m).truncate? = some i) :
    (int i).exact = (float (.finite negative m)).exact := by
  have hmultiple : m.steps % stepsPerOne = 0 := eq_of_beq hwhole
  have hquotient : m.steps = m.steps / stepsPerOne * stepsPerOne :=
    (Nat.div_mul_cancel (Nat.dvd_of_mod_eq_zero hmultiple)).symm
  have hsteps : (stepsPerOne : ℚ) ≠ 0 := stepsPerOne_cast_pos.ne'
  simp only [Binary64.truncate?, Option.some_inj] at htruncate
  rw [exact, exact, Binary64.exact, Binary64.signed, hquotient, ← htruncate]
  generalize m.steps / stepsPerOne = q
  generalize (stepsPerOne : Nat) = s at hsteps ⊢
  congr 2
  cases negative with
  | true => simp [neg_div, hsteps]
  | false => simp [hsteps]

/-- What a finite number is read back as has its exact value, and is written as it was. -/
lemma exists_read_back (hv : v.isFinite = true) (h : v.format = .ok t) :
    ∃ w, ofField t = .ok w ∧ w.IsDefined ∧ w.exact = v.exact ∧ w.format = .ok t := by
  have hint : ∀ i, intText i = .ok t →
      ∃ w, ofField t = .ok w ∧ w.IsDefined ∧ w.exact = (int i).exact ∧ w.format = .ok t :=
    fun i hi => ⟨.int i, ofField_intText hi, isDefined_of_isFinite rfl, rfl, hi⟩
  cases v with
  | int i => exact hint i h
  | float x =>
      cases x with
      | finite negative m =>
          obtain ⟨i, htruncate⟩ : ∃ i, (Binary64.finite negative m).truncate? = some i :=
            ⟨_, rfl⟩
          have hwritten := h
          rw [format, htruncate] at h
          cases hwhole : (Binary64.finite negative m).isIntegral with
          | true =>
              rw [hwhole] at h
              obtain ⟨w, hw, hdefined, hexact, hformat⟩ := hint i h
              exact ⟨w, hw, hdefined, hexact.trans (exact_truncate hwhole htruncate), hformat⟩
          | false =>
              rw [hwhole] at h
              cases h
              have hne : m.significand ≠ 0 := by
                intro hzero
                have hzeroWhole : (Binary64.finite negative m).isIntegral = true := by
                  simp [Binary64.isIntegral, Magnitude.steps, hzero]
                rw [hzeroWhole] at hwhole
                cases hwhole
              obtain ⟨htrim, hnumeral, hpoint, hread⟩ := Binary64.readDouble?_text negative hne
              refine ⟨.float (.finite negative m), ?_, isDefined_of_isFinite hv, rfl, hwritten⟩
              simp only [ofField, htrim, hnumeral, hpoint, String.ofList_toList, hread, if_true,
                Bool.false_eq_true, if_false]
      | _ => cases hv
  | _ => cases hv

/-- **A finite number is read back as a number with its exact value.** -/
theorem ofField_format (hv : v.isFinite = true) (h : v.format = .ok t) :
    ∃ w, ofField t = .ok w ∧ w.IsDefined ∧ w.exact = v.exact := by
  obtain ⟨w, hw, hdefined, hexact, -⟩ := exists_read_back hv h
  exact ⟨w, hw, hdefined, hexact⟩

/-- **An infinity and the undefined number are written as words**, which are read as texts. -/
theorem ofField_format_not_finite (hnumber : v.isNumber) (hv : v.isFinite = false)
    (h : v.format = .ok t) : ofField t = .ok (.text t) := by
  have hnumeral : ∀ word ∈ ["nan", "inf", "-inf"],
      isNumeral (trimChars word.toList) = false := by decide
  have hwords : ∀ word ∈ ["nan", "inf", "-inf"], ofField word = .ok (.text word) := by
    intro word hword
    simp only [ofField, hnumeral word hword, Bool.false_eq_true, if_false]
  cases v with
  | float x =>
      cases x with
      | nan =>
          cases h
          exact hwords _ (by decide)
      | infinite negative =>
          cases h
          cases negative <;> exact hwords _ (by decide)
      | finite negative m => cases hv
  | int i => cases hv
  | _ => cases hnumber

lemma key_of_isDefined (hv : v.IsDefined) : v.key = toLex (.inl v.exact) := by
  cases v <;> first | rfl | cases hv.1

/-- **Numbers of one exact value are compared alike** with any number. -/
lemma compare?_eq_of_exact (hw : w.IsDefined) (hv : v.IsDefined) (hu : u.IsDefined)
    (h : w.exact = v.exact) : w.compare? u = v.compare? u ∧ u.compare? w = u.compare? v := by
  have hkey : w.key = v.key := by rw [key_of_isDefined hw, key_of_isDefined hv, h]
  constructor
  · obtain ⟨o, ho, hcompares⟩ := compare?_key (Or.inl ⟨hw, hu⟩)
    obtain ⟨o', ho', hcompares'⟩ := compare?_key (Or.inl ⟨hv, hu⟩)
    rw [hkey] at hcompares
    rw [ho, ho', hcompares.inj hcompares']
  · obtain ⟨o, ho, hcompares⟩ := compare?_key (Or.inl ⟨hu, hw⟩)
    obtain ⟨o', ho', hcompares'⟩ := compare?_key (Or.inl ⟨hu, hv⟩)
    rw [hkey] at hcompares
    rw [ho, ho', hcompares.inj hcompares']

end Value

end Crosswalk
