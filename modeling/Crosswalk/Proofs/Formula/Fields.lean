import Crosswalk.Proofs.Formula.Numerals
import Crosswalk.Proofs.Sequence

/-!
# Which fields can be read, and which values written

Nearly every field can be read: a text that looks like a decimal numeral as a number, any other as
the text that it is.  The one exception is a numeral without point and exponent that has too many
digits.  The same bound stands on the other side, where a whole number with too many digits cannot
be written.

* `IsOverlong` — a whole numeral with too many digits.
* **`Value.ofField_eq_error`** — which fields cannot be read.
* **`Value.format_eq_error`** — which values cannot be written.
-/

namespace Crosswalk

/-! ## Powers of two and of ten

They are compared by their exponents, since the numbers themselves are too large to be computed. -/

lemma two_pow_lt_ten_pow {a b : Nat} (h : a < 3 * b) : Nat.pow 2 a < Nat.pow 10 b :=
  calc 2 ^ a < 2 ^ (3 * b) := Nat.pow_lt_pow_right (by decide) h
    _ = 8 ^ b := Nat.pow_mul 2 3 b
    _ ≤ 10 ^ b := Nat.pow_le_pow_left (by decide) b

lemma ten_pow_lt_two_pow {a b : Nat} (h : 4 * a < b) : Nat.pow 10 a < Nat.pow 2 b :=
  calc 10 ^ a ≤ 16 ^ a := Nat.pow_le_pow_left (by decide) a
    _ = 2 ^ (4 * a) := (Nat.pow_mul 2 4 a).symm
    _ < 2 ^ b := Nat.pow_lt_pow_right (by decide) h

/-! ## Sizes of doubles -/

namespace Magnitude

lemma scaled_lt {s e a b c : Nat} (hs : s < Nat.pow 2 a) (he : e ≤ b) (hc : c = a + b) :
    s * Nat.pow 2 e < Nat.pow 2 c := by
  subst hc
  calc s * 2 ^ e < 2 ^ a * 2 ^ e := Nat.mul_lt_mul_of_pos_right hs (Nat.pow_pos (by decide))
    _ ≤ 2 ^ a * 2 ^ b := Nat.mul_le_mul_left _ (Nat.pow_le_pow_right (by decide) he)
    _ = 2 ^ (a + b) := (Nat.pow_add 2 a b).symm

/-- The steps of a magnitude have 53 bits, moved up by its scale. -/
lemma steps_lt (m : Magnitude) : m.steps < Nat.pow 2 2098 := by
  generalize hc : 2098 = c
  exact scaled_lt m.canonical.1 m.canonical.2.1 hc.symm

lemma steps_div_le (m : Magnitude) : m.steps / stepsPerOne ≤ Nat.pow 2 1024 := by
  have hsteps := m.steps_lt
  have hexponents : 2098 = 1074 + 1024 := rfl
  unfold stepsPerOne
  generalize 2098 = a at hsteps hexponents
  generalize 1074 = b at hexponents ⊢
  generalize 1024 = c at hexponents ⊢
  subst hexponents
  refine (Nat.div_lt_of_lt_mul ?_).le
  exact hsteps.trans_eq (Nat.pow_add 2 b c)

end Magnitude

/-! ## Fields -/

/-- A whole numeral with too many digits. -/
def IsOverlong (raw : String) : Prop :=
  Value.isNumeral (trimChars raw.toList) = true ∧
    Value.isWholeNumeral (trimChars raw.toList) = true ∧
    maxDigits < (takeSign (trimChars raw.toList)).2.length

instance : DecidablePred IsOverlong := fun _ => inferInstanceAs (Decidable (_ ∧ _))

namespace Value

/-- **A field can be read unless it is a whole numeral with too many digits.** -/
theorem ofField_eq_error {raw : String} {fault : Fault} :
    ofField raw = .error fault ↔ fault = .wrongValue ∧ IsOverlong raw := by
  unfold ofField IsOverlong
  generalize trimChars raw.toList = cs
  simp only
  by_cases hnumeral : isNumeral cs = true
  · by_cases hwhole : isWholeNumeral cs = true
    · have hread := (isSome_readInteger? hnumeral hwhole).not
      simp only [hnumeral, hwhole, if_true, true_and, ← Nat.not_le, ← hread]
      cases readInteger? 10 (String.ofList cs) <;> simp [eq_comm]
    · obtain ⟨x, hx⟩ := Option.isSome_iff_exists.1 (isSome_readDouble? hnumeral)
      simp [hnumeral, hwhole, hx]
  · simp [hnumeral]

/-- A whole number read from a field has not too many digits. -/
lemma natAbs_lt_of_ofField {raw : String} {i : Int} (h : ofField raw = .ok (int i)) :
    i.natAbs < digitBound := by
  unfold ofField at h
  simp only at h
  split at h
  · split at h
    · split at h
      · next hread =>
          cases h
          exact natAbs_readInteger?_lt hread
      · cases h
    · split at h <;> cases h
  · cases h

/-! ## Writing -/

/-- No double has too many digits in front of its point. -/
lemma two_pow_lt_digitBound : Nat.pow 2 1024 < digitBound := by
  have hexponents : 1024 < 3 * maxDigits := by decide
  unfold digitBound
  generalize maxDigits = b at hexponents ⊢
  generalize 1024 = a at hexponents ⊢
  exact two_pow_lt_ten_pow hexponents

lemma natAbs_truncate?_le {x : Binary64} {i : Int} (h : x.truncate? = some i) :
    i.natAbs ≤ Nat.pow 2 1024 := by
  cases x with
  | finite negative m =>
      have hsteps := m.steps_div_le
      cases h
      generalize m.steps / stepsPerOne = q at hsteps
      cases negative <;> simpa only [Int.natAbs_neg, Int.natAbs_natCast, if_true, if_false,
        Bool.false_eq_true] using hsteps
  | _ => cases h

lemma intText_eq_error {i : Int} {fault : Fault} :
    intText i = .error fault ↔ fault = .wrongValue ∧ digitBound ≤ i.natAbs := by
  unfold intText integerText?
  by_cases h : i.natAbs < digitBound
  · simp [h]
  · simp [h, Nat.not_lt.1 h, eq_comm]

/-- **A value can be written unless it is a whole number with too many digits.** -/
theorem format_eq_error {v : Value} {fault : Fault} :
    v.format = .error fault ↔
      fault = .wrongValue ∧ ∃ i, v = .int i ∧ digitBound ≤ i.natAbs := by
  cases v with
  | int i => simp [format, intText_eq_error]
  | float x =>
      simp only [format]
      split
      · next i hwhole htrunc =>
          have hi := (natAbs_truncate?_le htrunc).trans_lt two_pow_lt_digitBound
          rw [intText_eq_error]
          refine iff_of_false (fun h => ?_) (by simp)
          omega
      · simp
  | _ => simp [format]

end Value

end Crosswalk
