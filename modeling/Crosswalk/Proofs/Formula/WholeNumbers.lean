import Crosswalk.Proofs.Formula.TextLengths
import Mathlib.Data.List.TakeWhile

/-!
# Whole numbers as fields

A field with a sign and digits is read as the whole number that these denote, whatever script they
are of and whatever blanks stand around them.  A whole number is written with ASCII digits, so what
is written is read as the number that it was.

* `IsWholeText`, `textNumber` — **a text that is a whole numeral**, and the number that it
  denotes.
* `Value.ofField_whole` — such a text is read as its number.
* `Value.ofField_intText` — **a whole number is read back.**
-/

namespace Crosswalk

/-- **A text that is a whole numeral**: a sign, which may be missing, and digits, with blanks
around. -/
def IsWholeText (raw : String) : Prop :=
  Value.isNumeral (trimChars raw.toList) = true ∧
    Value.isWholeNumeral (trimChars raw.toList) = true

instance : DecidablePred IsWholeText := fun _ => inferInstanceAs (Decidable (_ ∧ _))

/-- The number that a whole numeral denotes. -/
def textNumber (raw : String) : Int := wholeNumber (trimChars raw.toList)

/-! ## Digits -/

section Digits

variable {cs : List Char}

lemma isDecimal_digitChar {d : Nat} (h : d < 10) :
    isBlank (Nat.digitChar d) = false ∧ decimalValue? (Nat.digitChar d) = some d := by
  interval_cases d <;> exact ⟨rfl, rfl⟩

lemma digitsNumber_concat (cs : List Char) (c : Char) :
    digitsNumber (cs ++ [c]) = digitsNumber cs * 10 + (decimalValue? c).getD 0 := by
  simp [digitsNumber]

/-- The digits of a number denote it, and are digits. -/
lemma digitsNumber_toDigits (n : Nat) :
    digitsNumber (Nat.toDigits 10 n) = n ∧
      ∀ c ∈ Nat.toDigits 10 n, isBlank c = false ∧ isDecimal c = true := by
  induction n using Nat.strong_induction_on with
  | _ n ih =>
      by_cases hn : n < 10
      · obtain ⟨hblank, hvalue⟩ := isDecimal_digitChar hn
        rw [Nat.toDigits_of_lt_base hn, List.forall_mem_singleton]
        exact ⟨by simp [digitsNumber, hvalue], hblank, by rw [isDecimal, hvalue]; rfl⟩
      · obtain ⟨hnumber, hdigits⟩ := ih (n / 10) (by omega)
        obtain ⟨hblank, hvalue⟩ := isDecimal_digitChar (Nat.mod_lt n (by decide : 0 < 10))
        rw [Nat.toDigits_of_base_le (by decide) (Nat.not_lt.1 hn)]
        refine ⟨?_,
          List.forall_mem_append.2 ⟨hdigits, List.forall_mem_singleton.2 ⟨hblank, ?_⟩⟩⟩
        · rw [digitsNumber_concat, hnumber, hvalue, Option.getD_some]
          omega
        · rw [isDecimal, hvalue]
          rfl

/-- Digits have no sign in front. -/
lemma takeSign_of_digits (h : ∀ c ∈ cs, isDecimal c = true) : takeSign cs = (false, cs) := by
  have hsigns : ∀ s ∈ ['-', '+'], isDecimal s = false := by
    intro s hs
    rcases List.mem_pair.1 hs with rfl | rfl <;> rfl
  rcases takeSign_cases cs with heq | ⟨s, hs, heq⟩
  · exact heq
  · rw [heq, List.forall_mem_cons, hsigns s hs] at h
    cases h.1

/-- A sign, which may be missing, and digits are a whole numeral. -/
lemma isNumeral_of_digits (hne : (takeSign cs).2 ≠ [])
    (h : ∀ c ∈ (takeSign cs).2, isDecimal c = true) :
    Value.isNumeral cs = true ∧ Value.isWholeNumeral cs = true := by
  refine ⟨?_, List.all_eq_true.2 h⟩
  rw [Value.isNumeral]
  simp only [List.takeWhile_eq_self_iff.2 h, List.dropWhile_eq_nil_iff.2 h]
  simp [hne, Value.isExponentTail]

lemma trimChars_of_not_blank (h : ∀ c ∈ cs, isBlank c = false) : trimChars cs = cs := by
  have hkeep : ∀ {l : List Char}, (∀ c ∈ l, isBlank c = false) →
      l.dropWhile isBlank = l := by
    intro l hl
    cases l with
    | nil => rfl
    | cons c l => exact List.dropWhile_cons_of_neg (by simp [hl c List.mem_cons_self])
  rw [trimChars, hkeep h, hkeep fun c hc => h c (List.mem_reverse.1 hc), List.reverse_reverse]

end Digits

namespace Value

/-- **A whole numeral is read as the number that it denotes**, unless it has too many digits. -/
theorem ofField_whole {raw : String} (h : IsWholeText raw) (hlen : ¬ IsOverlong raw) :
    ofField raw = .ok (.int (textNumber raw)) := by
  have hshort : (takeSign (trimChars raw.toList)).2.length ≤ maxDigits :=
    Nat.not_lt.1 fun hlong => hlen ⟨h.1, h.2, hlong⟩
  simp only [ofField, h.1, h.2, if_true, readInteger?_of_whole h.1 h.2, if_pos hshort, textNumber]

/-! ## Writing and reading back -/

/-- What a whole number is written as, if it has not too many digits. -/
lemma intText_eq_ok {i : Int} {s : String} (h : intText i = .ok s) : i.natAbs < digitBound ∧
    s.toList = if i < 0 then '-' :: Nat.toDigits 10 i.natAbs else Nat.toDigits 10 i.natAbs := by
  unfold intText integerText? at h
  by_cases hi : i.natAbs < digitBound
  · rw [if_pos hi] at h
    cases h
    refine ⟨hi, ?_⟩
    split <;> simp [digitText]
  · rw [if_neg hi] at h
    cases h

/-- **A whole number that is written is read back.** -/
theorem ofField_intText {i : Int} {s : String} (h : intText i = .ok s) :
    ofField s = .ok (.int i) := by
  obtain ⟨hi, hs⟩ := intText_eq_ok h
  obtain ⟨hnumber, hdigits⟩ := digitsNumber_toDigits i.natAbs
  have hlen := decimalLength_le_maxDigits hi
  have hne : Nat.toDigits 10 i.natAbs ≠ [] := Nat.toDigits_ne_nil
  rw [decimalLength] at hlen
  generalize Nat.toDigits 10 i.natAbs = ds at *
  have hsign : takeSign s.toList = (decide (i < 0), ds) := by
    rw [hs]
    by_cases hneg : i < 0
    · simp [hneg, takeSign]
    · simp [hneg, takeSign_of_digits fun c hc => (hdigits c hc).2]
  have htrim : trimChars s.toList = s.toList := by
    refine trimChars_of_not_blank ?_
    rw [hs]
    split
    · exact List.forall_mem_cons.2 ⟨rfl, fun c hc => (hdigits c hc).1⟩
    · exact fun c hc => (hdigits c hc).1
  have hwhole : IsWholeText s := by
    rw [IsWholeText, htrim]
    refine isNumeral_of_digits ?_ ?_ <;> rw [hsign]
    · exact hne
    · exact fun c hc => (hdigits c hc).2
  have hvalue : textNumber s = i := by
    rw [textNumber, htrim, wholeNumber, hsign, hnumber]
    by_cases hneg : i < 0
    · simp only [hneg, decide_true, if_true]
      omega
    · simp only [hneg, decide_false, Bool.false_eq_true, if_false]
      omega
  rw [ofField_whole hwhole, hvalue]
  rintro ⟨-, -, hlong⟩
  rw [htrim, hsign] at hlong
  exact Nat.not_lt.2 hlen hlong

lemma intText_natCast {n : Nat} (h : n < digitBound) : intText n = .ok (toString n) := by
  have htext : digitText n = toString n := rfl
  have hnot : ¬ (n : Int) < 0 := Int.not_lt.2 (Int.natCast_nonneg n)
  unfold intText integerText?
  generalize digitBound = most at h
  rw [Int.natAbs_natCast, if_pos h, if_neg hnot, String.empty_append, htext]

end Value

end Crosswalk
