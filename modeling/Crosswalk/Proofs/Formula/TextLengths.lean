import Crosswalk.Formula.Arithmetic
import Crosswalk.Proofs.Formula.Fields
import Mathlib.Data.Nat.Digits.Lemmas

/-!
# How long the texts of values are

Only the text of a text can be long.  A whole number with too many digits is not written, and a
double has no more digits than its exact expansion, whether it is written by the fewest digits or,
being whole, as a whole number.

* `Magnitude.shortest_bounds` — the digits and the exponent of a double.
* **`Value.length_format_le`** — what is written is either the text itself or short.
-/

namespace Crosswalk

/-! ## Digits -/

lemma decimalLength_le_iff {n k : Nat} (hk : 0 < k) : decimalLength n ≤ k ↔ n < 10 ^ k :=
  Nat.length_toDigits_le_iff (by decide) hk

lemma length_paddedDigits_le (width n : Nat) :
    (paddedDigits width n).length ≤ max width (decimalLength n) := by
  simp only [paddedDigits, String.length_ofList, List.length_append, List.length_replicate,
    decimalLength]
  omega

lemma length_withoutTrailingZeros_le (ds : List Char) :
    (withoutTrailingZeros ds).length ≤ ds.length := by
  have h := (List.dropWhile_sublist (· == '0') (l := ds.reverse)).length_le
  simpa [withoutTrailingZeros] using h

lemma length_pointed_le (ds : List Char) : (pointed ds).length ≤ ds.length + 1 := by
  unfold pointed
  split <;> simp

lemma length_splitAtPoint_le (ds : List Char) (position : Int) :
    (splitAtPoint ds position).1.length + (splitAtPoint ds position).2.length ≤
      ds.length + position.natAbs + 1 := by
  unfold splitAtPoint
  split <;> simp <;> omega

lemma length_exponentText_le {mark : Char} {e : Int} {k : Nat} (hk : 2 ≤ k)
    (he : e.natAbs < 10 ^ k) : (exponentText mark e).length ≤ k + 2 := by
  have hdigits : decimalLength e.natAbs ≤ k := (decimalLength_le_iff (by omega)).2 he
  have h := length_paddedDigits_le 2 e.natAbs
  simp only [exponentText, List.length_cons, String.length_toList]
  omega

/-! ## Doubles -/

namespace Magnitude

/-- A bound of the digits that the decimal forms of a double are made from. -/
def digitRoom : Nat := 2000

/-- A bound of the power of ten that a double is multiplied by. -/
def scaleRoom : Nat := 1200

lemma mul_add_one_le_ten_pow {x y a b : Nat} (hx : x < 10 ^ a) (hy : y ≤ 10 ^ b) :
    x * y + 1 ≤ 10 ^ (a + b) := by
  have hpos : 0 < 10 ^ b := Nat.pow_pos (by decide)
  calc x * y + 1 ≤ x * 10 ^ b + 10 ^ b := Nat.add_le_add (Nat.mul_le_mul_left x hy) hpos
    _ = (x + 1) * 10 ^ b := (Nat.succ_mul _ _).symm
    _ ≤ 10 ^ a * 10 ^ b := Nat.mul_le_mul_right _ hx
    _ = 10 ^ (a + b) := (Nat.pow_add 10 a b).symm

lemma steps_mul_lt (m : Magnitude) {scale : Nat} (hscale : scale ≤ 10 ^ scaleRoom) :
    m.steps * scale + 1 < 10 ^ digitRoom := by
  have hsteps := m.steps_lt
  have hbits : 2098 < 3 * 700 := by decide
  have hroom : 700 + scaleRoom < digitRoom := by decide
  generalize 2098 = bits at hsteps hbits
  generalize 700 = digits at hbits hroom
  have hdigits : m.steps < Nat.pow 10 digits := hsteps.trans (two_pow_lt_ten_pow hbits)
  exact (mul_add_one_le_ten_pow hdigits hscale).trans_lt (Nat.pow_lt_pow_right (by decide) hroom)

lemma pointPosition_bounds (m : Magnitude) :
    -400 ≤ m.pointPosition ∧ m.pointPosition ≤ 1600 := by
  unfold pointPosition
  have hroom : 400 ≤ scaleRoom := by decide
  have hscale : Nat.pow 10 400 ≤ 10 ^ scaleRoom := by
    generalize 400 = k at hroom ⊢
    generalize scaleRoom = room at hroom ⊢
    exact Nat.pow_le_pow_right (by decide) hroom
  generalize Nat.pow 10 400 = scale at hscale ⊢
  have hlt : m.steps * scale / stepsPerOne < 10 ^ digitRoom :=
    (Nat.div_le_self _ _).trans_lt ((Nat.lt_succ_self _).trans (m.steps_mul_lt hscale))
  have hlength := (decimalLength_le_iff (by decide)).2 hlt
  simp only [digitRoom] at hlength
  omega

lemma le_of_mem_neighbours {num den d : Nat} (h : d ∈ neighbours num den) : d ≤ num + 1 := by
  have hquotient := Nat.div_le_self num den
  unfold neighbours at h
  simp only at h
  split at h
  · simp only [List.mem_singleton] at h
    omega
  · split at h <;> simp only [List.mem_cons, List.not_mem_nil, or_false] at h <;> omega

lemma onGrid_lt (m : Magnitude) {exponent : Int} (hexponent : -scaleRoom ≤ exponent) :
    (m.onGrid exponent).1 + 1 < 10 ^ digitRoom := by
  unfold onGrid
  split
  · have hscale : 1 ≤ 10 ^ scaleRoom := Nat.one_le_pow _ _ (by decide)
    simpa only [Nat.mul_one] using m.steps_mul_lt hscale
  · have hscale : 10 ^ (-exponent).toNat ≤ 10 ^ scaleRoom :=
      Nat.pow_le_pow_right (by decide) (by omega)
    exact m.steps_mul_lt hscale

lemma decimalOfLength_bounds {m : Magnitude} {count : Nat} {d : Decimal} (hcount : count ≤ 17)
    (h : m.decimalOfLength count = some d) :
    d.digits < 10 ^ digitRoom ∧ d.exponent.natAbs ≤ digitRoom := by
  obtain ⟨hleast, hmost⟩ := m.pointPosition_bounds
  have hexponent : -(scaleRoom : Int) ≤ m.pointPosition - count ∧
      m.pointPosition - count ≤ 1600 := by
    simp only [scaleRoom]
    omega
  have hlt := m.onGrid_lt hexponent.1
  -- the grid gets another name, since a check by computation would lay it out
  obtain ⟨decimal, hdecimal⟩ : ∃ decimal, decimal = decimalOfLength := ⟨_, rfl⟩
  obtain ⟨grid, hgrid⟩ : ∃ grid, grid = onGrid := ⟨_, rfl⟩
  rw [← hdecimal] at h
  delta decimalOfLength at hdecimal
  rw [← hgrid] at hdecimal hlt
  rw [hdecimal] at h
  simp only at h
  obtain ⟨digits, hdigits, rfl⟩ := List.mem_map.1 (List.mem_of_find?_eq_some h)
  refine ⟨(le_of_mem_neighbours hdigits).trans_lt hlt, ?_⟩
  simp only [scaleRoom] at hexponent
  simp only [digitRoom]
  omega

/-- **The digits and the exponent of a double are bounded.** -/
lemma shortest_bounds (m : Magnitude) :
    m.shortest.digits < 10 ^ digitRoom ∧ m.shortest.exponent.natAbs ≤ digitRoom := by
  obtain ⟨short, hshort⟩ : ∃ short, short = shortest := ⟨_, rfl⟩
  obtain ⟨decimal, hdecimal⟩ : ∃ decimal, decimal = decimalOfLength := ⟨_, rfl⟩
  have hbounds : ∀ count ≤ 17, ∀ d, decimal m count = some d →
      d.digits < 10 ^ digitRoom ∧ d.exponent.natAbs ≤ digitRoom := by
    rw [hdecimal]
    exact fun count hcount d hd => decimalOfLength_bounds hcount hd
  rw [← hshort]
  delta shortest at hshort
  rw [← hdecimal] at hshort
  simp only [hshort]
  cases h : (List.range 17).findSome? fun k => decimal m (k + 1) with
  | some d =>
      obtain ⟨k, hk, hd⟩ := List.exists_of_findSome?_eq_some h
      exact hbounds (k + 1) (List.mem_range.1 hk) d hd
  | none =>
      have hroom : 1074 ≤ scaleRoom := by decide
      have hscale : Nat.pow 5 1074 ≤ 10 ^ scaleRoom := by
        generalize 1074 = k at hroom ⊢
        exact (Nat.pow_le_pow_left (by decide) k).trans (Nat.pow_le_pow_right (by decide) hroom)
      refine ⟨(Nat.lt_succ_self _).trans (m.steps_mul_lt hscale), ?_⟩
      simp only [Option.getD_none, digitRoom]
      omega

/-- The text of a double is short. -/
lemma length_text_le (m : Magnitude) {form : PlainForm} (hleast : -3 ≤ form.leastPosition)
    (hmost : form.mostPosition ≤ 16) : (m.text form).length ≤ 3 * digitRoom := by
  obtain ⟨hdigits, hexponent⟩ := m.shortest_bounds
  obtain ⟨short, hshort⟩ : ∃ short, short = shortest := ⟨_, rfl⟩
  obtain ⟨shown, hshown⟩ : ∃ shown, shown = text := ⟨_, rfl⟩
  rw [← hshown]
  delta text at hshown
  rw [← hshort] at hshown hdigits hexponent
  simp only [hshown]
  generalize short m = d at hdigits hexponent
  have hlength : (Nat.toDigits 10 d.digits).length ≤ digitRoom :=
    (decimalLength_le_iff (by decide)).2 hdigits
  generalize Nat.toDigits 10 d.digits = ds at hlength
  have hkept := length_withoutTrailingZeros_le ds
  generalize withoutTrailingZeros ds = kept at hkept
  simp only [digitRoom] at hlength hexponent ⊢
  split
  · split <;> simp
  · split
    · next hposition =>
        have hsplit := length_splitAtPoint_le kept (d.exponent + ds.length)
        generalize splitAtPoint kept (d.exponent + ds.length) = parts at hsplit
        have hpointed := length_pointed_le parts.2
        simp only [List.length_append]
        split <;> simp <;> omega
    · have hpower : (d.exponent + ds.length - 1).natAbs < 10 ^ 5 := by omega
      have htail : (exponentText 'e' (d.exponent + ds.length - 1)).length ≤ 5 + 2 :=
        length_exponentText_le (by decide) hpower
      have hpointed := length_pointed_le (kept.drop 1)
      simp only [List.length_append, List.length_take, List.length_drop] at hpointed ⊢
      omega

end Magnitude

lemma Binary64.length_text_le (x : Binary64) {form : PlainForm} (hleast : -3 ≤ form.leastPosition)
    (hmost : form.mostPosition ≤ 16) : (x.text form).length ≤ 3 * Magnitude.digitRoom + 1 := by
  cases x with
  | nan => exact (by decide : "nan".length ≤ 3 * Magnitude.digitRoom + 1)
  | infinite negative =>
      have hword : ∀ b : Bool,
          (if b then "-inf" else "inf").length ≤ 3 * Magnitude.digitRoom + 1 := by decide
      exact hword negative
  | finite negative m =>
      have hlength := m.length_text_le hleast hmost
      simp only [text, String.length_ofList, List.length_append]
      split <;> simp <;> omega

/-! ## Values -/

namespace Value

lemma decimalLength_le_maxDigits {n : Nat} (h : n < digitBound) :
    decimalLength n ≤ maxDigits := by
  have hpos : 0 < maxDigits := by decide
  unfold digitBound at h
  generalize maxDigits = most at h hpos ⊢
  exact (decimalLength_le_iff hpos).2 h

lemma length_intText_le {i : Int} {s : String} (h : intText i = .ok s) :
    s.length ≤ maxDigits + 1 := by
  unfold intText integerText? at h
  by_cases hi : i.natAbs < digitBound
  · have hdigits := decimalLength_le_maxDigits hi
    rw [if_pos hi] at h
    cases h
    have hsign : (if i < 0 then "-" else "").length ≤ 1 := by split <;> decide
    rw [decimalLength] at hdigits
    simp only [String.length_append, digitText, String.length_ofList]
    omega
  · rw [if_neg hi] at h
    cases h

lemma length_complexText_le (re im : Binary64) :
    (complexText re im).length ≤ 6 * Magnitude.digitRoom + 10 := by
  have hre : (re.text .part).length ≤ 3 * Magnitude.digitRoom + 1 :=
    re.length_text_le (by decide) (by decide)
  have him : (im.text .part).length ≤ 3 * Magnitude.digitRoom + 1 :=
    im.length_text_le (by decide) (by decide)
  have hunit : "j".length = 1 ∧ "j)".length = 2 ∧ "(".length = 1 ∧ "+".length = 1 := by decide
  unfold complexText
  simp only
  split
  · rw [String.length_append]
    omega
  · split <;> simp only [String.length_append] <;> omega

/-- **What is written is the text itself, or it is short.** -/
theorem length_format_le {v : Value} {s : String} (h : v.format = .ok s) :
    v = .text s ∨ s.length ≤ maxRepetition := by
  have hroom : maxDigits + 1 ≤ maxRepetition ∧
      6 * Magnitude.digitRoom + 10 ≤ maxRepetition := by
    decide
  cases v with
  | absent =>
      cases h
      exact Or.inr (Nat.zero_le _)
  | bool b =>
      cases h
      exact Or.inr (by cases b <;> decide)
  | int i =>
      simp only [format] at h
      exact Or.inr ((length_intText_le h).trans hroom.1)
  | float x =>
      refine Or.inr ?_
      simp only [format] at h
      split at h
      · exact (length_intText_le h).trans hroom.1
      · cases h
        have hx : (x.text .number).length ≤ 3 * Magnitude.digitRoom + 1 :=
          x.length_text_le (by decide) (by decide)
        omega
  | complex re im =>
      cases h
      exact Or.inr ((length_complexText_le re im).trans hroom.2)
  | text t =>
      cases h
      exact Or.inl rfl

end Value

end Crosswalk
