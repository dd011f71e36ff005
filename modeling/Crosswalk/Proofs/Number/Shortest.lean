import Crosswalk.Proofs.Formula.TextLengths
import Crosswalk.Proofs.Number.Rounding

/-!
# The shortest decimal form reads back

A decimal number is read as the double nearest to it, whichever way its power of ten is split
between the digits and the exponent.  The shortest form of a double is tried before it is taken;
where nothing short reads back there is the exact expansion, which lies within the bounds of what
is read at all.

* `Binary64.ofDecimal_eq` — what a decimal number is read as, in one formula.
* `Binary64.ofDecimal_scale` — **zeros at the end of the digits count as a power of ten.**
* **`Magnitude.ofDecimal_shortest`** — the shortest form of a double is read as this double.
-/

namespace Crosswalk

/-! ## Decimal digits -/

lemma lt_decimalLength_iff {n k : Nat} (hk : 0 < k) : k < decimalLength n ↔ 10 ^ k ≤ n := by
  rw [← Nat.not_le, decimalLength_le_iff hk, Nat.not_lt]

/-- A zero at the end is one more digit. -/
lemma decimalLength_mul_ten_pow {n : Nat} (hn : n ≠ 0) (k : Nat) :
    decimalLength (n * 10 ^ k) = decimalLength n + k := by
  induction k with
  | zero => simp
  | succ k ih =>
      have hpos : 0 < n * 10 ^ k := Nat.mul_pos (Nat.pos_of_ne_zero hn) (Nat.pow_pos (by decide))
      have hlarge : 10 ≤ n * 10 ^ k * 10 := by omega
      rw [Nat.pow_succ, ← Nat.mul_assoc, decimalLength,
        Nat.toDigits_of_base_le (by decide) hlarge, Nat.mul_div_cancel _ (by decide),
        List.length_append, List.length_singleton, ← Nat.add_assoc, ← ih, decimalLength]

/-! ## Reading a decimal number -/

namespace Binary64

variable {negative : Bool}

/-- Equal quotients are rounded to the same double. -/
lemma ofRatio_congr {num den num' den' : Nat} (hden : 0 < den) (hden' : 0 < den')
    (h : num * den' = num' * den) : ofRatio negative num den = ofRatio negative num' den' := by
  have hnearest := Magnitude.nearest_congr hden hden' h
  unfold ofRatio
  rw [hnearest]

lemma ofRatio_of_nearest {num den : Nat} {m : Magnitude} (h : Magnitude.nearest num den = some m) :
    ofRatio negative num den = finite negative m := by
  unfold ofRatio
  rw [h]

/-- **What a decimal number is read as**: its exponent is a factor or a divisor, and the other of
the two is one. -/
lemma ofDecimal_eq (d : Decimal) : ofDecimal negative d =
    if d.digits = 0 then zero negative
    else if 310 < d.exponent + decimalLength d.digits then infinite negative
    else if d.exponent + decimalLength d.digits < -330 then zero negative
    else ofRatio negative (d.digits * 10 ^ d.exponent.toNat * stepsPerOne)
      (10 ^ (-d.exponent).toNat) := by
  unfold ofDecimal
  simp only
  by_cases h : 0 ≤ d.exponent
  · have hdivisor : (-d.exponent).toNat = 0 := by omega
    rw [if_pos h, hdivisor, Nat.pow_zero]
    rfl
  · have hfactor : d.exponent.toNat = 0 := by omega
    rw [if_neg h, hfactor, Nat.pow_zero, Nat.mul_one]
    rfl

/-- A fraction of a power of ten, between the bounds, is read as the magnitude nearest to it. -/
lemma ofDecimal_of_nearest {digits places : Nat} {m : Magnitude} (hne : digits ≠ 0)
    (hleast : places ≤ decimalLength digits + 330) (hmost : decimalLength digits ≤ places + 310)
    (hnearest : Magnitude.nearest (digits * stepsPerOne) (10 ^ places) = some m) :
    ofDecimal negative ⟨digits, -places⟩ = finite negative m := by
  have hfactor : (-(places : Int)).toNat = 0 := by omega
  have hdivisor : (-(-(places : Int))).toNat = places := by omega
  have hnotmost : ¬ 310 < -(places : Int) + decimalLength digits := by omega
  have hnotleast : ¬ -(places : Int) + decimalLength digits < -330 := by omega
  rw [ofDecimal_eq]
  simp only [if_neg hne, if_neg hnotmost, if_neg hnotleast, hfactor, hdivisor, Nat.pow_zero,
    Nat.mul_one]
  exact ofRatio_of_nearest hnearest

/-- **Zeros at the end of the digits count as a power of ten.** -/
lemma ofDecimal_scale (n k : Nat) (e : Int) :
    ofDecimal negative ⟨n * 10 ^ k, e⟩ = ofDecimal negative ⟨n, e + k⟩ := by
  rw [ofDecimal_eq, ofDecimal_eq]
  by_cases hn : n = 0
  · simp [hn]
  · have hk : n * 10 ^ k ≠ 0 := Nat.mul_ne_zero hn (Nat.pow_pos (by decide)).ne'
    have htop : e + ((decimalLength n + k : Nat) : Int) = e + k + decimalLength n := by omega
    have hratio : ofRatio negative (n * 10 ^ k * 10 ^ e.toNat * stepsPerOne) (10 ^ (-e).toNat)
        = ofRatio negative (n * 10 ^ (e + k).toNat * stepsPerOne) (10 ^ (-(e + k)).toNat) := by
      have hpowers : k + e.toNat + (-(e + k)).toNat = (e + k).toNat + (-e).toNat := by omega
      refine ofRatio_congr (Nat.pow_pos (by decide)) (Nat.pow_pos (by decide)) ?_
      generalize stepsPerOne = s
      calc n * 10 ^ k * 10 ^ e.toNat * s * 10 ^ (-(e + k)).toNat
          = n * s * 10 ^ (k + e.toNat + (-(e + k)).toNat) := by rw [Nat.pow_add, Nat.pow_add]; ring
        _ = n * 10 ^ (e + k).toNat * s * 10 ^ (-e).toNat := by rw [hpowers, Nat.pow_add]; ring
    simp only [if_neg hn, if_neg hk, decimalLength_mul_ten_pow hn, htop, hratio]

/-- The sign of a decimal number is that of the double. -/
lemma ofDecimal_negative {d : Decimal} {m : Magnitude} (h : ofDecimal false d = finite false m) :
    ofDecimal negative d = finite negative m := by
  have hratio : ∀ num den, ofRatio false num den = finite false m →
      ofRatio negative num den = finite negative m := by
    intro num den h
    unfold ofRatio at h ⊢
    cases hnearest : Magnitude.nearest num den with
    | none => rw [hnearest] at h; cases h
    | some m' => rw [hnearest] at h; cases h; rfl
  rw [ofDecimal_eq] at h ⊢
  split_ifs at h ⊢
  · cases h
    rfl
  · cases h
    rfl
  · exact hratio _ _ h

end Binary64

/-! ## The shortest form -/

namespace Magnitude

variable {m : Magnitude}

lemma steps_pos (h : m.significand ≠ 0) : 0 < m.steps :=
  Nat.mul_pos (Nat.pos_of_ne_zero h) (Nat.two_pow_pos _)

/-- The exact expansion is within the bounds of what is read. -/
lemma expansion_bounds (h : m.significand ≠ 0) :
    743 < decimalLength (m.steps * Nat.pow 5 1074) ∧
      decimalLength (m.steps * Nat.pow 5 1074) ≤ 1384 := by
  have hlow : 10 ^ 743 ≤ Nat.pow 5 1074 := by decide +kernel
  have hhigh : 2 ^ 2098 * Nat.pow 5 1074 ≤ 10 ^ 1384 := by decide +kernel
  have hpos : 0 < Nat.pow 5 1074 := by decide +kernel
  have hsteps := steps_pos h
  have hlt := m.steps_lt
  rw [lt_decimalLength_iff (by decide), decimalLength_le_iff (by decide)]
  generalize Nat.pow 5 1074 = scale at hlow hhigh hpos ⊢
  generalize 2098 = bits at hlt hhigh
  generalize 743 = least at hlow ⊢
  generalize 1384 = most at hhigh ⊢
  exact ⟨hlow.trans (Nat.le_mul_of_pos_left scale hsteps),
    (Nat.mul_lt_mul_of_pos_right hlt hpos).trans_le hhigh⟩

/-- The exact expansion is read as the double. -/
lemma ofDecimal_expansion (h : m.significand ≠ 0) :
    Binary64.ofDecimal false ⟨m.steps * Nat.pow 5 1074, -1074⟩ = .finite false m := by
  obtain ⟨hlow, hhigh⟩ := expansion_bounds h
  have hpowers : Nat.pow 5 1074 * stepsPerOne = 10 ^ 1074 := by
    unfold stepsPerOne
    generalize 1074 = places
    exact (Nat.mul_pow 5 2 places).symm
  have hnearest : nearest (m.steps * Nat.pow 5 1074 * stepsPerOne) (10 ^ 1074) = some m := by
    rw [← nearest_steps m, Nat.mul_assoc, hpowers]
    generalize 1074 = places
    exact nearest_congr (Nat.pow_pos (by decide)) Nat.one_pos (Nat.mul_one _)
  have hexponent : -((1074 : Nat) : Int) = -1074 := rfl
  have hne : m.steps * Nat.pow 5 1074 ≠ 0 := by
    intro hzero
    rw [hzero] at hlow
    exact absurd hlow (by decide)
  generalize m.steps * Nat.pow 5 1074 = digits at hlow hhigh hnearest hne ⊢
  have hleast : 1074 ≤ decimalLength digits + 330 := by omega
  have hmost : decimalLength digits ≤ 1074 + 310 := by omega
  rw [← hexponent]
  exact Binary64.ofDecimal_of_nearest hne hleast hmost hnearest

/-- **The shortest form of a double is read as this double.** -/
theorem ofDecimal_shortest (h : m.significand ≠ 0) :
    Binary64.ofDecimal false m.shortest = .finite false m := by
  obtain ⟨short, hshort⟩ : ∃ short, short = shortest := ⟨_, rfl⟩
  obtain ⟨decimal, hdecimal⟩ : ∃ decimal, decimal = decimalOfLength := ⟨_, rfl⟩
  have hfound : ∀ count d, decimal m count = some d →
      Binary64.ofDecimal false d = .finite false m := by
    obtain ⟨grid, hgrid⟩ : ∃ grid, grid = onGrid := ⟨_, rfl⟩
    intro count d hd
    delta decimalOfLength at hdecimal
    rw [← hgrid] at hdecimal
    rw [hdecimal] at hd
    simp only at hd
    have htried := List.find?_some hd
    exact eq_of_beq htried
  have hexpansion := ofDecimal_expansion h
  rw [← hshort]
  delta shortest at hshort
  rw [← hdecimal] at hshort
  simp only [hshort]
  cases hsome : (List.range 17).findSome? fun k => decimal m (k + 1) with
  | some d =>
      obtain ⟨k, -, hd⟩ := List.exists_of_findSome?_eq_some hsome
      exact hfound (k + 1) d hd
  | none => exact hexpansion

end Magnitude

end Crosswalk
