import Crosswalk.Proofs.Formula.Order
import Crosswalk.Proofs.Number.Shortest

/-!
# The double nearest to a quotient of whole numbers

The quotient of two whole numbers becomes the double nearest to it.  This is monotone over the
signs and beyond the largest doubles, where the nearest double is an infinity; and a quotient that
is a double becomes that double.

* `Binary64.nearestTo` — **the double nearest to a quotient.**
* **`Binary64.exact_nearestTo_mono`** — a larger quotient has no smaller double.
* `Binary64.exact_nearestTo_of_isDouble` — a whole number that is a double stays what it is.
* `Binary64.isDouble_of_natAbs_le` — all whole numbers of up to 53 bits are doubles.
-/

namespace Crosswalk

namespace Binary64

/-- **The double nearest to the quotient of two whole numbers**; it is infinite beyond the largest
one. -/
def nearestTo (a : Int) (b : Nat) : Binary64 := ofRatio (decide (a < 0)) (a.natAbs * stepsPerOne) b

section Rounded

variable {num den num' den' : Nat}

/-- A count of steps, as a number. -/
lemma exact_finite (negative : Bool) (m : Magnitude) : (finite negative m).exact
    = (((if negative then -(m.steps : ℚ) else m.steps) / stepsPerOne : ℚ) : WithTop ℚ) := by
  cases negative with
  | false => simp only [exact, signed, Bool.false_eq_true, if_false, Int.cast_natCast]
  | true => simp only [exact, signed, if_true, Int.cast_neg, Int.cast_natCast]

lemma exact_ofRatio_false_nonneg : ((0 : ℚ) : WithTop ℚ) ≤ (ofRatio false num den).exact := by
  unfold ofRatio
  split
  · next m _ =>
      rw [exact_finite, WithBot.coe_le_coe, WithTop.coe_le_coe]
      exact div_nonneg (Nat.cast_nonneg _) stepsPerOne_cast_pos.le
  · exact le_top

lemma exact_ofRatio_true_nonpos : (ofRatio true num den).exact ≤ ((0 : ℚ) : WithTop ℚ) := by
  unfold ofRatio
  split
  · next m _ =>
      rw [exact_finite, WithBot.coe_le_coe, WithTop.coe_le_coe]
      exact div_nonpos_of_nonpos_of_nonneg
        (neg_nonpos.2 (Nat.cast_nonneg _)) stepsPerOne_cast_pos.le
  · exact bot_le

/-- A larger quotient has no smaller double, and the other way round with a minus. -/
lemma exact_ofRatio_mono (hden : 0 < den) (hden' : 0 < den') (h : num * den' ≤ num' * den) :
    (ofRatio false num den).exact ≤ (ofRatio false num' den').exact ∧
      (ofRatio true num' den').exact ≤ (ofRatio true num den).exact := by
  cases hnearest : Magnitude.nearest num' den' with
  | none =>
      have hinfinite (negative : Bool) : ofRatio negative num' den' = infinite negative := by
        unfold ofRatio
        rw [hnearest]
      rw [hinfinite, hinfinite]
      exact ⟨le_top, bot_le⟩
  | some m' =>
      obtain ⟨m, hm, hle⟩ := Magnitude.nearest_mono hden hden' h hnearest
      have hcast : (m.steps : ℚ) ≤ m'.steps := Nat.cast_le.2 hle
      rw [ofRatio_of_nearest hm, ofRatio_of_nearest hm, ofRatio_of_nearest hnearest,
        ofRatio_of_nearest hnearest]
      simp only [exact_finite, WithBot.coe_le_coe, WithTop.coe_le_coe, if_true, Bool.false_eq_true,
        if_false]
      exact ⟨div_le_div_of_nonneg_right hcast stepsPerOne_cast_pos.le,
        div_le_div_of_nonneg_right (neg_le_neg hcast) stepsPerOne_cast_pos.le⟩

end Rounded

/-- **A larger quotient has no smaller double.** -/
theorem exact_nearestTo_mono {a a' : Int} {b b' : Nat} (hb : 0 < b) (hb' : 0 < b')
    (h : a * b' ≤ a' * b) :
    (nearestTo a b).exact ≤ (nearestTo a' b').exact := by
  have hb0 : (0 : Int) < b := Int.natCast_pos.2 hb
  have hb0' : (0 : Int) < b' := Int.natCast_pos.2 hb'
  unfold nearestTo
  -- the sizes of the quotients are counted in steps on either side of zero
  have hsizes (hle : a.natAbs * b' ≤ a'.natAbs * b) :
      a.natAbs * stepsPerOne * b' ≤ a'.natAbs * stepsPerOne * b := by
    rw [Nat.mul_right_comm, Nat.mul_right_comm a'.natAbs]
    exact Nat.mul_le_mul_right _ hle
  have hsizes' (hle : a'.natAbs * b ≤ a.natAbs * b') :
      a'.natAbs * stepsPerOne * b ≤ a.natAbs * stepsPerOne * b' := by
    rw [Nat.mul_right_comm, Nat.mul_right_comm a.natAbs]
    exact Nat.mul_le_mul_right _ hle
  rcases lt_or_ge a 0 with ha | ha <;> rcases lt_or_ge a' 0 with ha' | ha'
  · rw [decide_eq_true ha, decide_eq_true ha']
    refine (exact_ofRatio_mono hb' hb (hsizes' ?_)).2
    zify
    rw [abs_of_neg ha, abs_of_neg ha']
    linarith
  · rw [decide_eq_true ha, decide_eq_false (Int.not_lt.2 ha')]
    exact exact_ofRatio_true_nonpos.trans exact_ofRatio_false_nonneg
  · have hneg : a' * b < 0 := Int.mul_neg_of_neg_of_pos ha' hb0
    have hpos : 0 ≤ a * b' := Int.mul_nonneg ha hb0'.le
    omega
  · rw [decide_eq_false (Int.not_lt.2 ha), decide_eq_false (Int.not_lt.2 ha')]
    refine (exact_ofRatio_mono hb hb' (hsizes ?_)).1
    zify
    rw [abs_of_nonneg ha, abs_of_nonneg ha']
    exact h

/-- Which doubles are whole numbers. -/
lemma exact_finite_eq_iff {negative : Bool} {m : Magnitude} {i : Int} :
    (finite negative m).exact = ((i : ℚ) : WithTop ℚ) ↔
      signed negative m = i * stepsPerOne := by
  have hsteps : (stepsPerOne : ℚ) ≠ 0 := stepsPerOne_cast_pos.ne'
  rw [exact, WithBot.coe_inj, WithTop.coe_inj]
  generalize stepsPerOne = s at hsteps ⊢
  rw [div_eq_iff hsteps]
  exact_mod_cast Iff.rfl

/-- The double with the size of a whole number and its sign. -/
lemma exact_of_steps {m : Magnitude} {i : Int} (h : m.steps = i.natAbs * stepsPerOne) :
    (finite (decide (i < 0)) m).exact = ((i : ℚ) : WithTop ℚ) := by
  rw [exact_finite_eq_iff, signed, h]
  generalize stepsPerOne = s
  rcases lt_or_ge i 0 with hi | hi
  · rw [if_pos (decide_eq_true hi), Int.natCast_mul, Int.ofNat_natAbs_of_nonpos hi.le]
    ring
  · rw [if_neg (by simpa using hi), Int.natCast_mul, Int.natAbs_of_nonneg hi]

/-- A whole number that is a double, without any rounding. -/
def IsDouble (i : Int) : Prop := ∃ x : Binary64, x.exact = ((i : ℚ) : WithTop ℚ)

/-- **A whole number that is a double stays what it is.** -/
lemma exact_nearestTo_of_isDouble {i : Int} (h : IsDouble i) :
    (nearestTo i 1).exact = ((i : ℚ) : WithTop ℚ) := by
  obtain ⟨x, h⟩ := h
  cases x with
  | nan => cases h
  | infinite negative => cases negative <;> cases h
  | finite negative m =>
      have hsteps : m.steps = i.natAbs * stepsPerOne := by
        have hsigned := congrArg Int.natAbs (exact_finite_eq_iff.1 h)
        rw [Int.natAbs_mul, Int.natAbs_natCast] at hsigned
        rw [← hsigned, signed]
        cases negative <;> simp
      have hnearest : Magnitude.nearest (i.natAbs * stepsPerOne) 1 = some m :=
        hsteps ▸ m.nearest_steps
      rw [nearestTo, ofRatio_of_nearest hnearest, exact_of_steps hsteps]

/-- **Every whole number of up to 53 bits is a double**, and so is the next one. -/
lemma isDouble_of_natAbs_le {i : Int} (h : i.natAbs ≤ 2 ^ 53) : IsDouble i := by
  have hrounded : Magnitude.rounded (i.natAbs * stepsPerOne) 1 = i.natAbs * stepsPerOne := by
    unfold stepsPerOne
    generalize 1074 = k
    rcases h.lt_or_eq with hlt | heq
    · exact Magnitude.rounded_of_lt k hlt
    · have hone := Magnitude.rounded_of_lt (53 + k) (by decide : 1 < 2 ^ 53)
      rwa [Nat.one_mul, Nat.pow_add, ← heq] at hone
  have hbound : i.natAbs * stepsPerOne < Magnitude.roundedBound := by
    have hexponents : 1074 < 2045 := by decide
    unfold stepsPerOne Magnitude.roundedBound
    generalize 1074 = k at hexponents ⊢
    generalize 2045 = most at hexponents ⊢
    exact Nat.mul_lt_mul_of_le_of_lt h (Nat.pow_lt_pow_right (by decide) hexponents) (by decide)
  obtain ⟨m, hm⟩ := Magnitude.exists_nearest Nat.one_pos (hrounded.trans_lt hbound)
  exact ⟨_, exact_of_steps ((Magnitude.steps_nearest hm).trans hrounded)⟩

end Binary64

end Crosswalk
