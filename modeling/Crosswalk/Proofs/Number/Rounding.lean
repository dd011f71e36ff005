import Crosswalk.Number.Binary64
import Mathlib.Algebra.Order.Group.Nat
import Mathlib.Data.Nat.Log
import Mathlib.Tactic.Linarith
import Mathlib.Tactic.Ring

/-!
# Rounding to the nearest double

A double is the nearest one to an exact quotient, ties going to the even significand.  The rounding
is in two parts: the size of the quotient chooses a scale, and on the scale the quotient is rounded
to a whole number.  Neither part depends on how the quotient is written, each is monotone, and
where the scale changes the smaller quotients stay below the larger ones; so the whole rounding is
monotone, and it leaves a double where it is.

* `halfEven_bounds` — **what a whole number is rounded from**, and `halfEven_mono` from it.
* `Magnitude.rounded` — the steps that a quotient is rounded to, also beyond the largest double.
* `Magnitude.steps_nearest`, `Magnitude.exists_nearest` — the nearest magnitude has these steps,
  and it is there if they are not beyond the largest double.
* **`Magnitude.nearest_mono`** — a larger quotient has no smaller magnitude.
* **`Magnitude.nearest_congr`** — equal quotients have the same one.
* **`Magnitude.nearest_closest`** — no double is nearer to the quotient.
* **`Magnitude.nearest_steps`** — a double is the nearest to itself.
-/

namespace Crosswalk

/-! ## Rounding to a whole number -/

section HalfEven

variable {num den num' den' : Nat}

/-- **What is rounded to a whole number** is not further from it than a half, and a half away only
if the number is even. -/
lemma halfEven_bounds (num : Nat) (hden : 0 < den) :
    2 * (halfEven num den * den) ≤ 2 * num + den ∧
      2 * num ≤ 2 * (halfEven num den * den) + den ∧
      (2 * (halfEven num den * den) = 2 * num + den ∨
          2 * num = 2 * (halfEven num den * den) + den →
        halfEven num den % 2 = 0) := by
  have hsplit : num / den * den + num % den = num := by
    rw [Nat.mul_comm]
    exact Nat.div_add_mod num den
  have hrest := Nat.mod_lt num hden
  unfold halfEven
  simp only
  generalize num / den = q at hsplit ⊢
  generalize num % den = r at hsplit hrest ⊢
  split_ifs with hlow hhigh
  · omega
  · rw [Nat.add_mul, Nat.one_mul]
    omega
  · rcases Nat.mod_two_eq_zero_or_one q with heven | hodd
    · rw [heven, Nat.add_zero]
      omega
    · rw [hodd, Nat.add_mul, Nat.one_mul]
      omega

/-- **A larger quotient is rounded to no smaller number.** -/
lemma halfEven_mono (hden : 0 < den) (hden' : 0 < den') (h : num * den' ≤ num' * den) :
    halfEven num den ≤ halfEven num' den' := by
  obtain ⟨hlow, -, heven⟩ := halfEven_bounds num hden
  obtain ⟨-, hhigh, heven'⟩ := halfEven_bounds num' hden'
  generalize halfEven num den = n at hlow heven ⊢
  generalize halfEven num' den' = n' at hhigh heven' ⊢
  by_contra hlt
  have hlt : n' + 1 ≤ n := Nat.not_le.1 hlt
  -- both quotients are squeezed onto the middle between two neighbours, and both of these are even
  have hbelow := Nat.mul_le_mul_right den' hlow
  have habove := Nat.mul_le_mul_right den hhigh
  have hgap := Nat.mul_le_mul_right (den * den') hlt
  have hpos := Nat.mul_pos hden hden'
  have hn : 2 * (n * (den * den')) ≤ 2 * (num * den') + den * den' := by nlinarith
  have hn' : 2 * (num' * den) ≤ 2 * (n' * (den * den')) + den * den' := by nlinarith
  rw [Nat.add_mul, Nat.one_mul] at hgap
  have htie : 2 * (n * (den * den')) = 2 * (num * den') + den * den' := by omega
  have htie' : 2 * (num' * den) = 2 * (n' * (den * den')) + den * den' := by omega
  have hstep : n * (den * den') = (n' + 1) * (den * den') := by
    rw [Nat.add_mul, Nat.one_mul]
    omega
  have heq : n = n' + 1 := Nat.eq_of_mul_eq_mul_right hpos hstep
  have hcancel : 2 * (n * den) = 2 * num + den :=
    Nat.eq_of_mul_eq_mul_right hden' (by linarith)
  have hcancel' : 2 * num' = 2 * (n' * den') + den' :=
    Nat.eq_of_mul_eq_mul_right hden (by linarith)
  have h0 := heven (Or.inl hcancel)
  have h0' := heven' (Or.inr hcancel')
  omega

/-- A whole number is rounded to itself. -/
lemma halfEven_mul_self (n : Nat) (hden : 0 < den) : halfEven (n * den) den = n := by
  unfold halfEven
  simp [Nat.mul_div_cancel n hden, hden]

lemma le_halfEven_of_le {n : Nat} (hden : 0 < den) (h : n * den ≤ num) :
    n ≤ halfEven num den := by
  have hle := halfEven_mono hden hden (Nat.mul_le_mul_right den h)
  rwa [halfEven_mul_self n hden] at hle

/-- **No whole number is nearer** to the quotient. -/
lemma halfEven_closest (num n : Nat) (hden : 0 < den) :
    |(halfEven num den * den : Int) - num| ≤ |(n * den : Int) - num| := by
  obtain ⟨hlow, hhigh, -⟩ := halfEven_bounds num hden
  generalize halfEven num den = h at hlow hhigh ⊢
  zify at hlow hhigh hden
  rcases lt_trichotomy n h with hless | rfl | hmore
  · have hgap : ((n : Int) + 1) * den ≤ h * den :=
      Int.mul_le_mul_of_nonneg_right (by exact_mod_cast hless) hden.le
    rw [abs_le, abs_of_nonpos (by linarith)]
    constructor <;> linarith
  · exact le_refl _
  · have hgap : ((h : Int) + 1) * den ≤ n * den :=
      Int.mul_le_mul_of_nonneg_right (by exact_mod_cast hmore) hden.le
    rw [abs_le, abs_of_nonneg (by linarith)]
    constructor <;> linarith

lemma halfEven_le_of_le {n : Nat} (hden : 0 < den) (h : num ≤ n * den) :
    halfEven num den ≤ n := by
  have hle := halfEven_mono hden hden (Nat.mul_le_mul_right den h)
  rwa [halfEven_mul_self n hden] at hle

/-- Rounding goes up by less than one, -/
lemma halfEven_le (num : Nat) (hden : 0 < den) : halfEven num den ≤ num / den + 1 :=
  halfEven_le_of_le hden (Nat.lt_mul_of_div_lt (Nat.lt_succ_self _) hden).le

/-- and at most doubles what is rounded. -/
lemma halfEven_mul_le (num : Nat) (hden : 0 < den) : halfEven num den * den ≤ 2 * num := by
  obtain ⟨hlow, -, -⟩ := halfEven_bounds num hden
  rcases Nat.eq_zero_or_pos (halfEven num den) with hzero | hpos
  · rw [hzero, Nat.zero_mul]
    exact Nat.zero_le _
  · have hone : den ≤ halfEven num den * den := Nat.le_mul_of_pos_left den hpos
    omega

end HalfEven

/-! ## Rounding to a magnitude -/

namespace Magnitude

variable {num den num' den' : Nat} {m : Magnitude}

/-- The scale that leaves 53 bits of a quotient. -/
def scaleFor (num den : Nat) : Nat := (num / den).log2 + 1 - 53

/-- The significand that a quotient has on its scale; it may have been rounded up to one bit
more. -/
def significandFor (num den : Nat) : Nat := halfEven num (den * 2 ^ scaleFor num den)

/-- **The steps that a quotient is rounded to**, also beyond the largest double. -/
def rounded (num den : Nat) : Nat := significandFor num den * 2 ^ scaleFor num den

/-- The steps beyond the largest double. -/
def roundedBound : Nat := 2 ^ 53 * 2 ^ 2045

lemma steps_lt_roundedBound (m : Magnitude) : m.steps < roundedBound := by
  obtain ⟨hsignificand, hscale, -⟩ := m.canonical
  unfold steps roundedBound
  generalize 2045 = most at hscale ⊢
  exact Nat.mul_lt_mul_of_lt_of_le hsignificand (Nat.pow_le_pow_right Nat.two_pos hscale)
    (Nat.two_pow_pos _)

/-- The quotient fills the bits above its scale, unless the scale is the least. -/
lemma le_of_scaleFor (h : scaleFor num den ≠ 0) :
    2 ^ 52 * 2 ^ scaleFor num den ≤ num / den := by
  have hne : num / den ≠ 0 := by
    intro hzero
    rw [scaleFor, hzero] at h
    exact h rfl
  rw [← Nat.pow_add]
  refine (Nat.pow_le_pow_right Nat.two_pos ?_).trans (Nat.log2_self_le hne)
  rw [scaleFor] at h ⊢
  omega

lemma lt_of_scaleFor (num den : Nat) : num / den < 2 ^ 53 * 2 ^ scaleFor num den := by
  rw [← Nat.pow_add]
  refine Nat.lt_log2_self.trans_le (Nat.pow_le_pow_right Nat.two_pos ?_)
  rw [scaleFor]
  omega

lemma significandFor_le (num : Nat) (hden : 0 < den) : significandFor num den ≤ 2 ^ 53 := by
  refine halfEven_le_of_le (Nat.mul_pos hden (Nat.two_pow_pos _)) ?_
  have hlt := (Nat.div_lt_iff_lt_mul hden).1 (lt_of_scaleFor num den)
  rw [Nat.mul_comm den, ← Nat.mul_assoc]
  exact hlt.le

lemma le_significandFor (hden : 0 < den) (h : scaleFor num den ≠ 0) :
    2 ^ 52 ≤ significandFor num den := by
  refine le_halfEven_of_le (Nat.mul_pos hden (Nat.two_pow_pos _)) ?_
  have hle := (Nat.le_div_iff_mul_le hden).1 (le_of_scaleFor h)
  rwa [Nat.mul_comm den, ← Nat.mul_assoc]

lemma steps_ofParts? {significand scale : Nat} (h : ofParts? significand scale = some m) :
    m.steps = significand * 2 ^ scale := by
  unfold ofParts? at h
  split at h
  · cases h
    rfl
  · cases h

lemma nearest_eq (num den : Nat) : nearest num den
    = if significandFor num den = 2 ^ 53 then ofParts? (2 ^ 52) (scaleFor num den + 1)
      else ofParts? (significandFor num den) (scaleFor num den) := rfl

/-- **The nearest magnitude** has the steps that the quotient is rounded to. -/
lemma steps_nearest (h : nearest num den = some m) : m.steps = rounded num den := by
  rw [nearest_eq] at h
  rw [rounded]
  split at h
  · next hcarry => rw [steps_ofParts? h, hcarry, Nat.pow_succ]; ring
  · exact steps_ofParts? h

/-- There is one unless it would lie beyond the largest double. -/
lemma exists_nearest (hden : 0 < den) (h : rounded num den < roundedBound) :
    ∃ m, nearest num den = some m := by
  have hparts : ∀ {s e : Nat}, Canonical s e → ∃ m, ofParts? s e = some m :=
    fun hcanonical => ⟨_, dif_pos hcanonical⟩
  have hle := significandFor_le num hden
  have hge : scaleFor num den ≠ 0 → 2 ^ 52 ≤ significandFor num den := le_significandFor hden
  rw [nearest_eq]
  rw [rounded, roundedBound] at h
  generalize significandFor num den = s at hle hge h ⊢
  generalize scaleFor num den = e at hge h ⊢
  unfold Canonical at hparts
  generalize hmost : 2045 = most at h hparts
  split_ifs with hcarry
  · rw [hcarry] at h
    have hscale : e < most := (Nat.pow_lt_pow_iff_right (by decide)).1 (Nat.lt_of_mul_lt_mul_left h)
    exact hparts ⟨by decide, hscale, Or.inl (Nat.le_refl _)⟩
  · refine hparts ⟨lt_of_le_of_ne hle hcarry, ?_,
      (Nat.eq_zero_or_pos e).symm.imp_left fun hpos =>
      hge (Nat.pos_iff_ne_zero.1 hpos)⟩
    by_contra hlarge
    have hlarge : most + 1 ≤ e := Nat.not_le.1 hlarge
    refine absurd h (Nat.not_lt.2 ?_)
    calc 2 ^ 53 * 2 ^ most = 2 ^ 52 * 2 ^ (most + 1) := by rw [Nat.pow_succ 2 most]; ring
      _ ≤ s * 2 ^ e := Nat.mul_le_mul (hge (by omega)) (Nat.pow_le_pow_right Nat.two_pos hlarge)

/-- Numbers of 53 bits are not rounded, on whatever scale. -/
lemma rounded_of_lt {n : Nat} (k : Nat) (h : n < 2 ^ 53) : rounded (n * 2 ^ k) 1 = n * 2 ^ k := by
  have hscale : scaleFor (n * 2 ^ k) 1 ≤ k := by
    rw [scaleFor, Nat.div_one]
    rcases Nat.eq_zero_or_pos n with rfl | hpos
    · rw [Nat.zero_mul]
      exact Nat.zero_le k
    · have hne : n * 2 ^ k ≠ 0 := (Nat.mul_pos hpos (Nat.two_pow_pos k)).ne'
      have hlog : (n * 2 ^ k).log2 < 53 + k := by
        rw [Nat.log2_lt hne, Nat.pow_add]
        exact Nat.mul_lt_mul_of_pos_right h (Nat.two_pow_pos k)
      omega
  have hgrid : n * 2 ^ k = n * 2 ^ (k - scaleFor (n * 2 ^ k) 1) * 2 ^ scaleFor (n * 2 ^ k) 1 := by
    rw [Nat.mul_assoc, ← Nat.pow_add, Nat.sub_add_cancel hscale]
  rw [rounded, significandFor, Nat.one_mul]
  generalize scaleFor (n * 2 ^ k) 1 = scale at hgrid ⊢
  rw [hgrid, halfEven_mul_self _ (Nat.two_pow_pos scale)]

/-- **A larger quotient is rounded to no fewer steps.** -/
lemma rounded_mono (hden : 0 < den) (hden' : 0 < den') (h : num * den' ≤ num' * den) :
    rounded num den ≤ rounded num' den' := by
  have hquotient : num / den ≤ num' / den' := by
    rw [Nat.le_div_iff_mul_le hden']
    refine Nat.le_of_mul_le_mul_right ?_ hden
    calc num / den * den' * den = num / den * den * den' := by ring
      _ ≤ num * den' := Nat.mul_le_mul_right _ (Nat.div_mul_le_self num den)
      _ ≤ num' * den := h
  have hscale : scaleFor num den ≤ scaleFor num' den' := by
    have hlog : (num / den).log2 ≤ (num' / den').log2 := by
      rw [Nat.log2_eq_log_two, Nat.log2_eq_log_two]
      exact Nat.log_mono_right hquotient
    rw [scaleFor, scaleFor]
    omega
  rcases hscale.eq_or_lt with hsame | hlarger
  · -- on one scale, it is a rounding to whole numbers
    rw [rounded, rounded, significandFor, significandFor, hsame]
    refine Nat.mul_le_mul_right _ (halfEven_mono (Nat.mul_pos hden (Nat.two_pow_pos _))
      (Nat.mul_pos hden' (Nat.two_pow_pos _)) ?_)
    rw [← Nat.mul_assoc, ← Nat.mul_assoc]
    exact Nat.mul_le_mul_right _ h
  · -- what is rounded on a smaller scale stays below the larger one
    calc rounded num den ≤ 2 ^ 53 * 2 ^ scaleFor num den :=
          Nat.mul_le_mul_right _ (significandFor_le num hden)
      _ = 2 ^ 52 * 2 ^ (scaleFor num den + 1) := by rw [Nat.pow_succ 2 (scaleFor num den)]; ring
      _ ≤ 2 ^ 52 * 2 ^ scaleFor num' den' :=
          Nat.mul_le_mul_left _ (Nat.pow_le_pow_right Nat.two_pos hlarger)
      _ ≤ rounded num' den' := Nat.mul_le_mul_right _ (le_significandFor hden' (by omega))

/-- A whole number of steps above zero is not rounded to zero. -/
lemma significand_nearest (hnum : num ≠ 0) (h : nearest num 1 = some m) :
    m.significand ≠ 0 := by
  intro hzero
  have hone : rounded 1 1 = 1 := rounded_of_lt 0 (by decide : 1 < 2 ^ 53)
  have hle : 1 ≤ m.steps := by
    rw [steps_nearest h, ← hone]
    exact rounded_mono Nat.one_pos Nat.one_pos (by omega)
  rw [steps, hzero, Nat.zero_mul] at hle
  cases hle

/-- **A larger quotient has no smaller magnitude**, and if there is one for it, there is one for
the smaller quotient. -/
theorem nearest_mono (hden : 0 < den) (hden' : 0 < den') (h : num * den' ≤ num' * den)
    {m' : Magnitude} (hm' : nearest num' den' = some m') :
    ∃ m, nearest num den = some m ∧ m.steps ≤ m'.steps := by
  have hle := rounded_mono hden hden' h
  rw [← steps_nearest hm'] at hle
  obtain ⟨m, hm⟩ := exists_nearest hden (hle.trans_lt m'.steps_lt_roundedBound)
  exact ⟨m, hm, steps_nearest hm ▸ hle⟩

/-- **Equal quotients have the same nearest magnitude.** -/
theorem nearest_congr (hden : 0 < den) (hden' : 0 < den') (h : num * den' = num' * den) :
    nearest num den = nearest num' den' := by
  have hquotient : num / den = num' / den' := by
    rw [← Nat.mul_div_mul_right num den hden', h, Nat.mul_comm den,
      Nat.mul_div_mul_right num' den' hden]
  have hscale : scaleFor num den = scaleFor num' den' := by rw [scaleFor, scaleFor, hquotient]
  have hsignificand : significandFor num den = significandFor num' den' := by
    have hpos (d : Nat) (hd : 0 < d) : 0 < d * 2 ^ scaleFor num' den' :=
      Nat.mul_pos hd (Nat.two_pow_pos _)
    have hratio : num * (den' * 2 ^ scaleFor num' den')
        = num' * (den * 2 ^ scaleFor num' den') := by
      rw [← Nat.mul_assoc, ← Nat.mul_assoc, h]
    rw [significandFor, significandFor, hscale]
    exact Nat.le_antisymm (halfEven_mono (hpos _ hden) (hpos _ hden') hratio.le)
      (halfEven_mono (hpos _ hden') (hpos _ hden) hratio.ge)
  rw [nearest_eq, nearest_eq, hsignificand, hscale]

/-- **No double is nearer to the quotient** than the nearest one. -/
theorem nearest_closest (hden : 0 < den) (h : nearest num den = some m) (m' : Magnitude) :
    |(m.steps * den : Int) - num| ≤ |(m'.steps * den : Int) - num| := by
  -- on the scale of the quotient it is a rounding to whole numbers
  have hgrid : ∀ n : Nat, |(m.steps * den : Int) - num|
      ≤ |((n * 2 ^ scaleFor num den : Nat) * den : Int) - num| := by
    intro n
    have hpos : 0 < den * 2 ^ scaleFor num den := Nat.mul_pos hden (Nat.two_pow_pos _)
    have hclosest := halfEven_closest num n hpos
    have hmul (k : Nat) : ((k * 2 ^ scaleFor num den : Nat) * den : Int)
        = (k * (den * 2 ^ scaleFor num den : Nat) : Int) := by
      push_cast
      ring
    rwa [steps_nearest h, rounded, significandFor, hmul, hmul]
  rcases Nat.lt_or_ge m'.scale (scaleFor num den) with hfiner | hcoarser
  · -- a double on a finer scale is below all that the quotient can be
    have hbelow : m'.steps ≤ 2 ^ 52 * 2 ^ scaleFor num den :=
      calc m'.steps ≤ 2 ^ 53 * 2 ^ m'.scale := Nat.mul_le_mul_right _ m'.canonical.1.le
        _ = 2 ^ 52 * 2 ^ (m'.scale + 1) := by rw [Nat.pow_succ 2 m'.scale]; ring
        _ ≤ 2 ^ 52 * 2 ^ scaleFor num den :=
            Nat.mul_le_mul_left _ (Nat.pow_le_pow_right Nat.two_pos hfiner)
    have hscale : scaleFor num den ≠ 0 := Nat.ne_of_gt (Nat.zero_lt_of_lt hfiner)
    have hquotient := (Nat.le_div_iff_mul_le hden).1 (le_of_scaleFor hscale)
    have hbelow' := Nat.mul_le_mul_right den hbelow
    refine (hgrid (2 ^ 52)).trans ?_
    generalize 2 ^ 52 * 2 ^ scaleFor num den = least at hquotient hbelow'
    zify at hquotient hbelow'
    rw [abs_of_nonpos (by linarith), abs_of_nonpos (by linarith)]
    linarith
  · have hmultiple : m'.steps
        = m'.significand * 2 ^ (m'.scale - scaleFor num den) * 2 ^ scaleFor num den := by
      rw [Nat.mul_assoc, ← Nat.pow_add, Nat.sub_add_cancel hcoarser]
      rfl
    rw [hmultiple]
    exact hgrid _

/-- **A double is the nearest one to itself.** -/
theorem nearest_steps (m : Magnitude) : nearest m.steps 1 = some m := by
  obtain ⟨hsignificand, hscale, hnormal⟩ := m.canonical
  have hfor : scaleFor m.steps 1 = m.scale := by
    rw [scaleFor, Nat.div_one, steps]
    rcases hnormal with hnormal | hleast
    · have hne : m.significand * 2 ^ m.scale ≠ 0 :=
        Nat.mul_ne_zero (Nat.ne_of_gt (hnormal.trans_lt' (by decide))) (Nat.two_pow_pos _).ne'
      have hlog : (m.significand * 2 ^ m.scale).log2 = 52 + m.scale := by
        rw [Nat.log2_eq_iff hne, Nat.add_right_comm, Nat.pow_add, Nat.pow_add]
        exact ⟨Nat.mul_le_mul_right _ hnormal,
          Nat.mul_lt_mul_of_pos_right hsignificand (Nat.two_pow_pos _)⟩
      show (m.significand * 2 ^ m.scale).log2 + 1 - 53 = m.scale
      omega
    · rw [hleast]
      rcases Nat.eq_zero_or_pos m.significand with hzero | hpos
      · rw [hzero]
        rfl
      · have hlog : m.significand.log2 < 53 := (Nat.log2_lt hpos.ne').2 hsignificand
        show (m.significand * 1).log2 + 1 - 53 = 0
        rw [Nat.mul_one]
        omega
  have hsame : significandFor m.steps 1 = m.significand := by
    rw [significandFor, hfor, Nat.one_mul]
    exact halfEven_mul_self _ (Nat.two_pow_pos _)
  have hcarry : ¬ m.significand = 2 ^ 53 := Nat.ne_of_lt hsignificand
  rw [nearest_eq, hsame, hfor, if_neg hcarry]
  exact dif_pos m.canonical

end Magnitude

end Crosswalk
