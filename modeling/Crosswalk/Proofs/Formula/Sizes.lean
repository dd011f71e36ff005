import Crosswalk.Formula.Functions
import Crosswalk.Proofs.Formula.Arithmetic
import Crosswalk.Proofs.Formula.TextLengths

/-!
# How large the values of operators are

Products and powers are refused before they get too large.  The other operators have no check, and
most of them need none: a sum has one bit more than its operands, two joined texts have their
characters together, and what is left of a division is no larger than one of its numbers.  So the
allowance of a value grows with the number of nodes that it was computed by, by one bit and by a
fixed number of characters for each.

* `Value.Fits` — **the allowance**: bits of a whole number, characters of a text.
* `Value.add_fits` … `Value.numberMod_fits` — the operators that need no check.
* `Value.Bounded` — the limits of the size checks.
* **`Value.boundedMul_bounded`, `Value.boundedPow_bounded`** — the operators that have one keep
  to them. -/

namespace Crosswalk

namespace Value

/-! ## Bits -/

lemma bitLength_le_iff {i : Int} {k : Nat} : bitLength i ≤ k ↔ i.natAbs < 2 ^ k := by
  unfold bitLength
  split
  · next h => simp [h]
  · next h => exact Nat.log2_lt (Int.natAbs_ne_zero.2 h)

lemma bitLength_mono {i j : Int} (h : i.natAbs ≤ j.natAbs) : bitLength i ≤ bitLength j :=
  bitLength_le_iff.2 (h.trans_lt (bitLength_le_iff.1 (Nat.le_refl _)))

lemma bitLength_neg (i : Int) : bitLength (-i) = bitLength i := by
  simp [bitLength]

lemma bitLength_of_le_double {i j : Int} {k : Nat} (hj : bitLength j ≤ k)
    (h : i.natAbs ≤ 2 * j.natAbs) : bitLength i ≤ k + 1 := by
  rw [bitLength_le_iff] at hj ⊢
  rw [Nat.pow_succ]
  omega

lemma bitLength_add_le {i j : Int} {k : Nat} (hi : bitLength i ≤ k) (hj : bitLength j ≤ k) :
    bitLength (i + j) ≤ k + 1 := by
  have hsum := Int.natAbs_add_le i j
  rw [bitLength_le_iff] at hi hj ⊢
  rw [Nat.pow_succ]
  omega

lemma bitLength_mul_le (i j : Int) : bitLength (i * j) ≤ bitLength i + bitLength j := by
  rw [bitLength_le_iff, Int.natAbs_mul, Nat.pow_add]
  exact Nat.mul_lt_mul'' (bitLength_le_iff.1 (Nat.le_refl _)) (bitLength_le_iff.1 (Nat.le_refl _))

lemma natAbs_fmod_le {a b : Int} (hb : b ≠ 0) : (a.fmod b).natAbs ≤ b.natAbs := by
  have hleast := Int.emod_nonneg a hb
  have hmost := Int.emod_lt a hb
  rw [Int.fmod_eq_emod]
  split
  · omega
  · next h => omega

lemma intPow_eq (i : Int) (n : Nat) : intPow i n = i ^ n := by
  unfold intPow
  split
  · next hn => rw [hn, pow_zero]
  · next hn =>
      split
      · next hsmall =>
          have hcases : i = 0 ∨ i = 1 ∨ i = -1 := by omega
          rcases hcases with rfl | rfl | rfl
          · simp [hn]
          · simp
          · rcases Nat.even_or_odd n with heven | hodd
            · simp [heven.neg_one_pow, Nat.even_iff.1 heven]
            · simp [hodd.neg_one_pow, Nat.odd_iff.1 hodd]
      · next hlarge =>
          have hsize : ((Nat.pow i.natAbs n : Nat) : Int) = |i| ^ n := by
            rw [show Nat.pow i.natAbs n = i.natAbs ^ n from rfl, Nat.cast_pow, Int.natCast_natAbs]
          simp only [hsize]
          by_cases hneg : i < 0
          · rw [abs_of_neg hneg]
            rcases Nat.even_or_odd n with heven | hodd
            · simp [heven.neg_pow, Nat.even_iff.1 heven]
            · simp [hneg, hodd.neg_pow, Nat.odd_iff.1 hodd]
          · simp [hneg, abs_of_nonneg (Int.not_lt.1 hneg)]

lemma natAbs_intPow (i : Int) (n : Nat) : (intPow i n).natAbs = i.natAbs ^ n := by
  rw [intPow_eq, Int.natAbs_pow]

/-- A power of anything but 0, 1 and -1 has at most the bits of its base times the exponent. -/
lemma bitLength_intPow_le {i : Int} {n k : Nat} (hk : 0 < k)
    (hsize : 0 < n → 1 < i.natAbs → bitLength i * n ≤ k) : bitLength (intPow i n) ≤ k := by
  rw [bitLength_le_iff, natAbs_intPow]
  by_cases hlarge : 0 < n ∧ 1 < i.natAbs
  · calc i.natAbs ^ n < (2 ^ bitLength i) ^ n :=
        Nat.pow_lt_pow_left (bitLength_le_iff.1 (Nat.le_refl _)) hlarge.1.ne'
      _ = 2 ^ (bitLength i * n) := (Nat.pow_mul _ _ _).symm
      _ ≤ 2 ^ k := Nat.pow_le_pow_right (by decide) (hsize hlarge.1 hlarge.2)
  · have hone : i.natAbs ^ n ≤ 1 := by
      rcases Nat.eq_zero_or_pos n with rfl | hn
      · simp
      · exact Nat.pow_le_one_iff hn.ne' |>.2 (by omega)
    exact hone.trans_lt (Nat.one_lt_two_pow hk.ne')

/-- **The allowance of a value** that was computed by `n` nodes, when `chars` characters are
allowed for each: a whole number has at most one bit beyond the size checks for each of them. -/
structure Fits (chars n : Nat) (v : Value) : Prop where
  bits : ∀ i, v.asInt? = some i → bitLength i ≤ maxBits + n
  length : ∀ s, v = .text s → s.length ≤ chars * n

section Allowance

variable {chars m n : Nat} {l r v : Value}

lemma Fits.mono (h : v.Fits chars m) (hmn : m ≤ n) : v.Fits chars n where
  bits i hi := (h.bits i hi).trans (Nat.add_le_add_left hmn _)
  length s hs := (h.length s hs).trans (Nat.mul_le_mul_left _ hmn)

lemma fits_int {i : Int} : (int i).Fits chars n ↔ bitLength i ≤ maxBits + n := by
  refine ⟨fun h => h.bits i rfl, fun h => ⟨fun j hj => ?_, fun s hs => ?_⟩⟩
  · cases hj
    exact h
  · cases hs

lemma fits_text {s : String} : (text s).Fits chars n ↔ s.length ≤ chars * n := by
  refine ⟨fun h => h.length s rfl, fun h => ⟨fun i hi => ?_, fun t ht => ?_⟩⟩
  · cases hi
  · cases ht
    exact h

@[simp] lemma fits_float {x : Binary64} : (float x).Fits chars n :=
  ⟨nofun, nofun⟩

@[simp] lemma fits_complex {re im : Binary64} : (complex re im).Fits chars n :=
  ⟨nofun, nofun⟩

@[simp] lemma fits_absent : absent.Fits chars n :=
  ⟨nofun, nofun⟩

@[simp] lemma fits_bool {b : Bool} : (bool b).Fits chars n := by
  refine ⟨fun i hi => ?_, nofun⟩
  cases hi
  have hbit : bitLength (ofBit b) ≤ maxBits := by cases b <;> decide
  exact hbit.trans (Nat.le_add_right _ _)

/-! ## Signs -/

lemma affirm_fits (hv : v.Fits chars n) {w : Value} (h : v.affirm = .ok w) : w.Fits chars n := by
  unfold affirm at h
  split at h
  · cases h
    exact fits_float
  · cases h
    exact fits_complex
  · split at h
    · next i hi =>
        cases h
        exact fits_int.2 (hv.bits i hi)
    · cases h

lemma negate_fits (hv : v.Fits chars n) {w : Value} (h : v.negate = .ok w) : w.Fits chars n := by
  unfold negate at h
  split at h
  · cases h
    exact fits_float
  · cases h
    exact fits_complex
  · split at h
    · next i hi =>
        cases h
        rw [fits_int, bitLength_neg]
        exact hv.bits i hi
    · cases h

/-! ## Arithmetic -/

/-- A sum, and so a difference, has one bit more than its operands. -/
lemma sum_fits {i j : Int} (hi : bitLength i ≤ maxBits + m) (hj : bitLength j ≤ maxBits + n) :
    (int (i + j)).Fits chars (m + n + 1) := by
  have hsum : bitLength (i + j) ≤ maxBits + (m + n) + 1 :=
    bitLength_add_le (by omega) (by omega)
  exact fits_int.2 hsum

lemma add_fits (hl : l.Fits chars m) (hr : r.Fits chars n) (h : l.add r = .ok v) :
    v.Fits chars (m + n + 1) := by
  unfold add at h
  split at h
  · next s t =>
      cases h
      have hs := hl.length s rfl
      have ht := hr.length t rfl
      rw [fits_text, String.length_append, Nat.mul_add, Nat.mul_add]
      omega
  · obtain ⟨pair, hpair, h⟩ := bind_eq_ok.1 h
    split at h
    · next a b =>
        obtain ⟨ha, hb⟩ := asInt?_of_pairUp hpair
        cases h
        exact sum_fits (hl.bits a ha) (hr.bits b hb)
    · cases h
      exact fits_float
    · cases h
      exact fits_complex

lemma sub_fits (hl : l.Fits chars m) (hr : r.Fits chars n) (h : l.sub r = .ok v) :
    v.Fits chars (m + n + 1) := by
  obtain ⟨pair, hpair, h⟩ := bind_eq_ok.1 h
  split at h
  · next a b =>
      obtain ⟨ha, hb⟩ := asInt?_of_pairUp hpair
      have hneg := hr.bits b hb
      rw [← bitLength_neg] at hneg
      cases h
      exact sum_fits (hl.bits a ha) hneg
  · cases h
    exact fits_float
  · cases h
    exact fits_complex

lemma div_fits (h : l.div r = .ok v) : v.Fits chars n := by
  obtain ⟨pair, -, h⟩ := bind_eq_ok.1 h
  split at h
  · unfold intDiv at h
    split at h
    · cases h
    · simp only at h
      split at h
      · cases h
        exact fits_float
      · cases h
  · split at h
    · cases h
    · cases h
      exact fits_float
  · obtain ⟨_, -, h⟩ := bind_eq_ok.1 h
    cases h
    exact fits_complex

lemma floorDiv_fits (hl : l.Fits chars m) (h : l.floorDiv r = .ok v) : v.Fits chars m := by
  obtain ⟨pair, hpair, h⟩ := bind_eq_ok.1 h
  split at h
  · next a b =>
      split at h
      · cases h
      · cases h
        have ha := hl.bits a (asInt?_of_pairUp (pairUp_of_pairUpReals hpair)).1
        exact fits_int.2 ((bitLength_mono (Int.natAbs_fdiv_le_natAbs a b)).trans ha)
  · split at h
    · cases h
    · cases h
      exact fits_float
  · cases h

lemma numberMod_fits (hr : r.Fits chars n) (h : l.numberMod r = .ok v) : v.Fits chars n := by
  obtain ⟨pair, hpair, h⟩ := bind_eq_ok.1 h
  split at h
  · next a b =>
      split at h
      · cases h
      · next hne =>
          cases h
          have hb := hr.bits b (asInt?_of_pairUp (pairUp_of_pairUpReals hpair)).2
          exact fits_int.2 ((bitLength_mono (natAbs_fmod_le hne)).trans hb)
  · split at h
    · cases h
    · cases h
      exact fits_float
  · cases h

/-! ## Checked products and powers -/

lemma length_repeatText_le {s t : String} {count : Int} (h : repeatText s count = .ok t) :
    (t.length : Int) ≤ max 0 (s.length * count) := by
  unfold repeatText at h
  split at h
  · cases h
  · cases h
    split
    · exact Int.le_max_left _ _
    · rw [String.length_join, List.map_replicate, List.sum_replicate_nat, Nat.cast_mul,
        Int.toNat_eq_max]
      rcases Int.le_total 0 count with hcount | hcount
      · rw [Int.max_eq_left hcount, Int.mul_comm]
        exact Int.le_max_right _ _
      · rw [Int.max_eq_right hcount, Int.zero_mul]
        exact Int.le_max_left _ _

/-- **The limits of the size checks**: no more bits, and no more characters. -/
structure Bounded (v : Value) : Prop where
  bits : ∀ i, v.asInt? = some i → bitLength i ≤ maxBits
  length : ∀ s, v = text s → s.length ≤ maxRepetition

lemma bounded_int {i : Int} (h : bitLength i ≤ maxBits) : (int i).Bounded := by
  refine ⟨fun j hj => ?_, nofun⟩
  cases hj
  exact h

lemma bounded_text {s : String} (h : s.length ≤ maxRepetition) : (text s).Bounded := by
  refine ⟨nofun, fun t ht => ?_⟩
  cases ht
  exact h

/-- What needs no allowance keeps to the limits. -/
lemma Fits.bounded (h : v.Fits 0 0) : v.Bounded where
  bits := h.bits
  length s hs := (h.length s hs).trans (Nat.zero_le _)

lemma Bounded.fits (h : v.Bounded) (hchars : maxRepetition ≤ chars) : v.Fits chars (n + 1) where
  bits i hi := (h.bits i hi).trans (Nat.le_add_right _ _)
  length s hs := (h.length s hs).trans (hchars.trans (Nat.le_mul_of_pos_right _ (Nat.succ_pos _)))

/-- A text may be repeated if that is not too much. -/
lemma repeated_bounded {s : String} (hrepeats : repeatsTooMuch (text s) r = false)
    (h : (match r.asInt? with
      | some n => (repeatText s n).map text
      | none => .error .wrongType) = .ok v) : v.Bounded := by
  unfold repeatsTooMuch at hrepeats
  cases hr : r.asInt? with
  | none =>
      rw [hr] at h
      cases h
  | some count =>
      simp only [hr] at h hrepeats
      cases ht : repeatText s count with
      | error fault =>
          rw [ht] at h
          cases h
      | ok t =>
          rw [ht] at h
          cases h
          have hlength := length_repeatText_le ht
          have hmost : (s.length : Int) * count ≤ maxRepetition := by simpa using hrepeats
          exact bounded_text (by omega)

/-- **A product that is not refused** is the product without the check, of small factors. -/
lemma mul_of_boundedMul (h : l.boundedMul r = .ok v) :
    l.mul r = .ok v ∧ repeatsTooMuch l r = false ∧ repeatsTooMuch r l = false ∧
      ∀ a b, l.asInt? = some a → r.asInt? = some b →
        bitLength a + bitLength b ≤ maxBits := by
  unfold boundedMul at h
  split at h
  · cases h
  · next hrepeats =>
      simp only [Bool.or_eq_true, not_or, Bool.not_eq_true] at hrepeats
      split at h
      · next a b ha hb =>
          split at h
          · cases h
          · next hbits =>
              refine ⟨h, hrepeats.1, hrepeats.2, fun a' b' ha' hb' => ?_⟩
              obtain rfl := Option.some.inj (ha.symm.trans ha')
              obtain rfl := Option.some.inj (hb.symm.trans hb')
              exact Nat.not_lt.1 hbits
      · next hnone =>
          exact ⟨h, hrepeats.1, hrepeats.2, fun a b ha hb => absurd hb (hnone a b ha)⟩

/-- **The checked product keeps to the limits**: what would be too large is refused. -/
lemma boundedMul_bounded (h : l.boundedMul r = .ok v) : v.Bounded := by
  obtain ⟨h, hleft, hright, hbits⟩ := mul_of_boundedMul h
  unfold mul at h
  split at h
  · exact repeated_bounded hleft h
  · exact repeated_bounded hright h
  · obtain ⟨pair, hpair, h⟩ := bind_eq_ok.1 h
    split at h
    · next a b =>
        obtain ⟨ha, hb⟩ := asInt?_of_pairUp hpair
        cases h
        exact bounded_int ((bitLength_mul_le a b).trans (hbits a b ha hb))
    · cases h
      exact fits_float.bounded
    · cases h
      exact fits_complex.bounded

/-- Powers of doubles and of complex numbers have no size. -/
lemma complexPow_fits {a b c d : Binary64} (h : complexPow a b c d = .ok v) : v.Fits chars n := by
  have hend : ∀ power : Outcome (Binary64 × Binary64),
      (power >>= fun p => if p.1.isInfinite || p.2.isInfinite then .error .outOfRange
        else .ok (complex p.1 p.2)) = .ok v → v.Fits chars n := by
    intro power hpower
    obtain ⟨p, -, hp⟩ := bind_eq_ok.1 hpower
    split at hp
    · cases hp
    · cases hp
      exact fits_complex
  unfold complexPow at h
  simp only at h
  repeat' split at h
  all_goals exact hend _ h

lemma ite_fits {c : Prop} [Decidable c] {x y : Outcome Value}
    (hx : x = .ok v → v.Fits chars n) (hy : y = .ok v → v.Fits chars n)
    (h : (if c then x else y) = .ok v) : v.Fits chars n := by
  split at h
  · exact hx h
  · exact hy h

lemma floatPow_fits {x y : Binary64} : floatPow x y = .ok v → v.Fits chars n := by
  have hfloat : ∀ z, Except.ok (float z) = (.ok v : Outcome Value) → v.Fits chars n := by
    rintro z ⟨⟩
    exact fits_float
  have herror : ∀ fault, Except.error fault = (.ok v : Outcome Value) → v.Fits chars n := by
    rintro fault ⟨⟩
  unfold floatPow
  simp only
  -- `complexPow` is a nest of branches itself, so its own lemma has to come before the split.
  repeat' first
    | exact hfloat _
    | exact herror _
    | exact complexPow_fits
    | apply ite_fits

/-- **A power that is not refused** is the power without the check, of a small base or exponent. -/
lemma pow_of_boundedPow (h : l.boundedPow r = .ok v) :
    l.pow r = .ok v ∧ ∀ a b, l.asInt? = some a → r.asInt? = some b →
      ¬ (0 < b ∧ 1 < a.natAbs ∧ (maxBits : Int) < bitLength a * b) := by
  unfold boundedPow at h
  split at h
  · next a b ha hb =>
      split at h
      · cases h
      · next hbits =>
          refine ⟨h, fun a' b' ha' hb' => ?_⟩
          obtain rfl := Option.some.inj (ha.symm.trans ha')
          obtain rfl := Option.some.inj (hb.symm.trans hb')
          exact hbits
  · next hnone => exact ⟨h, fun a b ha hb => absurd hb (hnone a b ha)⟩

/-- **The checked power keeps to the limits**: what would be too large is refused. -/
lemma boundedPow_bounded (h : l.boundedPow r = .ok v) : v.Bounded := by
  obtain ⟨h, hbits⟩ := pow_of_boundedPow h
  obtain ⟨pair, hpair, h⟩ := bind_eq_ok.1 h
  split at h
  · next a b =>
      obtain ⟨ha, hb⟩ := asInt?_of_pairUp hpair
      split at h
      · next hsign =>
          cases h
          have hsize : 0 < b.toNat → 1 < a.natAbs → bitLength a * b.toNat ≤ maxBits := by
            intro hpos hlarge
            have hmost : ¬ (maxBits : Int) < bitLength a * b :=
              fun hmore => hbits a b ha hb ⟨by omega, hlarge, hmore⟩
            have hcast : ((bitLength a * b.toNat : Nat) : Int) = bitLength a * b := by
              rw [Nat.cast_mul, Int.toNat_of_nonneg hsign]
            omega
          exact bounded_int (bitLength_intPow_le (by decide) hsize)
      · obtain ⟨x, -, h⟩ := bind_eq_ok.1 h
        obtain ⟨y, -, h⟩ := bind_eq_ok.1 h
        exact (floatPow_fits h).bounded
  · exact (floatPow_fits h).bounded
  · exact (complexPow_fits h).bounded

end Allowance
end Value
end Crosswalk
