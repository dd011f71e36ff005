import Crosswalk.Proofs.Formula.Sizes

/-!
# What the size checks let through

The size checks estimate a product by the bits of its factors together, and a power by the bits of
its base times the exponent.  No product and no power has more bits than its estimate, so what is
let through keeps to the limits, and it is the product or the power of the operands.  The estimates
are too large, though: by one bit for a product, by up to one bit for each factor of a power, and
for a product with zero by all of their bits.  So some products and powers are refused that do keep
to the limits.

* `Value.Product`, `Value.Power` — what a product and a power are; `Value.mul_eq_ok` and
  `Value.pow_eq_ok` say that these are computed.
* **`Value.checked_sound`** — what is let through is exact and keeps to the limits.
* `Value.bitLength_add_le_mul`, `Value.bitLength_mul_lt_pow` — how far the estimates are off.
* **`Value.checked_refuses`** — when a check refuses, and how far below the limits that can be.
-/

namespace Crosswalk.Value

variable {l r v : Value} {a b i j : Int} {k n : Nat}

/-! ## Products and powers -/

/-- **The product of two values.**  A text and a whole number give the text that many times, and an
empty one if the number is not positive. -/
inductive Product : Value → Value → Value → Prop where
  | whole {l r : Value} {a b : Int} (h : Paired l r (.ints a b)) : Product l r (int (a * b))
  | doubles {l r : Value} {x y : Binary64} (h : Paired l r (.floats x y)) :
      Product l r (float (x.mul y))
  | complexes {l r : Value} {a b c d : Binary64} (h : Paired l r (.complexes a b c d)) :
      Product l r (complex (complexMul a b c d).1 (complexMul a b c d).2)
  | repeated {s : String} {r : Value} {n : Int} (hr : r.asInt? = some n) (hn : isCount n) :
      Product (text s) r (text (String.join (List.replicate n.toNat s)))
  | repeatedBy {l : Value} {s : String} {n : Int} (hl : l.asInt? = some n) (hn : isCount n) :
      Product l (text s) (text (String.join (List.replicate n.toNat s)))

/-- **The power of two values.**  A whole number has whole powers as long as the exponent is not
negative; otherwise both of them are taken as doubles. -/
inductive Power (l r : Value) : Value → Prop where
  | whole {a : Int} {n : Nat} (h : Paired l r (.ints a n)) : Power l r (int (a ^ n))
  | inverse {a b : Int} {x y : Binary64} {v : Value} (h : Paired l r (.ints a b)) (hb : b < 0)
      (hx : (int a).toDouble = .ok x) (hy : (int b).toDouble = .ok y) (hv : floatPow x y = .ok v) :
      Power l r v
  | doubles {x y : Binary64} {v : Value} (h : Paired l r (.floats x y))
      (hv : floatPow x y = .ok v) : Power l r v
  | complexes {a b c d : Binary64} {v : Value} (h : Paired l r (.complexes a b c d))
      (hv : complexPow a b c d = .ok v) : Power l r v

lemma repeatText_eq_ok {s t : String} {n : Int} :
    repeatText s n = .ok t ↔ isCount n ∧ t = String.join (List.replicate n.toNat s) := by
  have hjoin : (if s.isEmpty then "" else String.join (List.replicate n.toNat s)) =
      String.join (List.replicate n.toNat s) := by
    split
    · next hs =>
        rw [String.isEmpty_iff.1 hs]
        induction n.toNat with
        | zero => rfl
        | succ k ih =>
            rw [List.replicate_succ, String.join_cons, ← ih]
            rfl
    · rfl
  unfold repeatText
  rw [hjoin]
  cases isCount n with
  | false => simp
  | true => simp [eq_comm]

/-- Texts are no numbers. -/
lemma Paired.ne_text {p : NumberPair} (h : Paired l r p) (s : String) :
    l ≠ text s ∧ r ≠ text s := by
  constructor
  · rintro rfl
    cases h with
    | ints hl hr => cases hl
    | floats hl hr hnone => cases hl
    | complexes hl hr hcomplex => cases hl
  · rintro rfl
    cases h with
    | ints hl hr => cases hr
    | floats hl hr hnone => cases hr
    | complexes hl hr hcomplex => cases hr

lemma mul_of_paired {p : NumberPair} : Paired l r p → l.mul r = match p with
    | .ints a b => .ok (int (a * b))
    | .floats x y => .ok (float (x.mul y))
    | .complexes a b c d => .ok (complex (complexMul a b c d).1 (complexMul a b c d).2) := by
  intro h
  unfold mul
  split
  · exact absurd rfl (h.ne_text _).1
  · exact absurd rfl (h.ne_text _).2
  · refine (congrArg (· >>= _) (pairUp_eq_ok.2 h)).trans ?_
    cases h <;> rfl

lemma mul_text {s : String} (hl : l.asInt? = some i) :
    (text s).mul l = (repeatText s i).map text ∧ l.mul (text s) = (repeatText s i).map text := by
  cases l <;> cases hl <;> exact ⟨rfl, rfl⟩

lemma mul_eq_ok : l.mul r = .ok v ↔ Product l r v := by
  constructor
  · intro h
    unfold mul at h
    split at h
    · split at h
      · next hn =>
          obtain ⟨t, ht, rfl⟩ := map_eq_ok.1 h
          obtain ⟨hcount, rfl⟩ := repeatText_eq_ok.1 ht
          exact .repeated hn hcount
      · cases h
    · split at h
      · next hn =>
          obtain ⟨t, ht, rfl⟩ := map_eq_ok.1 h
          obtain ⟨hcount, rfl⟩ := repeatText_eq_ok.1 ht
          exact .repeatedBy hn hcount
      · cases h
    · obtain ⟨pair, hpair, h⟩ := bind_eq_ok.1 h
      have hpaired := pairUp_eq_ok.1 hpair
      split at h
      · cases h
        exact .whole hpaired
      · cases h
        exact .doubles hpaired
      · cases h
        exact .complexes hpaired
  · intro h
    cases h with
    | whole h => exact mul_of_paired h
    | doubles h => exact mul_of_paired h
    | complexes h => exact mul_of_paired h
    | repeated hr hn =>
        rw [(mul_text hr).1, repeatText_eq_ok.2 ⟨hn, rfl⟩]
        rfl
    | repeatedBy hl hn =>
        rw [(mul_text hl).2, repeatText_eq_ok.2 ⟨hn, rfl⟩]
        rfl

lemma pow_eq_ok : l.pow r = .ok v ↔ Power l r v := by
  constructor
  · intro h
    obtain ⟨pair, hpair, h⟩ := bind_eq_ok.1 h
    have hpaired := pairUp_eq_ok.1 hpair
    split at h
    · split at h
      · next hb =>
          cases h
          obtain ⟨n, rfl⟩ := Int.eq_ofNat_of_zero_le hb
          rw [Int.toNat_natCast, intPow_eq]
          exact .whole hpaired
      · next hb =>
          obtain ⟨x, hx, h⟩ := bind_eq_ok.1 h
          obtain ⟨y, hy, h⟩ := bind_eq_ok.1 h
          exact .inverse hpaired (Int.not_le.1 hb) hx hy h
    · exact .doubles hpaired h
    · exact .complexes hpaired h
  · intro h
    unfold pow
    cases h with
    | whole h =>
        rw [pairUp_eq_ok.2 h, ok_bind]
        simp only [Int.natCast_nonneg, if_true, Int.toNat_natCast, intPow_eq]
    | inverse h hb hx hy hv =>
        rw [pairUp_eq_ok.2 h, ok_bind]
        simp only [Int.not_le.2 hb, if_false, hx, hy, ok_bind, hv]
    | doubles h hv =>
        rw [pairUp_eq_ok.2 h, ok_bind]
        exact hv
    | complexes h hv =>
        rw [pairUp_eq_ok.2 h, ok_bind]
        exact hv

/-- **The size checks are sound.**  What they let through is the one product, or the one power, of
the operands, and it has at most `maxBits` bits or `maxRepetition` characters. -/
theorem checked_sound (l r v : Value) :
    (l.boundedMul r = .ok v → (∀ w, Product l r w ↔ w = v) ∧ v.Bounded) ∧
      (l.boundedPow r = .ok v → (∀ w, Power l r w ↔ w = v) ∧ v.Bounded) := by
  refine ⟨fun h => ⟨fun w => ?_, boundedMul_bounded h⟩,
    fun h => ⟨fun w => ?_, boundedPow_bounded h⟩⟩
  · rw [← mul_eq_ok, (mul_of_boundedMul h).1, Except.ok.injEq, eq_comm]
  · rw [← pow_eq_ok, (pow_of_boundedPow h).1, Except.ok.injEq, eq_comm]

/-- A negative number of repetitions leaves nothing, and zero to the power zero is one. -/
theorem checked_sound_none :
    (int (-3)).boundedMul (text "ab") = .ok (text "") ∧
      (∀ w, Product (int (-3)) (text "ab") w ↔ w = text "") ∧
      (int 0).boundedPow (int 0) = .ok (int 1) ∧
      ∀ w, Power (int 0) (int 0) w ↔ w = int 1 := by
  have hproduct : (int (-3)).boundedMul (text "ab") = .ok (text "") := by decide
  have hpower : (int 0).boundedPow (int 0) = .ok (int 1) := by decide
  exact ⟨hproduct, ((checked_sound _ _ _).1 hproduct).1, hpower,
    ((checked_sound _ _ _).2 hpower).1⟩

/-! ## How far the estimates are off -/

lemma lt_bitLength_iff : k < bitLength i ↔ 2 ^ k ≤ i.natAbs := by
  rw [← Nat.not_le, bitLength_le_iff, Nat.not_lt]

lemma bitLength_two_pow (k : Nat) : bitLength (2 ^ k) = k + 1 := by
  have habs : ((2 : Int) ^ k).natAbs = 2 ^ k := Int.natAbs_pow 2 k
  apply Nat.le_antisymm
  · rw [bitLength_le_iff, habs]
    exact Nat.pow_lt_pow_right (by decide) (Nat.lt_succ_self k)
  · rw [Nat.succ_le_iff, lt_bitLength_iff, habs]

lemma bitLength_pos (hi : i ≠ 0) : 0 < bitLength i := by
  rw [lt_bitLength_iff]
  exact Int.natAbs_pos.2 hi

/-- A product has at most one bit less than its factors together, unless one of them is zero. -/
lemma bitLength_add_le_mul (hi : i ≠ 0) (hj : j ≠ 0) :
    bitLength i + bitLength j ≤ bitLength (i * j) + 1 := by
  have hipos := bitLength_pos hi
  have hjpos := bitLength_pos hj
  have hileast : 2 ^ (bitLength i - 1) ≤ i.natAbs := lt_bitLength_iff.1 (by omega)
  have hjleast : 2 ^ (bitLength j - 1) ≤ j.natAbs := lt_bitLength_iff.1 (by omega)
  have hbits : bitLength i - 1 + (bitLength j - 1) < bitLength (i * j) := by
    rw [lt_bitLength_iff, Nat.pow_add, Int.natAbs_mul]
    exact Nat.mul_le_mul hileast hjleast
  omega

/-- A power has at least as many bits as its factors when each of them is counted with one bit
less, and so more than half of the bits of its factors. -/
lemma bitLength_mul_lt_pow (hi : 1 < i.natAbs) (n : Nat) :
    bitLength i * n < bitLength (i ^ n) + n ∧ bitLength i * n < 2 * bitLength (i ^ n) - 1 := by
  obtain ⟨k, hk⟩ : ∃ k, bitLength i = k + 2 :=
    Nat.exists_eq_add_of_le' (lt_bitLength_iff.2 hi)
  have hbits : (k + 1) * n < bitLength (i ^ n) := by
    rw [lt_bitLength_iff, Nat.pow_mul, Int.natAbs_pow]
    exact Nat.pow_le_pow_left (lt_bitLength_iff.1 (by omega)) n
  rw [Nat.succ_mul] at hbits
  rw [hk, Nat.add_mul]
  constructor <;> omega

/-! ## Refusals -/

/-- The checked product of two whole numbers. -/
lemma boundedMul_of_ints (hl : l.asInt? = some a) (hr : r.asInt? = some b) :
    l.boundedMul r =
      if maxBits < bitLength a + bitLength b then .error .productTooLarge
      else .ok (int (a * b)) := by
  have hrepeats : ∀ {v w : Value} {i : Int}, v.asInt? = some i →
      repeatsTooMuch v w = false := by
    intro v w i hv
    cases v <;> cases hv <;> rfl
  unfold boundedMul
  rw [hrepeats hl, hrepeats hr, hl, hr, mul_eq_ok.2 (.whole (.ints hl hr))]
  rfl

/-- The checked power of two whole numbers, unless the exponent is negative. -/
lemma boundedPow_of_ints (hl : l.asInt? = some a) (hr : r.asInt? = some (n : Int)) :
    l.boundedPow r =
      if 1 < a.natAbs ∧ maxBits < bitLength a * n then .error .powerTooLarge
      else .ok (int (a ^ n)) := by
  have hcheck : (0 < (n : Int) ∧ 1 < a.natAbs ∧ (maxBits : Int) < bitLength a * n) ↔
      1 < a.natAbs ∧ maxBits < bitLength a * n := by
    rw [← Nat.cast_mul, Nat.cast_lt]
    constructor
    · exact And.right
    · rintro ⟨hbase, hbits⟩
      refine ⟨Int.natCast_pos.2 (Nat.pos_of_ne_zero ?_), hbase, hbits⟩
      rintro rfl
      exact absurd hbits (Nat.not_lt_zero _)
  unfold boundedPow
  simp only [hl, hr, hcheck, pow_eq_ok.2 (.whole (.ints hl hr))]

/-- **What the size checks refuse.**  A product is refused by the bits of its factors together, and
a power by the bits of its base times the exponent.  Everything beyond `maxBits` is refused.  What
is refused is a product with zero or has at least `maxBits` bits, or it is a power with more than
half of them, that falls short of them by less than its exponent. -/
theorem checked_refuses (hl : l.asInt? = some a) (hr : r.asInt? = some b) :
    (l.boundedMul r =
        (if maxBits < bitLength a + bitLength b then .error .productTooLarge
          else .ok (int (a * b))) ∧
      (maxBits < bitLength (a * b) → l.boundedMul r = .error .productTooLarge) ∧
      (l.boundedMul r = .error .productTooLarge →
        a * b = 0 ∨ maxBits ≤ bitLength (a * b))) ∧
    ∀ n : Nat, b = n →
      l.boundedPow r =
        (if 1 < a.natAbs ∧ maxBits < bitLength a * n then .error .powerTooLarge
          else .ok (int (a ^ n))) ∧
      (maxBits < bitLength (a ^ n) → l.boundedPow r = .error .powerTooLarge) ∧
      (l.boundedPow r = .error .powerTooLarge →
        maxBits + 2 ≤ bitLength (a ^ n) + n ∧ maxBits + 2 < 2 * bitLength (a ^ n)) := by
  refine ⟨⟨boundedMul_of_ints hl hr, fun hbits => ?_, fun hrefused => ?_⟩, ?_⟩
  · rw [boundedMul_of_ints hl hr, if_pos (hbits.trans_le (bitLength_mul_le a b))]
  · rw [boundedMul_of_ints hl hr] at hrefused
    split at hrefused
    · next hbits =>
        by_cases hzero : a * b = 0
        · exact .inl hzero
        · have hleast :=
            bitLength_add_le_mul (left_ne_zero_of_mul hzero) (right_ne_zero_of_mul hzero)
          exact .inr (by omega)
    · cases hrefused
  · rintro n rfl
    refine ⟨boundedPow_of_ints hl hr, fun hbits => ?_, fun hrefused => ?_⟩
    · rw [boundedPow_of_ints hl hr]
      split
      · rfl
      · next hsmall =>
          have hpow : l.boundedPow r = .ok (int (a ^ n)) := by
            rw [boundedPow_of_ints hl hr, if_neg hsmall]
          exact absurd hbits (Nat.not_lt.2 ((boundedPow_bounded hpow).bits _ rfl))
    · rw [boundedPow_of_ints hl hr] at hrefused
      split at hrefused
      · next hlarge =>
          have hleast := bitLength_mul_lt_pow hlarge.1 n
          omega
      · cases hrefused

/-- Twice a number of sixteen bits is computed, and a power of two with this exponent is refused. -/
theorem checked_refuses_two :
    (int 2).asInt? = some 2 ∧ (int 50001).asInt? = some 50001 ∧
      (int 2).boundedMul (int 50001) = .ok (int (2 * 50001)) ∧
      (int 2).boundedPow (int 50001) = .error .powerTooLarge ∧
      maxBits + 2 ≤ bitLength (2 ^ 50001) + 50001 := by
  obtain ⟨⟨hproduct, -, -⟩, hpowers⟩ :=
    checked_refuses (l := int 2) (r := int 50001) rfl rfl
  obtain ⟨hpower, -, hleast⟩ := hpowers 50001 rfl
  rw [if_neg (by decide)] at hproduct
  rw [if_pos (by decide)] at hpower
  exact ⟨rfl, rfl, hproduct, hpower, (hleast hpower).1⟩

/-- A power of two with half of the bits that are allowed is refused, because its base counts with
two bits for each factor.  So is a product that is zero, and a product that has just the bits that
are allowed. -/
theorem refused_within_limits :
    (int 2).boundedPow (int 50001) = .error .powerTooLarge ∧ bitLength (2 ^ 50001) = 50002 ∧
      (int 0).boundedMul (int (2 ^ 100000)) = .error .productTooLarge ∧ bitLength 0 = 0 ∧
      (int (2 ^ 50000)).boundedMul (int (2 ^ 49999)) = .error .productTooLarge ∧
      bitLength (2 ^ 50000 * 2 ^ 49999) = maxBits := by
  refine ⟨?_, bitLength_two_pow 50001, ?_, rfl, ?_, ?_⟩
  · rw [boundedPow_of_ints (n := 50001) rfl rfl]
    exact if_pos (by decide)
  · rw [boundedMul_of_ints rfl rfl, bitLength_two_pow]
    exact if_pos (by decide)
  · rw [boundedMul_of_ints rfl rfl, bitLength_two_pow, bitLength_two_pow]
    exact if_pos (by decide)
  · rw [← pow_add, bitLength_two_pow]
    rfl

end Crosswalk.Value
