import Crosswalk.Formula.Arithmetic
import Crosswalk.Proofs.Number.Rounding
import Crosswalk.Proofs.Sequence

/-!
# Arithmetic of numbers

Two whole numbers are worked with as such; as soon as one of two numbers is a double, the other one
becomes a double as well, if there is one for it.  So the arithmetic of numbers fails only when a
whole number is beyond the doubles, or when it divides by zero.

* `Value.Paired` — **the kind of number that two operands come to**; `Value.pairUp_eq_ok` says
  that it is found.
* `Value.pairUp_of_numbers`, `Value.pairUp_outcome` — two numbers, neither of which is complex.
* `Value.add_of_numbers`, `Value.div_of_number`, `Value.compare?_of_alike` — **sums, means and
  orders.** -/

namespace Crosswalk

lemma Binary64.isZero_ofInt? {i : Int} {x : Binary64} (hi : i ≠ 0) (h : ofInt? i = some x) :
    x.isZero = false := by
  obtain ⟨m, hm, rfl⟩ := Option.map_eq_some_iff.1 h
  have hnum : i.natAbs * stepsPerOne ≠ 0 :=
    Nat.mul_ne_zero (Int.natAbs_ne_zero.2 hi) (Nat.pos_iff_ne_zero.1 stepsPerOne_pos)
  simpa [isZero] using Magnitude.significand_nearest hnum hm

namespace Value

/-! ## Two numbers of one kind

The doubles of whole numbers are counted in steps of `2 ^ -1074`, and a check by computation would
count them one by one; so the conversion is given another name before it is unfolded. -/

lemma toDouble_int (i : Int) :
    (int i).toDouble = (Binary64.ofInt? i).elim (.error .outOfRange) .ok := by
  obtain ⟨double, hdouble⟩ : ∃ double, double = toDouble := ⟨_, rfl⟩
  obtain ⟨ofInt, hofInt⟩ : ∃ ofInt, ofInt = Binary64.ofInt? := ⟨_, rfl⟩
  rw [← hdouble, ← hofInt]
  delta toDouble at hdouble
  rw [← hofInt] at hdouble
  rw [hdouble]
  cases h : ofInt i <;> simp only [h, Option.elim]

/-- A number has a double, or is out of range. -/
lemma toDouble_of_number {v : Value} (hv : v.isNumber) :
    (∃ x, v.toDouble = .ok x) ∨ v.toDouble = .error .outOfRange := by
  cases v with
  | int i =>
      rw [toDouble_int]
      cases Binary64.ofInt? i with
      | some x => exact Or.inl ⟨x, rfl⟩
      | none => exact Or.inr rfl
  | float x => exact Or.inl ⟨x, rfl⟩
  | _ => cases hv

/-- **The kind of number that two operands come to**: two whole numbers are taken as they are, a
complex number makes both of them complex, and otherwise both are doubles. -/
inductive Paired (l r : Value) : NumberPair → Prop where
  | ints {a b : Int} (hl : l.asInt? = some a) (hr : r.asInt? = some b) : Paired l r (.ints a b)
  | floats {x y : Binary64} (hl : l.toDouble = .ok x) (hr : r.toDouble = .ok y)
      (hnone : l.asInt? = none ∨ r.asInt? = none) : Paired l r (.floats x y)
  | complexes {xr xi yr yi : Binary64} (hl : l.toComplex = .ok (xr, xi))
      (hr : r.toComplex = .ok (yr, yi)) (hcomplex : l = complex xr xi ∨ r = complex yr yi) :
      Paired l r (.complexes xr xi yr yi)

section Pairs

variable {l r : Value}

/-- Only real numbers count as doubles. -/
lemma isReal_of_toDouble {v : Value} {x : Binary64} (h : v.toDouble = .ok x) : v.isReal = true := by
  cases v with
  | absent => cases h
  | text s => cases h
  | complex re im => cases h
  | _ => rfl

/-- Two real numbers that are not both whole are taken as doubles. -/
lemma pairUp_of_reals (hl : l.isReal = true) (hr : r.isReal = true)
    (hnone : l.asInt? = none ∨ r.asInt? = none) :
    pairUp l r = l.toDouble >>= fun x => r.toDouble >>= fun y => .ok (.floats x y) := by
  cases l <;> cases hl <;> cases r <;> cases hr <;> first
    | rfl
    | rcases hnone with hnone | hnone <;> cases hnone

/-- A complex number makes the other operand complex. -/
lemma pairUp_of_complex {p q : Binary64 × Binary64}
    (hcomplex : l = complex p.1 p.2 ∨ r = complex q.1 q.2) :
    pairUp l r = l.toComplex >>= fun p => r.toComplex >>= fun q =>
      .ok (.complexes p.1 p.2 q.1 q.2) := by
  rcases hcomplex with rfl | rfl
  · cases r <;> rfl
  · cases l <;> rfl

lemma pairUp_eq_ok {p : NumberPair} : pairUp l r = .ok p ↔ Paired l r p := by
  constructor
  · intro h
    unfold pairUp at h
    split at h
    · cases h
    · cases h
    · cases h
    · cases h
    · obtain ⟨⟨a, b⟩, hl, h⟩ := bind_eq_ok.1 h
      obtain ⟨⟨c, d⟩, hr, h⟩ := bind_eq_ok.1 h
      cases h
      cases hl
      exact .complexes rfl hr (.inl rfl)
    · obtain ⟨⟨a, b⟩, hl, h⟩ := bind_eq_ok.1 h
      obtain ⟨⟨c, d⟩, hr, h⟩ := bind_eq_ok.1 h
      cases h
      cases hr
      exact .complexes hl rfl (.inr rfl)
    · split at h
      · next hl hr =>
          cases h
          exact .ints hl hr
      · next hnone =>
          split at h
          · cases h
          · cases h
          · cases h
          · cases h
          · obtain ⟨x, hl, h⟩ := bind_eq_ok.1 h
            obtain ⟨y, hr, h⟩ := bind_eq_ok.1 h
            cases h
            refine .floats hl hr ?_
            cases ha : l.asInt? with
            | none => exact .inl rfl
            | some a => exact .inr (Option.eq_none_iff_forall_ne_some.2 fun b => hnone a b ha)
  · intro h
    cases h with
    | ints hl hr => cases l <;> cases hl <;> cases r <;> cases hr <;> rfl
    | floats hl hr hnone =>
        rw [pairUp_of_reals (isReal_of_toDouble hl) (isReal_of_toDouble hr) hnone, hl, hr]
        rfl
    | complexes hl hr hcomplex =>
        rw [pairUp_of_complex (p := (_, _)) (q := (_, _)) hcomplex, hl, hr]
        rfl

/-- Only values that count as whole numbers are taken as such. -/
lemma pairUp_of_pairUpReals {p : NumberPair} (h : pairUpReals l r = .ok p) :
    pairUp l r = .ok p := by
  unfold pairUpReals at h
  split at h
  · cases h
  · exact h

lemma asInt?_of_pairUp {a b : Int} (h : pairUp l r = .ok (.ints a b)) :
    l.asInt? = some a ∧ r.asInt? = some b := by
  cases pairUp_eq_ok.1 h with
  | ints hl hr => exact ⟨hl, hr⟩

/-- Two numbers are two whole numbers, or are taken as doubles. -/
lemma pairUp_of_numbers (hl : l.isNumber) (hr : r.isNumber) :
    (∃ a b, l = int a ∧ r = int b ∧ pairUp l r = .ok (.ints a b)) ∨
      pairUp l r = l.toDouble >>= fun x => r.toDouble >>= fun y => .ok (.floats x y) := by
  cases l with
  | int a =>
      cases r with
      | int b => exact Or.inl ⟨a, b, rfl, rfl, rfl⟩
      | float y => exact Or.inr (pairUp_of_reals rfl rfl (.inr rfl))
      | _ => cases hr
  | float x =>
      cases r with
      | int b => exact Or.inr (pairUp_of_reals rfl rfl (.inl rfl))
      | float y => exact Or.inr (pairUp_of_reals rfl rfl (.inl rfl))
      | _ => cases hr
  | _ => cases hl

end Pairs

/-- Two numbers are brought to one kind, or one of them is out of range. -/
lemma pairUp_outcome {l r : Value} (hl : l.isNumber) (hr : r.isNumber) :
    (∃ a b, l = int a ∧ r = int b ∧ pairUp l r = .ok (.ints a b)) ∨
      (∃ x y, r.toDouble = .ok y ∧ pairUp l r = .ok (.floats x y)) ∨
        pairUp l r = .error .outOfRange := by
  rcases pairUp_of_numbers hl hr with hints | hdoubles
  · exact Or.inl hints
  · refine Or.inr ?_
    rw [hdoubles]
    rcases toDouble_of_number hl with ⟨x, hx⟩ | hx
    · rcases toDouble_of_number hr with ⟨y, hy⟩ | hy
      · exact Or.inl ⟨x, y, hy, by rw [hx, hy]; rfl⟩
      · exact Or.inr (by rw [hx, hy]; rfl)
    · exact Or.inr (by rw [hx]; rfl)

/-! ## Sums, means and orders -/

/-- The sum of two numbers is a number, or out of range. -/
lemma add_of_numbers {l r : Value} (hl : l.isNumber) (hr : r.isNumber) :
    (∃ v, l.add r = .ok v ∧ v.isNumber) ∨ l.add r = .error .outOfRange := by
  unfold add
  split
  · cases hl
  · rcases pairUp_outcome hl hr with ⟨a, b, -, -, h⟩ | ⟨x, y, -, h⟩ | h
    · exact Or.inl ⟨int (a + b), by rw [h]; rfl, rfl⟩
    · exact Or.inl ⟨float (x.add y), by rw [h]; rfl, rfl⟩
    · exact Or.inr (by rw [h]; rfl)

/-- A number divided by a whole number other than zero is a double, or out of range. -/
lemma div_of_number {t : Value} {n : Int} (ht : t.isNumber) (hn : n ≠ 0) :
    (∃ x, t.div (.int n) = .ok (.float x)) ∨ t.div (.int n) = .error .outOfRange := by
  unfold div
  rcases pairUp_outcome (r := .int n) ht rfl with ⟨a, b, -, hb, h⟩ | ⟨x, y, hy, h⟩ | h
  · cases hb
    rw [h, ok_bind]
    simp only [intDiv, if_neg hn]
    split
    · exact Or.inl ⟨_, rfl⟩
    · exact Or.inr rfl
  · rw [toDouble_int] at hy
    cases hofInt : Binary64.ofInt? n with
    | none =>
        rw [hofInt] at hy
        cases hy
    | some z =>
        rw [hofInt] at hy
        cases hy
        rw [h, ok_bind]
        simp only [Binary64.isZero_ofInt? hn hofInt]
        exact Or.inl ⟨_, rfl⟩
  · exact Or.inr (by rw [h, error_bind])

/-- Two numbers, or two texts, can be compared. -/
lemma compare?_of_alike {l r : Value}
    (h : (l.isNumber ∧ r.isNumber) ∨ ∃ s t, l = text s ∧ r = text t) :
    ∃ o, l.compare? r = .ok o := by
  rcases h with ⟨hl, hr⟩ | ⟨s, t, rfl, rfl⟩
  · unfold compare?
    split
    · exact ⟨_, rfl⟩
    · have hreal : (l.isReal && r.isReal) = true := by
        cases l <;> cases r <;> simp_all [isNumber, isReal]
      exact ⟨_, by rw [if_pos hreal]⟩
  · exact ⟨_, rfl⟩

end Value

end Crosswalk
