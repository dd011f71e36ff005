import Crosswalk.Formula.Arithmetic
import Crosswalk.Proofs.Formula.Fields
import Mathlib.Algebra.Order.Field.Basic
import Mathlib.Algebra.Order.Field.Rat
import Mathlib.Data.String.Basic
import Mathlib.Data.Sum.Order
import Mathlib.Order.Compare
import Mathlib.Order.WithBot

/-!
# The order of values

Whole numbers have any size and doubles have infinities, and a whole number is compared with a
double as it is, without becoming one.  That this mixed comparison is an order at all is seen from
the exact values: every number has one among the rational numbers and the two infinities, and two
numbers are compared as their exact values are.

* `Binary64.exact`, `Value.exact` — **the exact value of a number.**
* `Value.key` — what a number or a text is ordered by.
* `Value.compare?_key` — **values of one kind are compared by their keys.**
* `Value.exists_of_ofField` — what a field is read as.
-/

namespace Crosswalk

/-! ## Exact values -/

lemma stepsPerOne_cast_pos : (0 : ℚ) < stepsPerOne := Nat.cast_pos.2 stepsPerOne_pos

namespace Binary64

/-- **The exact value of a double**: a rational number or an infinity.  It means nothing for the
undefined number, which no field is read as. -/
def exact : Binary64 → WithBot (WithTop ℚ)
  | nan => ⊥
  | infinite negative => if negative then ⊥ else ⊤
  | finite negative m => ((signed negative m / stepsPerOne : ℚ) : WithTop ℚ)

/-- Counts of steps are compared as the numbers that they come to. -/
lemma compares_steps (a b : Int) :
    (compare a b).Compares (((a / stepsPerOne : ℚ) : WithTop ℚ) : WithBot (WithTop ℚ))
      (((b / stepsPerOne : ℚ) : WithTop ℚ) : WithBot (WithTop ℚ)) := by
  have hsteps := stepsPerOne_cast_pos
  generalize (stepsPerOne : ℚ) = s at hsteps ⊢
  have h : (compare a b).Compares a b := (compare_iff a b).1 rfl
  revert h
  cases compare a b with
  | lt => simp [Ordering.Compares, div_lt_div_iff_of_pos_right hsteps]
  | eq => simp +contextual [Ordering.Compares]
  | gt => simp [Ordering.Compares, div_lt_div_iff_of_pos_right hsteps]

lemma rat_lt_top (q : ℚ) : ((q : WithTop ℚ) : WithBot (WithTop ℚ)) < ⊤ :=
  WithBot.coe_lt_coe.2 (WithTop.coe_lt_top q)

/-- Doubles are compared as their exact values. -/
lemma compare?_exact {x y : Binary64} (hx : x ≠ nan) (hy : y ≠ nan) :
    ∃ o, compare? x y = some o ∧ o.Compares x.exact y.exact := by
  cases x with
  | nan => exact absurd rfl hx
  | infinite a =>
      cases y with
      | nan => exact absurd rfl hy
      | infinite b => cases a <;> cases b <;> exact ⟨_, rfl, by simp [Ordering.Compares, exact]⟩
      | finite b n =>
          cases a with
          | false => exact ⟨.gt, rfl, rat_lt_top _⟩
          | true => exact ⟨.lt, rfl, WithBot.bot_lt_coe _⟩
  | finite a m =>
      cases y with
      | nan => exact absurd rfl hy
      | infinite b =>
          cases b with
          | false => exact ⟨.lt, rfl, rat_lt_top _⟩
          | true => exact ⟨.gt, rfl, WithBot.bot_lt_coe _⟩
      | finite b n => exact ⟨_, rfl, compares_steps _ _⟩

/-- A double and a whole number are compared as their exact values. -/
lemma compareInt?_exact {x : Binary64} (hx : x ≠ nan) (i : Int) :
    ∃ o, compareInt? x i = some o ∧ o.Compares x.exact ((i : ℚ) : WithTop ℚ) := by
  cases x with
  | nan => exact absurd rfl hx
  | infinite a =>
      cases a with
      | false => exact ⟨.gt, rfl, rat_lt_top _⟩
      | true => exact ⟨.lt, rfl, WithBot.bot_lt_coe _⟩
  | finite a m =>
      refine ⟨_, rfl, ?_⟩
      have hsteps : (stepsPerOne : ℚ) ≠ 0 := stepsPerOne_cast_pos.ne'
      have h := compares_steps (signed a m) (i * stepsPerOne)
      rwa [Int.cast_mul, Int.cast_natCast, mul_div_cancel_right₀ _ hsteps] at h

end Binary64

/-- **What a number or a text is ordered by**: its exact value, or itself, character by character.
Where values are compared, all of them are of one kind. -/
abbrev OrderKey : Type := WithBot (WithTop ℚ) ⊕ₗ String

namespace Value

/-- **The exact value of a number.** -/
def exact : Value → WithBot (WithTop ℚ)
  | int i => ((i : ℚ) : WithTop ℚ)
  | float x => x.exact
  | _ => ⊥

/-- What a value is ordered by. -/
def key : Value → OrderKey
  | text s => toLex (.inr s)
  | v => toLex (.inl v.exact)

/-- A number, but not the undefined one. -/
def IsDefined (v : Value) : Prop := v.isNumber ∧ v ≠ float .nan

lemma compareReals?_exact {l r : Value} (hl : l.IsDefined) (hr : r.IsDefined) :
    ∃ o, compareReals? l r = some o ∧ o.Compares l.exact r.exact := by
  cases l with
  | int a =>
      cases r with
      | int b =>
          refine ⟨compare a b, rfl, ?_⟩
          have h : (compare a b).Compares a b := (compare_iff a b).1 rfl
          revert h
          cases compare a b <;> simp [Ordering.Compares, exact]
      | float y =>
          obtain ⟨o, ho, hcompares⟩ :=
            Binary64.compareInt?_exact (fun h => hr.2 (congrArg float h)) a
          refine ⟨swapOrder o, by simp [compareReals?, asInt?, ho], ?_⟩
          cases o <;> first | exact hcompares | exact hcompares.symm
      | _ => cases hr.1
  | float x =>
      have hx : x ≠ .nan := fun h => hl.2 (congrArg float h)
      cases r with
      | int b => exact Binary64.compareInt?_exact hx b
      | float y => exact Binary64.compare?_exact hx fun h => hr.2 (congrArg float h)
      | _ => cases hr.1
  | _ => cases hl.1

/-- **Values of one kind are compared by their keys**: numbers by their exact values, texts by the
code points of their characters. -/
theorem compare?_key {l r : Value}
    (h : (l.IsDefined ∧ r.IsDefined) ∨ ∃ s t, l = text s ∧ r = text t) :
    ∃ o, l.compare? r = .ok (some o) ∧ o.Compares l.key r.key := by
  rcases h with ⟨hl, hr⟩ | ⟨s, t, rfl, rfl⟩
  · obtain ⟨o, ho, hcompares⟩ := compareReals?_exact hl hr
    have hkey : ∀ v : Value, v.IsDefined → v.isReal ∧ v.key = toLex (.inl v.exact) := by
      intro v hv
      cases v <;> first | exact ⟨rfl, rfl⟩ | cases hv.1
    refine ⟨o, ?_, ?_⟩
    · unfold compare?
      split
      · cases hl.1
      · rw [if_pos (by rw [(hkey l hl).1, (hkey r hr).1, Bool.and_self]), ho]
    · rw [(hkey l hl).2, (hkey r hr).2]
      revert hcompares
      cases o <;> simp [Ordering.Compares]
  · rw [compare?]
    simp only [key]
    split_ifs with hst hts
    · exact ⟨.lt, rfl, Sum.Lex.inr_lt_inr_iff.2 hst⟩
    · exact ⟨.gt, rfl, Sum.Lex.inr_lt_inr_iff.2 hts⟩
    · exact ⟨.eq, rfl,
        congrArg (toLex ∘ Sum.inr) (le_antisymm (not_lt.1 hts) (not_lt.1 hst))⟩

/-! ## Fields -/

/-- A text that looks like a number. -/
def LooksNumeric (raw : String) : Bool := isNumeral (trimChars raw.toList)

/-- **What a field is read as**: a number if it looks like one, and else the text that it is. -/
lemma exists_of_ofField {raw : String} {v : Value} (h : ofField raw = .ok v) :
    (LooksNumeric raw = true ∧ v.IsDefined) ∨ (LooksNumeric raw = false ∧ v = text raw) := by
  unfold ofField at h
  simp only at h
  split at h
  · next hnumeral =>
      refine Or.inl ⟨hnumeral, ?_⟩
      split at h
      · split at h
        · cases h
          exact ⟨rfl, nofun⟩
        · cases h
      · split at h
        · next x hx =>
            cases h
            exact ⟨rfl, fun heq => readDouble?_ne_nan hnumeral hx (float.inj heq)⟩
        · cases h
  · next hnumeral =>
      cases h
      exact Or.inr ⟨Bool.not_eq_true _ ▸ hnumeral, rfl⟩

end Value

end Crosswalk
