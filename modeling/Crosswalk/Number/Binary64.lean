/-!
# Double-precision numbers as exact dyadic numbers

A finite double is a whole number of steps of `2 ^ -1074` with a sign, so it is kept as such: a
53-bit significand and a scale.  Every operation is the exact result rounded once to the nearest
double, ties going to the even significand; nothing here rests on machine floating point.

* `Magnitude` — the size of a finite double; its normal form is part of the type, so equal sizes
  are equal values.
* `Magnitude.nearest` — **the one rounding**: a fraction of steps to the nearest magnitude, or
  nothing beyond the largest.
* `Binary64` — signs, infinities and the undefined number.
* `add`, `sub`, `mul`, `div`, `remainder` — each the exact result, rounded by `ofRatio`.
* `compare?` and `compareInt?` — the exact order; the undefined number has none.
-/

namespace Crosswalk

/-! ## Rounding a quotient -/

/-- The quotient `num / den` rounded to the nearest whole number, a half to the even one. -/
def halfEven (num den : Nat) : Nat :=
  let q := num / den
  let r := num % den
  if 2 * r < den then q else if den < 2 * r then q + 1 else q + q % 2

/-- The normal form of a magnitude: 53 bits, and the leading one is set unless the scale is the
least. -/
def Canonical (significand scale : Nat) : Prop :=
  significand < Nat.pow 2 53 ∧ scale ≤ 2045 ∧ (Nat.pow 2 52 ≤ significand ∨ scale = 0)

instance (s e : Nat) : Decidable (Canonical s e) := inferInstanceAs (Decidable (_ ∧ _ ∧ _))

/-- **The size of a finite double**: `significand * 2 ^ scale` steps. -/
structure Magnitude where
  /-- The 53-bit significand. -/
  significand : Nat
  /-- The binary scale, 0 for the smallest numbers. -/
  scale : Nat
  /-- One size has one form. -/
  canonical : Canonical significand scale
  deriving DecidableEq

/-- The number of steps of `2 ^ -1074` in one. -/
def stepsPerOne : Nat := Nat.pow 2 1074

/-- One is at least one step. -/
theorem stepsPerOne_pos : 0 < stepsPerOne := by
  unfold stepsPerOne
  generalize 1074 = k
  exact Nat.pow_pos Nat.two_pos

namespace Magnitude

/-- The size as a whole number of steps of `2 ^ -1074`. -/
def steps (m : Magnitude) : Nat := m.significand * Nat.pow 2 m.scale

/-- No size at all. -/
def zero : Magnitude := ⟨0, 0, by decide⟩

/-- The magnitude of a significand and a scale, when they are in normal form. -/
def ofParts? (significand scale : Nat) : Option Magnitude :=
  if h : Canonical significand scale then some ⟨significand, scale, h⟩ else none

/-- **The nearest magnitude** to `num / den` steps; nothing when that lies beyond the largest.
The scale leaves 53 bits of the quotient, and a significand rounded up to `2 ^ 53` carries into
the scale. -/
def nearest (num den : Nat) : Option Magnitude :=
  let scale := (num / den).log2 + 1 - 53
  let significand := halfEven num (den * Nat.pow 2 scale)
  if significand = Nat.pow 2 53 then ofParts? (Nat.pow 2 52) (scale + 1)
  else ofParts? significand scale

end Magnitude

/-! ## Doubles -/

/-- **A double.** -/
inductive Binary64 where
  /-- The undefined number. -/
  | nan
  /-- An infinity of either sign. -/
  | infinite (negative : Bool)
  /-- A finite number; zero has a sign too. -/
  | finite (negative : Bool) (magnitude : Magnitude)
  deriving DecidableEq

namespace Binary64

/-- The nearest double to `num / den` steps with the given sign; infinite beyond the largest. -/
def ofRatio (negative : Bool) (num den : Nat) : Binary64 :=
  match Magnitude.nearest num den with
  | some m => finite negative m
  | none => infinite negative

/-- Zero with a sign. -/
def zero (negative : Bool) : Binary64 := finite negative .zero

/-- The nearest double to a whole number; nothing when it lies beyond the largest. -/
def ofInt? (i : Int) : Option Binary64 :=
  (Magnitude.nearest (i.natAbs * stepsPerOne) 1).map (finite (decide (i < 0)))

/-- The number one. -/
def one : Binary64 := ofRatio false stepsPerOne 1

/-- The sign of a number, `true` for minus. -/
def isNegative : Binary64 → Bool
  | nan => false
  | infinite n => n
  | finite n _ => n

/-- The undefined number. -/
def isNaN : Binary64 → Bool
  | nan => true
  | _ => false

/-- One of the two infinities. -/
def isInfinite : Binary64 → Bool
  | infinite _ => true
  | _ => false

/-- A zero of either sign. -/
def isZero : Binary64 → Bool
  | finite _ m => m.significand == 0
  | _ => false

/-- The number with the other sign. -/
def neg : Binary64 → Binary64
  | nan => nan
  | infinite n => infinite !n
  | finite n m => finite (!n) m

/-- The number without its sign. -/
def abs : Binary64 → Binary64
  | nan => nan
  | infinite _ => infinite false
  | finite _ m => finite false m

/-- The number with a given sign. -/
def withSign (negative : Bool) : Binary64 → Binary64
  | nan => nan
  | infinite _ => infinite negative
  | finite _ m => finite negative m

/-- The signed count of steps of a finite number. -/
def signed (negative : Bool) (m : Magnitude) : Int := if negative then -m.steps else m.steps

/-! ## Order -/

/-- The exact order of two numbers; none when one is undefined. -/
def compare? : Binary64 → Binary64 → Option Ordering
  | nan, _ | _, nan => none
  | infinite a, infinite b => some (if a = b then .eq else if a then .lt else .gt)
  | infinite a, finite _ _ => some (if a then .lt else .gt)
  | finite _ _, infinite b => some (if b then .gt else .lt)
  | finite a m, finite b n => some (compare (signed a m) (signed b n))

/-- The exact order of a number and a whole number; none when the number is undefined. -/
def compareInt? : Binary64 → Int → Option Ordering
  | nan, _ => none
  | infinite a, _ => some (if a then .lt else .gt)
  | finite a m, i => some (compare (signed a m) (i * stepsPerOne))

/-- Equal as numbers: the zeros are equal, the undefined number differs from itself. -/
def equal (x y : Binary64) : Bool := compare? x y == some .eq

/-- Less as numbers. -/
def less (x y : Binary64) : Bool := compare? x y == some .lt

/-! ## Arithmetic -/

/-- The exact sum, rounded once; opposite numbers cancel to plus zero. -/
def add : Binary64 → Binary64 → Binary64
  | nan, _ | _, nan => nan
  | infinite a, infinite b => if a = b then infinite a else nan
  | infinite a, finite _ _ => infinite a
  | finite _ _, infinite b => infinite b
  | finite a m, finite b n =>
    let sum := signed a m + signed b n
    if sum = 0 then zero (a && b) else ofRatio (decide (sum < 0)) sum.natAbs 1

/-- The exact difference, rounded once. -/
def sub (x y : Binary64) : Binary64 := add x y.neg

/-- The exact product, rounded once. -/
def mul : Binary64 → Binary64 → Binary64
  | nan, _ | _, nan => nan
  | infinite a, infinite b => infinite (a != b)
  | infinite a, finite b n => if n.significand = 0 then nan else infinite (a != b)
  | finite a m, infinite b => if m.significand = 0 then nan else infinite (a != b)
  | finite a m, finite b n => ofRatio (a != b) (m.steps * n.steps) stepsPerOne

/-- The exact quotient, rounded once; a zero divisor gives an infinity or the undefined number. -/
def div : Binary64 → Binary64 → Binary64
  | nan, _ | _, nan => nan
  | infinite _, infinite _ => nan
  | infinite a, finite b _ => infinite (a != b)
  | finite a _, infinite b => zero (a != b)
  | finite a m, finite b n =>
    if n.significand = 0 then (if m.significand = 0 then nan else infinite (a != b))
    else ofRatio (a != b) (m.steps * stepsPerOne) n.steps

/-- The exact remainder of the division that drops the fraction; it has the sign of the
dividend. -/
def remainder : Binary64 → Binary64 → Binary64
  | nan, _ | _, nan => nan
  | infinite _, _ => nan
  | finite a m, infinite _ => finite a m
  | finite a m, finite _ n =>
    if n.significand = 0 then nan else ofRatio a (m.steps % n.steps) 1

/-- The whole part of a finite number, the fraction dropped. -/
def truncate? : Binary64 → Option Int
  | finite a m => some (if a then -(m.steps / stepsPerOne : Nat) else (m.steps / stepsPerOne : Nat))
  | _ => none

/-- The whole number nearest to a finite number, a half going to the even one. -/
def nearestInt? : Binary64 → Option Int
  | finite a m =>
    let n := halfEven m.steps stepsPerOne
    some (if a then -n else n)
  | _ => none

/-- The greatest whole number not above, as a double; an infinity is its own floor. -/
def floor : Binary64 → Binary64
  | finite a m =>
    let q := signed a m / stepsPerOne
    if q = 0 then zero a else ofRatio (decide (q < 0)) (q.natAbs * stepsPerOne) 1
  | x => x

/-- A finite number without a fraction. -/
def isIntegral : Binary64 → Bool
  | finite _ m => m.steps % stepsPerOne == 0
  | _ => false

/-- A whole number that is not a multiple of two. -/
def isOddInteger : Binary64 → Bool
  | finite _ m => m.steps % stepsPerOne == 0 && (m.steps / stepsPerOne) % 2 == 1
  | _ => false

/-! ## Machine form

Powers and the functions of a complex power are taken by the machine, on the 64-bit form. -/

/-- The 64-bit form. -/
def toBits : Binary64 → UInt64
  | nan => 0x7ff8000000000000
  | infinite n => (if n then 0x8000000000000000 else 0) ||| 0x7ff0000000000000
  | finite n m =>
    (if n then 0x8000000000000000 else 0) |||
      (if m.significand < Nat.pow 2 52 then m.significand
        else (m.scale + 1) * Nat.pow 2 52 + (m.significand - Nat.pow 2 52)).toUInt64

/-- The double of a 64-bit form. -/
def ofBits (bits : UInt64) : Binary64 :=
  let n := bits.toNat
  let negative := decide (Nat.pow 2 63 ≤ n)
  let field := n / Nat.pow 2 52 % Nat.pow 2 11
  let fraction := n % Nat.pow 2 52
  if field = 2047 then (if fraction = 0 then infinite negative else nan)
  else if field = 0 then ofRatio negative fraction 1
  else ofRatio negative ((Nat.pow 2 52 + fraction) * Nat.pow 2 (field - 1)) 1

/-- A function of the machine, on doubles. -/
def viaMachine (f : Float → Float) (x : Binary64) : Binary64 :=
  ofBits (f (Float.ofBits x.toBits)).toBits

/-- A function of two numbers of the machine, on doubles. -/
def viaMachine₂ (f : Float → Float → Float) (x y : Binary64) : Binary64 :=
  ofBits (f (Float.ofBits x.toBits) (Float.ofBits y.toBits)).toBits

/-- The whole square root of `n`, found bit by bit from the bit `2 ^ k` down. -/
def wholeRoot (n : Nat) : Nat → Nat → Nat
  | 0, root => root
  | k + 1, root =>
    let next := root + Nat.pow 2 k
    wholeRoot n k (if next * next ≤ n then next else root)

/-- The length of the vector of two numbers, rounded once: the square root of the exact sum of
squares, taken to 64 bits beyond the step and marked when it is not exact. -/
def hypotenuse : Binary64 → Binary64 → Binary64
  | infinite _, _ | _, infinite _ => infinite false
  | nan, _ | _, nan => nan
  | finite _ m, finite _ n =>
    let square := (m.steps * m.steps + n.steps * n.steps) * Nat.pow 2 128
    let root := wholeRoot square (square.log2 / 2 + 1) 0
    ofRatio false (2 * root + (if root * root = square then 0 else 1)) (Nat.pow 2 65)

end Binary64

end Crosswalk
