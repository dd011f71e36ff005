import Crosswalk.Formula.Term

/-!
# Arithmetic and comparison of values

Truth values count as 0 and 1, whole numbers are exact, and a whole number that meets a double
becomes the nearest double.  Products and powers also come in bounded forms that refuse a result
that would be too large.

* `Value.add` … `Value.pow` — arithmetic.  Texts can be joined, repeated and used as templates.
* `Value.boundedMul`, `Value.boundedPow` — **the size checks**, by the sizes of the operands
  alone.
* `Value.compare?`, `Value.equal` — comparison: numbers by their exact values, texts by code
  points.
-/

namespace Crosswalk

/-- A result or a fault. -/
abbrev Outcome (α : Type) := Except Fault α

/-! ## Numbers -/

/-- Two operands brought to one kind of number. -/
inductive NumberPair where
  | ints (a b : Int)
  | floats (x y : Binary64)
  | complexes (xr xi yr yi : Binary64)

namespace Value

/-- The double that a number counts as; a whole number may be too large for one. -/
def toDouble : Value → Outcome Binary64
  | bool b => .ok (if b then .one else .zero false)
  | int i =>
    match Binary64.ofInt? i with
    | some x => .ok x
    | none => .error .outOfRange
  | float x => .ok x
  | _ => .error .wrongType

/-- The real and the imaginary part that a number counts as. -/
def toComplex : Value → Outcome (Binary64 × Binary64)
  | complex re im => .ok (re, im)
  | v => do .ok (← v.toDouble, .zero false)

/-- Two numbers as numbers of the wider of their kinds; anything else is of the wrong kind. -/
def pairUp (l r : Value) : Outcome NumberPair :=
  match l, r with
  | complex _ _, text _ | complex _ _, absent | text _, complex _ _ | absent, complex _ _ =>
    .error .wrongType
  | complex _ _, _ | _, complex _ _ => do
    let (a, b) ← l.toComplex
    let (c, d) ← r.toComplex
    .ok (.complexes a b c d)
  | _, _ =>
    match l.asInt?, r.asInt? with
    | some a, some b => .ok (.ints a b)
    | _, _ =>
      match l, r with
      | text _, _ | _, text _ | absent, _ | _, absent => .error .wrongType
      | _, _ => do .ok (.floats (← l.toDouble) (← r.toDouble))

/-- Whether a value is a complex number. -/
def isComplex : Value → Bool
  | complex _ _ => true
  | _ => false

/-- Two real numbers as numbers of the wider of their kinds.  A complex number is of the wrong
kind, and that is told before a whole number turns out to be too large for a double. -/
def pairUpReals (l r : Value) : Outcome NumberPair :=
  if l.isComplex || r.isComplex then .error .wrongType else pairUp l r

/-! ## Sums and products -/

/-- The product of two complex numbers. -/
def complexMul (a b c d : Binary64) : Binary64 × Binary64 :=
  (.sub (.mul a c) (.mul b d), .add (.mul a d) (.mul b c))

/-- The quotient of two complex numbers, by the larger part of the divisor. -/
def complexDiv (a b c d : Binary64) : Outcome (Binary64 × Binary64) :=
  if c.isNaN || d.isNaN then .ok (.nan, .nan)
  else if !c.abs.less d.abs then
    if c.isZero then .error .zeroDivision
    else
      let ratio := Binary64.div d c
      let denom := Binary64.add c (.mul d ratio)
      .ok (.div (.add a (.mul b ratio)) denom, .div (.sub b (.mul a ratio)) denom)
  else
    let ratio := Binary64.div c d
    let denom := Binary64.add (.mul c ratio) d
    .ok (.div (.add (.mul a ratio) b) denom, .div (.sub (.mul b ratio) a) denom)

/-- The largest number that can count characters. -/
def maxCount : Nat := Nat.pow 2 63 - 1

/-- Whether a whole number can count characters, forwards or backwards. -/
def isCount (i : Int) : Bool := -(maxCount : Int) - 1 ≤ i && i ≤ maxCount

/-- A text written `count` times. -/
def repeatText (s : String) (count : Int) : Outcome String :=
  if !isCount count then .error .outOfRange
  else .ok (if s.isEmpty then "" else String.join (List.replicate count.toNat s))

/-- The sum; two texts are joined. -/
def add (l r : Value) : Outcome Value :=
  match l, r with
  | text s, text t => .ok (text (s ++ t))
  | _, _ => do
    match ← pairUp l r with
    | .ints a b => .ok (int (a + b))
    | .floats x y => .ok (float (.add x y))
    | .complexes a b c d => .ok (complex (.add a c) (.add b d))

/-- The difference. -/
def sub (l r : Value) : Outcome Value := do
  match ← pairUp l r with
  | .ints a b => .ok (int (a - b))
  | .floats x y => .ok (float (.sub x y))
  | .complexes a b c d => .ok (complex (.sub a c) (.sub b d))

/-- **The product**; a text and a whole number give the text that many times. -/
def mul (l r : Value) : Outcome Value :=
  match l, r with
  | text s, v | v, text s =>
    match v.asInt? with
    | some n => (repeatText s n).map text
    | none => .error .wrongType
  | _, _ => do
    match ← pairUp l r with
    | .ints a b => .ok (int (a * b))
    | .floats x y => .ok (float (.mul x y))
    | .complexes a b c d =>
      let (re, im) := complexMul a b c d
      .ok (complex re im)

/-! ## Quotients -/

/-- The exact quotient of two whole numbers as the nearest double; it has a sign even when it is
zero. -/
def intDiv (a b : Int) : Outcome Value :=
  if b = 0 then .error .zeroDivision
  else
    let negative := decide (a < 0) != decide (b < 0)
    match Magnitude.nearest (a.natAbs * stepsPerOne) b.natAbs with
    | some m => .ok (float (.finite negative m))
    | none => .error .outOfRange

/-- The quotient. -/
def div (l r : Value) : Outcome Value := do
  match ← pairUp l r with
  | .ints a b => intDiv a b
  | .floats x y => if y.isZero then .error .zeroDivision else .ok (float (.div x y))
  | .complexes a b c d => do
    let (re, im) ← complexDiv a b c d
    .ok (complex re im)

/-- The remainder of a division rounded down: it has the sign of the divisor. -/
def floatMod (x y : Binary64) : Binary64 :=
  let m := Binary64.remainder x y
  if m.isZero then .withSign y.isNegative m
  else if y.less (.zero false) != m.less (.zero false) then .add m y else m

/-- The quotient of doubles rounded down. -/
def floatFloorDiv (x y : Binary64) : Binary64 :=
  let m := Binary64.remainder x y
  let q := Binary64.div (.sub x m) y
  let q := if !m.isZero && (y.less (.zero false) != m.less (.zero false)) then .sub q .one else q
  if q.isZero then .withSign (Binary64.div x y).isNegative q
  else
    let whole := q.floor
    if (Binary64.ofRatio false stepsPerOne 2).less (.sub q whole) then .add whole .one else whole

/-- The quotient rounded down. -/
def floorDiv (l r : Value) : Outcome Value := do
  match ← pairUpReals l r with
  | .ints a b => if b = 0 then .error .zeroDivision else .ok (int (a.fdiv b))
  | .floats x y => if y.isZero then .error .zeroDivision else .ok (float (floatFloorDiv x y))
  | .complexes _ _ _ _ => .error .wrongType

/-- The remainder of the quotient rounded down. -/
def numberMod (l r : Value) : Outcome Value := do
  match ← pairUpReals l r with
  | .ints a b => if b = 0 then .error .zeroDivision else .ok (int (a.fmod b))
  | .floats x y => if y.isZero then .error .zeroDivision else .ok (float (floatMod x y))
  | .complexes _ _ _ _ => .error .wrongType

/-! ## Powers -/

/-- The power of a whole number; the exponent of 0, 1 and -1 may be of any size. -/
def intPow (base : Int) (exponent : Nat) : Int :=
  if exponent = 0 then 1
  else if base.natAbs ≤ 1 then (if base < 0 && exponent % 2 = 0 then 1 else base)
  else
    let size : Int := Nat.pow base.natAbs exponent
    if base < 0 && exponent % 2 = 1 then -size else size

/-- A complex number multiplied with itself, by repeated squaring from the lowest bit of the
exponent. -/
def complexPowNat (re im : Binary64) (result : Binary64 × Binary64) :
    Nat → Nat → Binary64 × Binary64
  | 0, _ => result
  | fuel + 1, n =>
    if n = 0 then result
    else
      let result := if n % 2 = 1 then complexMul result.1 result.2 re im else result
      let (re, im) := complexMul re im re im
      complexPowNat re im result fuel (n / 2)

/-- The power of complex numbers by length and angle. -/
def complexPowPolar (a b c d : Binary64) : Outcome (Binary64 × Binary64) :=
  if c.isZero && d.isZero then .ok (.one, .zero false)
  else if a.isZero && b.isZero then
    if !d.isZero || c.less (.zero false) then .error .zeroDivision
    else .ok (.zero false, .zero false)
  else
    let size := Binary64.hypotenuse a b
    let length := Binary64.viaMachine₂ Float.pow size c
    let angle := Binary64.viaMachine₂ Float.atan2 b a
    let phase := Binary64.mul angle c
    let (length, phase) :=
      if d.isZero then (length, phase)
      else (.div length (.viaMachine Float.exp (.mul angle d)),
        .add phase (.mul d (.viaMachine Float.log size)))
    .ok (.mul length (.viaMachine Float.cos phase), .mul length (.viaMachine Float.sin phase))

/-- The power of complex numbers; small whole exponents are multiplied out. -/
def complexPow (a b c d : Binary64) : Outcome Value := do
  let small := match c with
    | .finite _ m => d.isZero && c.isIntegral && m.steps ≤ 100 * stepsPerOne
    | _ => false
  let (re, im) ← if small then
      let n := (c.truncate?.getD 0).natAbs
      let p := complexPowNat a b (.one, .zero false) 8 n
      if c.less (.zero false) || c.isZero then complexDiv .one (.zero false) p.1 p.2 else .ok p
    else complexPowPolar a b c d
  if re.isInfinite || im.isInfinite then .error .outOfRange else .ok (complex re im)

/-- The power of doubles.  A negative number to a power that is no whole number is complex. -/
def floatPow (x y : Binary64) : Outcome Value :=
  let odd := y.abs.isOddInteger
  if y.isZero then .ok (float .one)
  else if x.isNaN then .ok (float x)
  else if y.isNaN then .ok (float (if x.equal .one then .one else y))
  else if y.isInfinite then
    if x.abs.equal .one then .ok (float .one)
    else if y.isNegative != Binary64.one.less x.abs then .ok (float (.infinite false))
    else .ok (float (.zero false))
  else if x.isInfinite then
    if y.isNegative then .ok (float (.zero (x.isNegative && odd)))
    else .ok (float (.infinite (x.isNegative && odd)))
  else if x.isZero then
    if y.isNegative then .error .zeroDivision
    else .ok (float (.zero (x.isNegative && odd)))
  else if x.isNegative && !y.isIntegral then complexPow x (.zero false) y (.zero false)
  else
    let negate := x.isNegative && odd
    if x.abs.equal .one then .ok (float (if negate then Binary64.one.neg else .one))
    else
      let p := Binary64.viaMachine₂ Float.pow x.abs y
      if p.isInfinite then .error .outOfRange else .ok (float (if negate then p.neg else p))

/-- **The power.**  A whole number to a negative power is a power of doubles. -/
def pow (l r : Value) : Outcome Value := do
  match ← pairUp l r with
  | .ints a b =>
    if 0 ≤ b then .ok (int (intPow a b.toNat))
    else floatPow (← toDouble (int a)) (← toDouble (int b))
  | .floats x y => floatPow x y
  | .complexes a b c d => complexPow a b c d

/-! ## Size checks -/

/-- The most bits that a product or a power of whole numbers may have. -/
def maxBits : Nat := 100000

/-- The most characters that a repeated text may have. -/
def maxRepetition : Nat := 1000000

/-- The number of bits of a whole number, its sign aside. -/
def bitLength (i : Int) : Nat := if i = 0 then 0 else i.natAbs.log2 + 1

/-- A text and a whole number whose product has too many characters. -/
def repeatsTooMuch : Value → Value → Bool
  | text s, v =>
    match v.asInt? with
    | some n => decide ((maxRepetition : Int) < s.length * n)
    | none => false
  | _, _ => false

/-- **The checked product**: refused when its operands, as texts or whole numbers, could give too
much. -/
def boundedMul (l r : Value) : Outcome Value :=
  if repeatsTooMuch l r || repeatsTooMuch r l then .error .repetitionTooLarge
  else match l.asInt?, r.asInt? with
    | some a, some b =>
      if maxBits < bitLength a + bitLength b then .error .productTooLarge else mul l r
    | _, _ => mul l r

/-- **The checked power**: refused when whole operands could give too many bits. -/
def boundedPow (l r : Value) : Outcome Value :=
  match l.asInt?, r.asInt? with
  | some a, some b =>
    if 0 < b ∧ 1 < a.natAbs ∧ (maxBits : Int) < bitLength a * b then .error .powerTooLarge
    else pow l r
  | _, _ => pow l r

/-! ## Signs -/

/-- A number with the other sign. -/
def negate : Value → Outcome Value
  | float x => .ok (float x.neg)
  | complex re im => .ok (complex re.neg im.neg)
  | v =>
    match v.asInt? with
    | some i => .ok (int (-i))
    | none => .error .wrongType

/-- A number itself; a truth value becomes a whole number. -/
def affirm : Value → Outcome Value
  | float x => .ok (float x)
  | complex re im => .ok (complex re im)
  | v =>
    match v.asInt? with
    | some i => .ok (int i)
    | none => .error .wrongType

/-! ## Comparison -/

/-- The other way round. -/
def swapOrder : Ordering → Ordering
  | .lt => .gt
  | .eq => .eq
  | .gt => .lt

/-- The exact order of two real numbers; none if one is undefined. -/
def compareReals? (l r : Value) : Option Ordering :=
  match l, r with
  | float x, float y => Binary64.compare? x y
  | float x, v => v.asInt?.bind fun i => Binary64.compareInt? x i
  | v, float y => v.asInt?.bind fun i => (Binary64.compareInt? y i).map swapOrder
  | v, w => do some (compare (← v.asInt?) (← w.asInt?))

/-- Whether two values can be ordered: real numbers, and texts. -/
def isReal : Value → Bool
  | bool _ | int _ | float _ => true
  | _ => false

/-- **The order of two values**: of real numbers by their exact values, and none with the undefined
number; of texts by code points; other values have no order. -/
def compare? (l r : Value) : Outcome (Option Ordering) :=
  match l, r with
  | text s, text t => .ok (some (if s < t then .lt else if t < s then .gt else .eq))
  | _, _ => if l.isReal && r.isReal then .ok (compareReals? l r) else .error .wrongType

/-- **Equality of values**: numbers are equal as numbers whatever their kinds, and values of other
different kinds differ. -/
def equal (l r : Value) : Bool :=
  match l, r with
  | absent, absent => true
  | text s, text t => s == t
  | complex a b, complex c d => a.equal c && b.equal d
  | complex a b, v | v, complex a b => b.isZero && v.isReal && compareReals? (float a) v == some .eq
  | _, _ => l.isReal && r.isReal && compareReals? l r == some .eq

end Value

end Crosswalk
