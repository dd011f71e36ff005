import Crosswalk.Number.Binary64

/-!
# Decimal forms of doubles

Doubles are written in decimal in four ways: the shortest form that reads back, a fixed number of
places, a mantissa with an exponent, and the shorter of the last two.  All are exact arithmetic on
whole numbers.

* `Decimal` — `digits * 10 ^ exponent`; `Binary64.ofDecimal` reads one, rounding once.
* `Magnitude.shortest` — **the fewest digits that read back**: on the grids of 1, 2, … 17 digits
  the neighbours of the number are tried, the nearer first, and if no grid has a hit the exact
  expansion is taken, so that every form reads back.
* `Magnitude.atPlaces`, `Magnitude.atPrecision` — rounding to places and to significant digits.
* `Binary64.text` — the plain form, with its decisions in `PlainForm`.
-/

namespace Crosswalk

/-- The number of decimal digits of a whole number; one for zero. -/
def decimalLength (n : Nat) : Nat := (Nat.toDigits 10 n).length

/-- `digits * 10 ^ exponent`. -/
structure Decimal where
  /-- The digits as a whole number. -/
  digits : Nat
  /-- The power of ten they are multiplied by. -/
  exponent : Int
  deriving DecidableEq

/-- The nearest double to a decimal number.  Beyond `10 ^ 310` and below `10 ^ -330` there is
nothing to compute. -/
def Binary64.ofDecimal (negative : Bool) (d : Decimal) : Binary64 :=
  let top := d.exponent + decimalLength d.digits
  if d.digits = 0 then .zero negative
  else if 310 < top then .infinite negative
  else if top < -330 then .zero negative
  else if 0 ≤ d.exponent then
    .ofRatio negative (d.digits * Nat.pow 10 d.exponent.toNat * stepsPerOne) 1
  else .ofRatio negative (d.digits * stepsPerOne) (Nat.pow 10 (-d.exponent).toNat)

namespace Magnitude

/-- The position of the decimal point: `10 ^ (p - 1) ≤ m < 10 ^ p` for a magnitude above zero. -/
def pointPosition (m : Magnitude) : Int :=
  (decimalLength (m.steps * Nat.pow 10 400 / stepsPerOne) : Int) - 400

/-- The magnitude as a fraction of grid steps of `10 ^ exponent`. -/
def onGrid (m : Magnitude) (exponent : Int) : Nat × Nat :=
  if 0 ≤ exponent then (m.steps, stepsPerOne * Nat.pow 10 exponent.toNat)
  else (m.steps * Nat.pow 10 (-exponent).toNat, stepsPerOne)

/-- The neighbours of a fraction on the whole numbers, the nearer first; of two equally near ones
the even. -/
def neighbours (num den : Nat) : List Nat :=
  let lo := num / den
  if num % den = 0 then [lo]
  else if halfEven num den = lo then [lo, lo + 1] else [lo + 1, lo]

/-- A decimal number that reads back as the magnitude, on the grid of `count` digits. -/
def decimalOfLength (m : Magnitude) (count : Nat) : Option Decimal :=
  let exponent := m.pointPosition - count
  let (num, den) := m.onGrid exponent
  ((neighbours num den).map (⟨·, exponent⟩)).find?
    fun d => Binary64.ofDecimal false d == .finite false m

/-- **The fewest digits that read back**, or the exact expansion. -/
def shortest (m : Magnitude) : Decimal :=
  ((List.range 17).findSome? fun k => m.decimalOfLength (k + 1)).getD
    ⟨m.steps * Nat.pow 5 1074, -1074⟩

/-- The magnitude in units of the `places`-th decimal place, a half going to the even unit. -/
def atPlaces (m : Magnitude) (places : Int) : Decimal :=
  let (num, den) := m.onGrid (-places)
  ⟨halfEven num den, -places⟩

/-- The magnitude to `count` significant digits: the digits and the position of the point. -/
def atPrecision (m : Magnitude) (count : Nat) : Nat × Int :=
  if m.significand = 0 then (0, 1)
  else
    let position := m.pointPosition
    let (num, den) := m.onGrid (position - count)
    let digits := halfEven num den
    if digits = Nat.pow 10 count then (Nat.pow 10 (count - 1), position + 1) else (digits, position)

end Magnitude

/-! ## Text -/

/-- The decimal digits of a whole number. -/
def digitText (n : Nat) : String := String.ofList (Nat.toDigits 10 n)

/-- Decimal digits with leading zeros up to `width`. -/
def paddedDigits (width n : Nat) : String :=
  let ds := Nat.toDigits 10 n
  String.ofList (List.replicate (width - ds.length) '0' ++ ds)

/-- A list of digits without its trailing zeros. -/
def withoutTrailingZeros (ds : List Char) : List Char :=
  (ds.reverse.dropWhile (· == '0')).reverse

/-- The whole part and the fraction of a digit list whose point stands after `position` digits. -/
def splitAtPoint (ds : List Char) (position : Int) : List Char × List Char :=
  if position ≤ 0 then (['0'], List.replicate (-position).toNat '0' ++ ds)
  else
    let p := position.toNat
    (ds.take p ++ List.replicate (p - ds.length) '0', ds.drop p)

/-- A fraction behind its point; nothing for no fraction. -/
def pointed (fraction : List Char) : List Char := if fraction.isEmpty then [] else '.' :: fraction

/-- A decimal exponent: its mark, its sign and at least two digits. -/
def exponentText (mark : Char) (e : Int) : List Char :=
  mark :: (if e < 0 then '-' else '+') :: (paddedDigits 2 e.natAbs).toList

/-- The decisions of the plain form. -/
structure PlainForm where
  /-- The point may stand in front of up to this many zeros after it … -/
  leastPosition : Int
  /-- … and behind up to this many digits; beyond, the exponent is written. -/
  mostPosition : Int
  /-- A whole number ends in `.0`. -/
  keepsPoint : Bool

/-- **The plain form of numbers**: positional from `0.0001` up to sixteen digits before the point,
and a whole number keeps a point. -/
def PlainForm.number : PlainForm := ⟨-3, 16, true⟩

/-- The plain form of the two parts of a complex number: a whole number keeps no point. -/
def PlainForm.part : PlainForm := ⟨-3, 16, false⟩

/-- The plain form of a magnitude. -/
def Magnitude.text (form : PlainForm) (m : Magnitude) : List Char :=
  if m.significand = 0 then (if form.keepsPoint then ['0', '.', '0'] else ['0'])
  else
    let d := m.shortest
    let ds := Nat.toDigits 10 d.digits
    let position : Int := d.exponent + ds.length
    let ds := withoutTrailingZeros ds
    if form.leastPosition ≤ position ∧ position ≤ form.mostPosition then
      let (whole, fraction) := splitAtPoint ds position
      whole ++ (if fraction.isEmpty && form.keepsPoint then ['.', '0'] else pointed fraction)
    else ds.take 1 ++ pointed (ds.drop 1) ++ exponentText 'e' (position - 1)

/-- **The plain form of a double**: the shortest text that reads back. -/
def Binary64.text (form : PlainForm) : Binary64 → String
  | .nan => "nan"
  | .infinite negative => if negative then "-inf" else "inf"
  | .finite negative m =>
    String.ofList ((if negative then ['-'] else []) ++ m.text form)

/-- The form with a fixed number of places; a bare point is kept on request. -/
def Magnitude.fixedText (m : Magnitude) (places : Nat) (barePoint : Bool) : List Char :=
  let ds := (paddedDigits (places + 1) (m.atPlaces places).digits).toList
  let (whole, fraction) := (ds.take (ds.length - places), ds.drop (ds.length - places))
  whole ++ (if fraction.isEmpty && barePoint then ['.'] else pointed fraction)

/-- The form with an exponent and `places` digits after the point. -/
def Magnitude.exponentForm (m : Magnitude) (places : Nat) (barePoint : Bool) (mark : Char) :
    List Char :=
  let (digits, position) := m.atPrecision (places + 1)
  let ds := (paddedDigits (places + 1) digits).toList
  ds.take 1 ++ (if places = 0 && barePoint then ['.'] else pointed (ds.drop 1)) ++
    exponentText mark (position - 1)

/-- The general form with `precision` significant digits: positional when the exponent is at least
-4 and below the precision; trailing zeros are kept only on request. -/
def Magnitude.generalForm (m : Magnitude) (precision : Nat) (keepZeros : Bool) (mark : Char) :
    List Char :=
  let precision := max precision 1
  let (digits, position) := m.atPrecision precision
  let all := (paddedDigits precision digits).toList
  let ds := if keepZeros then all else withoutTrailingZeros all
  if -4 ≤ position - 1 ∧ position - 1 < precision then
    let (whole, fraction) := splitAtPoint ds position
    (if whole.isEmpty then ['0'] else whole) ++
      (if fraction.isEmpty && keepZeros then ['.'] else pointed fraction)
  else
    let ds := if ds.isEmpty then ['0'] else ds
    ds.take 1 ++ (if ds.length ≤ 1 && keepZeros then ['.'] else pointed (ds.drop 1)) ++
      exponentText mark (position - 1)

end Crosswalk
