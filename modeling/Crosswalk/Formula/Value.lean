import Crosswalk.Number.Numeral
import Crosswalk.Text.Quoted

/-!
# Values of formulas

A row holds texts only.  A formula works on values: a text that looks like a number is read as one,
and a result is written back as a text.

* `Value` — nothing, truth values, whole numbers, doubles, complex numbers and texts.
* `Value.ofField` — **reading a field**: a decimal numeral becomes a number, anything else stays
  the text it is, blanks included.
* `Value.format` — **writing a field**: a double without a fraction is written as a whole number,
  truth values in lower case, nothing as the empty text.
* `Fault` — how a computation on values fails.
-/

namespace Crosswalk

/-- How a computation on values fails. -/
inductive Fault where
  /-- An operand of a kind that the operation does not take. -/
  | wrongType
  /-- An operand of the right kind with a value that the operation does not take. -/
  | wrongValue
  /-- A zero divisor, or a zero raised to a negative power. -/
  | zeroDivision
  /-- A result that no double can hold. -/
  | outOfRange
  /-- A power of whole numbers with too many bits. -/
  | powerTooLarge
  /-- A product of whole numbers with too many bits. -/
  | productTooLarge
  /-- A repeated text with too many characters. -/
  | repetitionTooLarge
  deriving DecidableEq, Repr

/-- **A value of a formula.** -/
inductive Value where
  /-- Nothing. -/
  | absent
  /-- A truth value; it counts as 0 or 1 among numbers. -/
  | bool (b : Bool)
  /-- A whole number of any size. -/
  | int (i : Int)
  /-- A double. -/
  | float (x : Binary64)
  /-- A complex number, which only a power of a negative number brings about. -/
  | complex (re im : Binary64)
  /-- A text. -/
  | text (s : String)
  deriving DecidableEq

namespace Value

/-- A truth value as the number 0 or 1. -/
def ofBit (b : Bool) : Int := if b then 1 else 0

/-- The whole number that a value counts as, if it is one. -/
def asInt? : Value → Option Int
  | bool b => some (ofBit b)
  | int i => some i
  | _ => none

/-- A number that is not a truth value. -/
def isNumber : Value → Bool
  | int _ | float _ => true
  | _ => false

/-- What counts as true in a condition: all but nothing, false, the zeros and the empty text. -/
def isTrue : Value → Bool
  | absent => false
  | bool b => b
  | int i => i != 0
  | float x => !x.isZero
  | complex re im => !(re.isZero && im.isZero)
  | text s => !s.isEmpty

/-! ## Reading a field -/

/-- The exponent part of a numeral, or the end. -/
def isExponentTail : List Char → Bool
  | [] => true
  | c :: rest =>
    (c = 'e' || c = 'E') &&
      (let ds := (takeSign rest).2
       !ds.isEmpty && ds.all isDecimal)

/-- **A decimal numeral**: a sign, digits of any script with at most one point among or around
them, and an exponent. -/
def isNumeral (cs : List Char) : Bool :=
  let body := (takeSign cs).2
  let whole := body.takeWhile isDecimal
  match body.dropWhile isDecimal with
  | '.' :: rest =>
    let fraction := rest.takeWhile isDecimal
    !(whole.isEmpty && fraction.isEmpty) && isExponentTail (rest.dropWhile isDecimal)
  | rest => !whole.isEmpty && isExponentTail rest

/-- A numeral with neither a point nor an exponent. -/
def isWholeNumeral (cs : List Char) : Bool := (takeSign cs).2.all isDecimal

/-- **The value of a field.**  A whole numeral with more than `maxDigits` digits is refused. -/
def ofField (raw : String) : Except Fault Value :=
  let cs := trimChars raw.toList
  if isNumeral cs then
    let trimmed := String.ofList cs
    if isWholeNumeral cs then
      match readInteger? 10 trimmed with
      | some i => .ok (int i)
      | none => .error .wrongValue
    else
      match readDouble? trimmed with
      | some x => .ok (float x)
      | none => .error .wrongValue
  else .ok (text raw)

/-! ## Writing a field -/

/-- The text of a whole number; one with too many digits is refused. -/
def intText (i : Int) : Except Fault String :=
  match integerText? i with
  | some s => .ok s
  | none => .error .wrongValue

/-- The text of a complex number: the imaginary part alone when the real part is plus zero, else
both between brackets. -/
def complexText (re im : Binary64) : String :=
  if re.isZero && !re.isNegative then im.text .part ++ "j"
  else
    let signed := if im.isNegative then im.text .part else "+" ++ im.text .part
    "(" ++ re.text .part ++ signed ++ "j)"

/-- **The text of a value in a row.** -/
def format : Value → Except Fault String
  | absent => .ok ""
  | bool b => .ok (if b then "true" else "false")
  | int i => intText i
  | float x =>
    match x.isIntegral, x.truncate? with
    | true, some i => intText i
    | _, _ => .ok (x.text .number)
  | complex re im => .ok (complexText re im)
  | text s => .ok s

end Value

end Crosswalk
