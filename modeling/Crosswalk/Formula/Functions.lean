import Crosswalk.Formula.Template
import Crosswalk.Text.Case
import Crosswalk.Text.Blank
import Crosswalk.Text.Search

/-!
# The functions of formulas

Every function takes a fixed number of arguments, or a few numbers of them; a call with another
number of arguments is of the wrong kind.  The functions on texts take any value and work on the
text that it has in a row.

* `Value.absolute`, `Value.rounded` — sizes and rounding.
* `Value.extreme` — the least and the greatest of several values.
* `Value.toInt`, `Value.toFloat` — conversions.
* `Function.apply` — **a function applied to its arguments.**
-/

namespace Crosswalk

namespace Value

/-! ## Numbers -/

/-- The size of a number. -/
def absolute : Value → Outcome Value
  | float x => .ok (float x.abs)
  | complex re im =>
    let size := Binary64.hypotenuse re im
    if size.isInfinite && !(re.isInfinite || im.isInfinite) then .error .outOfRange
    else .ok (float size)
  | v =>
    match v.asInt? with
    | some i => .ok (int i.natAbs)
    | none => .error .wrongType

/-- A whole number that stands for a position or a count. -/
def index : Value → Outcome Int
  | v =>
    match v.asInt? with
    | some i => .ok i
    | none => .error .wrongType

/-- A whole number rounded to a multiple of a power of ten, a half to the even neighbour. -/
def roundInt (i : Int) (places : Int) : Int :=
  if 0 ≤ places then i
  else if decimalLength i.natAbs + 1 < places.natAbs then 0
  else
    let unit := Nat.pow 10 places.natAbs
    let size : Int := (halfEven i.natAbs unit * unit : Nat)
    if i < 0 then -size else size

/-- The most decimal places at which rounding a double can make a difference. -/
def mostPlaces : Int := 323

/-- The fewest decimal places at which a double can be rounded to anything but zero. -/
def fewestPlaces : Int := -308

/-- A double rounded to decimal places, a half to the even neighbour. -/
def roundDouble (x : Binary64) (places : Int) : Outcome Value :=
  match x with
  | .finite negative m =>
    if mostPlaces < places then .ok (float x)
    else if places < fewestPlaces then .ok (float (.zero negative))
    else
      let y := Binary64.ofDecimal negative (m.atPlaces places)
      if y.isInfinite then .error .outOfRange else .ok (float y)
  | _ => .ok (float x)

/-- The whole number of a double that was brought to one. -/
def wholeOf (x : Binary64) (whole : Option Int) : Outcome Value :=
  match whole with
  | some i => .ok (int i)
  | none => .error (if x.isNaN then .wrongValue else .outOfRange)

/-- **A number rounded** to a whole number, or to a number of decimal places. -/
def rounded (v places : Value) : Outcome Value :=
  match v, places with
  | float x, absent => wholeOf x x.nearestInt?
  | float x, p => do roundDouble x (← p.index)
  | v, p =>
    match v.asInt?, p with
    | some i, absent => .ok (int i)
    | some i, p => do .ok (int (roundInt i (← p.index)))
    | none, _ => .error .wrongType

/-! ## Extremes -/

/-- The first of the values that is best: one stays the best until one comes that is strictly
before it in the wanted order. -/
def bestOf (wanted : Ordering) (best : Value) : List Value → Outcome Value
  | [] => .ok best
  | v :: vs => do
    bestOf wanted (if (← compare? v best) == some wanted then v else best) vs

/-- **The extreme** of several values, or of the characters of a single text. -/
def extreme (wanted : Ordering) : List Value → Outcome Value
  | [text s] =>
    match s.toList.map fun c => text c.toString with
    | [] => .error .wrongValue
    | c :: cs => bestOf wanted c cs
  | [] | [_] => .error .wrongType
  | v :: vs => bestOf wanted v vs

/-! ## Conversions -/

/-- **A value as a whole number**: doubles lose their fraction, texts are read. -/
def toInt : Value → Outcome Value
  | float x => wholeOf x x.truncate?
  | text s =>
    match readInteger? 10 s with
    | some i => .ok (int i)
    | none => .error .wrongValue
  | v => do .ok (int (← v.index))

/-- A text read as a whole number in a base; base 0 stands for the base that the text names. -/
def toIntInBase (v base : Value) : Outcome Value := do
  let b ← base.index
  if b ≠ 0 ∧ (b < 2 ∨ 36 < b) then .error .wrongValue
  else match v with
    | text s =>
      match readInteger? b.toNat s with
      | some i => .ok (int i)
      | none => .error .wrongValue
    | _ => .error .wrongType

/-- **A value as a double**; texts are read. -/
def toFloat : Value → Outcome Value
  | text s =>
    match readDouble? s with
    | some x => .ok (float x)
    | none => .error .wrongValue
  | v => do .ok (float (← v.toDouble))

/-! ## Texts -/

/-- A text function of the text that a value has in a row. -/
def onText (f : String → Value) (v : Value) : Outcome Value := do .ok (f (← v.format))

/-- A bound of a part of a text, or none. -/
def bound : Value → Outcome (Option Int)
  | absent => .ok none
  | v => do .ok (some (← v.index))

/-- The part of a text from a position on, of a given length or up to the end. -/
def part (v start length : Value) : Outcome Value := do
  let s ← v.format
  let stop ← match length with
    | absent => .ok absent
    | n => start.add n
  let start ← start.bound
  let stop ← stop.bound
  .ok (text (String.ofList (cutOut start stop s.toList)))

/-- A text with every occurrence of another replaced. -/
def replaced (v old new : Value) : Outcome Value := do
  let s ← v.format
  let old ← old.format
  let new ← new.format
  .ok (text (String.ofList (replaceAll old.toList new.toList s.toList)))

/-- A question about the characters of two texts. -/
def asked (f : List Char → List Char → Bool) (v w : Value) : Outcome Value := do
  let s ← v.format
  let t ← w.format
  .ok (bool (f s.toList t.toList))

end Value

namespace Formula

open Value in
/-- **A function applied to its arguments.** -/
def Function.apply : Function → List Value → Outcome Value
  | abs, [v] => v.absolute
  | round, [v] => v.rounded .absent
  | round, [v, places] => v.rounded places
  | min, vs => extreme .lt vs
  | max, vs => extreme .gt vs
  | len, [v] => v.onText fun s => .int s.length
  | int, [] => .ok (.int 0)
  | int, [v] => v.toInt
  | int, [v, base] => v.toIntInBase base
  | float, [] => .ok (.float (.zero false))
  | float, [v] => v.toFloat
  | str, [v] => v.onText .text
  | upper, [v] => v.onText fun s => .text (upperText s)
  | lower, [v] => v.onText fun s => .text (lowerText s)
  | strip, [v] => v.onText fun s => .text (trim s)
  | concat, vs => do .ok (.text (String.join (← vs.mapM Value.format)))
  | substr, [v, start] => v.part start .absent
  | substr, [v, start, length] => v.part start length
  | replace, [v, old, new] => v.replaced old new
  | startsWith, [v, w] => v.asked (fun s t => t.isPrefixOf s) w
  | endsWith, [v, w] => v.asked (fun s t => t.isSuffixOf s) w
  | contains, [v, w] => v.asked (fun s t => occursIn t s) w
  | _, _ => .error .wrongType

end Formula

end Crosswalk
