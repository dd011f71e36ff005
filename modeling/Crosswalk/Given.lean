import Crosswalk.Error
import Crosswalk.Json.Value
import Crosswalk.Text.Blank
import Crosswalk.Text.Case

/-!
# Given values

The fields of sources and settings are given as texts, numbers or truth values, and each has a kind
of its own.  A text is read as the kind that is wanted where that can be done without loss.

* `wholeOfText?` — a whole number that a text is: with zeros in front, with underscores between
  its digits, or with nothing but zeros behind a point.
* `Given.whole`, `Given.text`, `Given.truth`, `Given.choice`, `Given.path` — **a given value as
  one of a kind**, or what is wrong with it. -/

namespace Crosswalk

/-! ## Whole numbers in texts -/

/-- Blanks around a number. -/
def isMargin (c : Char) : Bool := isBlank c && !(0x1C ≤ c.toNat && c.toNat ≤ 0x1F)

/-- A text without the blanks around it. -/
def withoutMargins (cs : List Char) : List Char :=
  ((cs.dropWhile isMargin).reverse.dropWhile isMargin).reverse

/-- A decimal digit of ASCII. -/
def isPlainDigit (c : Char) : Bool := '0' ≤ c && c ≤ '9'

/-- The value of digits without zeros in front, behind an optional minus sign. -/
def strictWhole? (cs : List Char) : Option Int :=
  let (negative, ds) := match cs with
    | '-' :: rest => (true, rest)
    | _ => (false, cs)
  if ds.isEmpty || !ds.all isPlainDigit || (ds.length > 1 && ds.head? = some '0') then none
  else
    let n : Int := (Nat.ofDigitChars 10 ds 0 : Nat)
    some (if negative then -n else n)

/-- Digits without the zeros in front of them; one zero stays in front of a point, or alone. -/
def dropZeros (last : Char) : List Char → Option (List Char)
  | [] => some [last]
  | c :: cs =>
    if c = '0' || c = '_' then dropZeros c cs
    else if isPlainDigit c then some (c :: cs)
    else if c = '.' then some (last :: c :: cs)
    else none

/-- A number without the zeros in front of it. -/
def withoutLeadingZeros : List Char → Option (List Char)
  | [] => none
  | c :: cs =>
    if c = '0' then dropZeros '0' cs
    else if isPlainDigit c || c = '-' then some (c :: cs)
    else none

/-- A number without a point that only zeros follow. -/
def withoutZeroFraction (cs : List Char) : List Char :=
  match cs.dropWhile (· != '.') with
  | _ :: zeros => if zeros.all (· == '0') then cs.takeWhile (· != '.') else cs
  | [] => cs

/-- Whether two underscores stand side by side. -/
def hasDoubleUnderscore : List Char → Bool
  | '_' :: '_' :: _ => true
  | _ :: cs => hasDoubleUnderscore cs
  | [] => false

/-- A number without underscores, if they stand between digits one by one. -/
def withoutUnderscores (cs : List Char) : List Char :=
  if cs.head? = some '_' || cs.getLast? = some '_' || hasDoubleUnderscore cs then cs
  else cs.filter (· != '_')

/-- The digits of a number in its strict form. -/
def strictForm? (cs : List Char) : Option (List Char) := do
  let cs ← match withoutMargins cs with
    | '+' :: '-' :: _ => none
    | '+' :: rest => some rest
    | rest => some rest
  some (withoutUnderscores (withoutZeroFraction (← withoutLeadingZeros cs)))

/-- **The whole number that a text is.** -/
def wholeOfText? (cs : List Char) : Option Int :=
  (strictWhole? cs).orElse fun _ => (strictForm? cs).bind strictWhole?

/-! ## Given values -/

/-- A field that may be wrong: its value, or what is wrong with it. -/
abbrev Checked (α : Type) := Except FieldProblem α

/-- What is wrong with a field. -/
def Checked.problems {α : Type} : Checked α → List FieldProblem
  | .ok _ => []
  | .error p => [p]

/-- What is wrong with some fields. -/
def problemsOf {α : Type} : Except (List FieldProblem) α → List FieldProblem
  | .ok _ => []
  | .error ps => ps

namespace Given

/-- A value that has to be given. -/
def required (field : String) : Option Json → Except FieldProblem Json
  | some j => .ok j
  | none => .error (.missing field)

/-- **A whole number.** -/
def whole (field : String) : Json → Except FieldProblem Int
  | .int i => .ok i
  | .bool b => .ok (if b then 1 else 0)
  | .float x =>
    match x.isIntegral, x.truncate? with
    | true, some i => .ok i
    | _, some _ => .error (.fractional field)
    | _, none => .error (.notFinite field)
  | .text s =>
    let cs := s.toList
    if (cs.filter isPlainDigit).length > maxDigits && (strictWhole? cs).isSome then
      .error (.tooManyDigits field)
    else match wholeOfText? cs with
      | some i => .ok i
      | none => .error (.notWhole field)
  | _ => .error (.notInteger field)

/-- A whole number between two bounds. -/
def wholeWithin (field : String) (least most : Int) (j : Json) : Except FieldProblem Int := do
  let i ← whole field j
  if most < i then .error (.above field most)
  else if i < least then .error (.below field least)
  else .ok i

/-- **A text.** -/
def text (field : String) : Json → Except FieldProblem String
  | .text s => .ok s
  | _ => .error (.notText field)

/-- A single character. -/
def character (field : String) (j : Json) : Except FieldProblem Char := do
  match (← text field j).toList with
  | [] => .error (.tooShort field)
  | [c] => .ok c
  | _ => .error (.tooLong field)

/-- **A truth value**, or a number or a word for one. -/
def truth (field : String) : Json → Except FieldProblem Bool
  | .bool b => .ok b
  | .int i =>
    if i = 0 then .ok false else if i = 1 then .ok true else .error (.unreadableTruth field)
  | .float x =>
    if x.isZero then .ok false
    else if x.equal .one then .ok true
    else if x.isIntegral then .error (.unreadableTruth field)
    else .error (.notTruth field)
  | .text s =>
    let word := s.map Char.toLower
    if word ∈ ["0", "off", "f", "false", "n", "no"] then .ok false
    else if word ∈ ["1", "on", "t", "true", "y", "yes"] then .ok true
    else .error (.unreadableTruth field)
  | _ => .error (.notTruth field)

/-- **One of a fixed choice of texts.** -/
def choice (field : String) (among : List String) : Json → Except FieldProblem String
  | .text s => if s ∈ among then .ok s else .error (.notAmong field among)
  | _ => .error (.notAmong field among)

/-- The elements of a list, each read as its kind, under the field and its position. -/
def elements {α : Type} (field : String) (read : String → Json → Except FieldProblem α) :
    Json → Except (List FieldProblem) (List α)
  | .list items =>
    let results := items.mapIdx fun i j => read (field ++ "." ++ toString i) j
    let problems := results.filterMap fun
      | .ok _ => none
      | .error p => some p
    let values := results.filterMap Except.toOption
    if problems.isEmpty then .ok values else .error problems
  | _ => .error [.notList field]

/-- **A path.** -/
def path (field : String) : Json → Except FieldProblem String
  | .text s => .ok s
  | _ => .error (.notPath field)

/-- A value of a field, read as its kind. -/
def field {α : Type} (given : String → Option Json) (name : String)
    (read : String → Json → Checked α) : Checked α := do
  read name (← required name (given name))

/-- A value of a field that may be left out. -/
def fieldOr {α : Type} (given : String → Option Json) (name : String)
    (read : String → Json → Checked α) (usual : α) : Checked α :=
  match given name with
  | some j => read name j
  | none => .ok usual

/-- A result whose fields are right, or all problems of all fields in order. -/
def collect {α : Type} (problems : List FieldProblem) (result : Checked α) :
    Except (List FieldProblem) α :=
  match problems, result with
  | [], .ok a => .ok a
  | [], .error p => .error [p]
  | ps, _ => .error ps

end Given

end Crosswalk
