import Crosswalk.Formula.Arithmetic

/-!
# Texts as templates

A text with a percent sign in it is a template: each directive behind a percent sign is replaced by
a value, written as the directive says.  A template takes as many values as it has directives.  Two
percent signs stand for one.

* `Directive` — the flags, the width, the precision and the letter of a directive.
* `Value.plainText` — the plain text of a value, as the letter `s` writes it.
* `Value.fill` — **the whole**: the template with its directives replaced.
-/

namespace Crosswalk

/-- **A directive of a template.** -/
structure Directive where
  /-- `-`: padding goes to the right. -/
  left : Bool := false
  /-- `+`: numbers above zero have a sign. -/
  plus : Bool := false
  /-- A space: numbers above zero have a space for a sign. -/
  blank : Bool := false
  /-- `#`: the base or the point is shown. -/
  alternate : Bool := false
  /-- `0`: numbers are padded with zeros. -/
  zeros : Bool := false
  /-- The least number of characters. -/
  width : Option Nat := none
  /-- The number of digits, or the most characters of a text. -/
  precision : Option Nat := none

/-- The largest precision. -/
def maxDirectivePrecision : Nat := Nat.pow 2 31 - 1

namespace Value

/-! ## Plain texts -/

/-- The text of a value as a literal shows it, texts without quotes. -/
def plainText : Value → Outcome String
  | absent => .ok "None"
  | bool b => .ok (if b then "True" else "False")
  | int i => intText i
  | float x => .ok (x.text .number)
  | complex re im => .ok (complexText re im)
  | text s => .ok s

/-- The text of a value as a literal shows it. -/
def literalText : Value → Outcome String
  | text s => .ok (quoted s)
  | v => plainText v

/-- The form of a character with ASCII characters alone. -/
def asciiForm (c : Char) : List Char :=
  if c.toNat < 0x80 then [c]
  else if c.toNat < 0x100 then ['\\', 'x'] ++ hexDigits 2 c.toNat
  else if c.toNat < 0x10000 then ['\\', 'u'] ++ hexDigits 4 c.toNat
  else ['\\', 'U'] ++ hexDigits 8 c.toNat

/-! ## Numbers -/

/-- The whole number that a directive for whole numbers writes: the whole part of a double, unless
the base is shown by digits beyond nine or by eights. -/
def templateInt (decimal : Bool) : Value → Outcome Int
  | float x =>
    if !decimal then .error .wrongType
    else match x.truncate? with
      | some i => .ok i
      | none => .error (if x.isNaN then .wrongValue else .outOfRange)
  | v =>
    match v.asInt? with
    | some i => .ok i
    | none => .error .wrongType

/-- A whole number as sign, base mark and digits, with leading zeros up to the precision. -/
def templateDigits (d : Directive) (letter : Char) (i : Int) : Outcome String := do
  let digits ← match letter with
    | 'o' => .ok (Nat.toDigits 8 i.natAbs)
    | 'x' => .ok (Nat.toDigits 16 i.natAbs)
    | 'X' => .ok ((Nat.toDigits 16 i.natAbs).map Char.toUpper)
    | _ => do .ok (← intText i.natAbs).toList
  let mark := if d.alternate && ['o', 'x', 'X'].contains letter then ['0', letter] else []
  let zeros := List.replicate (d.precision.getD 0 - digits.length) '0'
  .ok (String.ofList ((if i < 0 then ['-'] else []) ++ mark ++ zeros ++ digits))

/-- A double as a directive for doubles writes it. -/
def templateDouble (d : Directive) (letter : Char) (x : Binary64) : String :=
  let upper := letter.isUpper
  let places := d.precision.getD 6
  let body := match x with
    | .nan => "nan".toList
    | .infinite _ => "inf".toList
    | .finite _ m =>
      match letter.toLower with
      | 'f' => m.fixedText places d.alternate
      | 'e' => m.exponentForm places d.alternate 'e'
      | _ => m.generalForm places d.alternate 'e'
  let body := if upper then body.map Char.toUpper else body
  String.ofList ((if x.isNegative then ['-'] else []) ++ body)

/-- The character that a directive for characters writes: the one of a text of one character, or
the one with a given code point. -/
def templateChar : Value → Outcome String
  | text s => if s.length = 1 then .ok s else .error .wrongType
  | v =>
    match v.asInt? with
    | none => .error .wrongType
    | some i =>
      if i < 0 ∨ 0x110000 ≤ i then .error .outOfRange
      else
        let n := i.toNat
        .ok (String.singleton (if n.isValidChar then Char.ofNat n else Char.ofNat 0xfffd))

/-! ## Padding -/

/-- A text cut to the precision and padded to the width. -/
def padText (d : Directive) (s : String) : String :=
  let cs := s.toList
  let cs := match d.precision with
    | some p => cs.take p
    | none => cs
  let pad := List.replicate (d.width.getD 0 - cs.length) ' '
  String.ofList (if d.left then cs ++ pad else pad ++ cs)

/-- A number padded to the width: zeros stand behind its sign and the mark of its base, spaces
outside of both. -/
def padNumber (d : Directive) (letter : Char) (s : String) : String :=
  let (sign, body) := match s.toList with
    | '-' :: cs => (['-'], cs)
    | cs => (if d.plus then ['+'] else if d.blank then [' '] else [], cs)
  let marked := d.alternate && ['o', 'x', 'X'].contains letter
  let (mark, digits) := if marked then (body.take 2, body.drop 2) else ([], body)
  let missing := d.width.getD 0 - (sign.length + body.length)
  let inner := if d.zeros && !d.left then List.replicate missing '0' else []
  let outer := if d.zeros && !d.left then [] else List.replicate missing ' '
  let all := sign ++ mark ++ inner ++ digits
  String.ofList (if d.left then all ++ outer else outer ++ all)

/-! ## Directives -/

/-- The flags in front of a directive. -/
def takeFlags (d : Directive) : List Char → Directive × List Char
  | '-' :: cs => takeFlags { d with left := true } cs
  | '+' :: cs => takeFlags { d with plus := true } cs
  | ' ' :: cs => takeFlags { d with blank := true } cs
  | '#' :: cs => takeFlags { d with alternate := true } cs
  | '0' :: cs => takeFlags { d with zeros := true } cs
  | cs => (d, cs)

/-- The number that digits write, zero for none, and what follows; too large a number is
refused. -/
def takeSize (limit : Nat) (cs : List Char) : Outcome (Option Nat × List Char) :=
  let ds := cs.takeWhile Char.isDigit
  let n := digitsValue 10 (ds.map fun c => c.toNat - 48)
  if limit < n then .error .wrongValue
  else .ok (if ds.isEmpty then none else some n, cs.dropWhile Char.isDigit)

/-- A text of one directive, given its letter and the value. -/
def applyDirective (d : Directive) (letter : Char) (v : Value) : Outcome String :=
  match letter with
  | 's' => do .ok (padText d (← plainText v))
  | 'r' => do .ok (padText d (← literalText v))
  | 'a' => do
    let s ← literalText v
    .ok (padText d (String.ofList (s.toList.flatMap asciiForm)))
  | 'c' => do .ok (padText { d with precision := none } (← templateChar v))
  | 'd' | 'i' | 'u' => do
    .ok (padNumber d letter (← templateDigits d letter (← templateInt true v)))
  | 'o' | 'x' | 'X' => do
    .ok (padNumber d letter (← templateDigits d letter (← templateInt false v)))
  | 'e' | 'E' | 'f' | 'F' | 'g' | 'G' => do
    match v with
    | complex _ _ => .error .wrongType
    | v => .ok (padNumber d letter (templateDouble d letter (← v.toDouble)))
  | _ => .error .wrongValue

/-- The whole number that a star in a directive stands for, and the values behind it. -/
def starSize : List Value → Outcome (Int × List Value)
  | [] => .error .wrongType
  | v :: vs =>
    match v.asInt? with
    | some i => .ok (i, vs)
    | none => .error .wrongType

/-- A directive behind its percent sign: its flags, width, precision and letter.  A star takes one
of the values that are left. -/
def readDirective (vs : List Value) (cs : List Char) :
    Outcome (Directive × List Value × Char × List Char) := do
  if cs.head? = some '(' then .error .wrongType
  let (d, cs) := takeFlags {} cs
  let (d, vs, cs) ← match cs with
    | '*' :: rest => do
      let (i, vs) ← starSize vs
      if !isCount i then .error .outOfRange
      .ok ({ d with left := d.left || decide (i < 0), width := some i.natAbs }, vs, rest)
    | _ => do
      let (w, rest) ← takeSize maxCount cs
      .ok ({ d with width := w }, vs, rest)
  let (d, vs, cs) ← match cs with
    | '.' :: '*' :: rest => do
      let (i, vs) ← starSize vs
      if (maxDirectivePrecision : Int) < i ∨ i < -(maxDirectivePrecision : Int) - 1 then
        .error .outOfRange
      .ok ({ d with precision := some i.toNat }, vs, rest)
    | '.' :: rest => do
      let (p, rest) ← takeSize maxDirectivePrecision rest
      .ok ({ d with precision := some (p.getD 0) }, vs, rest)
    | _ => .ok (d, vs, cs)
  let cs := match cs with
    | c :: rest => if ['h', 'l', 'L'].contains c then rest else c :: rest
    | [] => []
  match cs with
  | letter :: rest => .ok (d, vs, letter, rest)
  | [] => .error .wrongValue

/-- The rest of a template with the values that are left, by a bound on its percent signs. -/
def fillRest : Nat → List Value → List Char → Outcome (List Char)
  | 0, _, _ => .ok []
  | fuel + 1, vs, cs =>
    let plain := cs.takeWhile (· != '%')
    match cs.dropWhile (· != '%') with
    | [] => if vs.isEmpty then .ok plain else .error .wrongType
    | _ :: '%' :: rest => do .ok (plain ++ '%' :: (← fillRest fuel vs rest))
    | _ :: cs => do
      let (d, vs, letter, rest) ← readDirective vs cs
      match vs with
      | [] => .error .wrongType
      | v :: vs => do
        let s ← applyDirective d letter v
        .ok (plain ++ s.toList ++ (← fillRest fuel vs rest))

/-- **A template with its values.** -/
def fill (template : String) (vs : List Value) : Outcome String := do
  .ok (String.ofList (← fillRest (template.length + 1) vs template.toList))

/-- The remainder of numbers, or a template with its value. -/
def mod (l r : Value) : Outcome Value :=
  match l with
  | text s => do .ok (text (← fill s [r]))
  | _ => numberMod l r

end Value

end Crosswalk
