import Crosswalk.Error
import Crosswalk.Json.Value

/-!
# Reading JSON

A text is one value, with blanks around it.  Numbers that are no whole numbers, and the words `NaN`,
`Infinity` and `-Infinity`, are doubles.  Of a member that an object has twice, the last value
counts, at the place of the first.  Texts are made of whole characters, and half of a surrogate pair
is taken for the replacement character.

* `Json.readText` — a text up to its closing quote.
* `Json.readValue` — a value, and what comes after it.
* `Json.ofText` — **the value of a whole text.**
-/

namespace Crosswalk.Json

/-- The blanks between the parts of a text. -/
def isSpace (c : Char) : Bool := c = ' ' || c = '\t' || c = '\n' || c = '\r'

/-- A text without its leading blanks. -/
def skipSpace (cs : List Char) : List Char := cs.dropWhile isSpace

/-- The value of a hexadecimal digit. -/
def hexValue? (c : Char) : Option Nat :=
  if '0' ≤ c ∧ c ≤ '9' then some (c.toNat - '0'.toNat)
  else if 'a' ≤ c ∧ c ≤ 'f' then some (c.toNat - 'a'.toNat + 10)
  else if 'A' ≤ c ∧ c ≤ 'F' then some (c.toNat - 'A'.toNat + 10)
  else none

/-- The unit of sixteen bits that four hexadecimal digits are. -/
def unit? (a b c d : Char) : Option Nat := do
  let a ← hexValue? a
  let b ← hexValue? b
  let c ← hexValue? c
  let d ← hexValue? d
  some (((a * 16 + b) * 16 + c) * 16 + d)

/-- The first unit of a character of two units. -/
def isHighUnit (n : Nat) : Bool := 0xD800 ≤ n && n ≤ 0xDBFF

/-- The second unit of a character of two units. -/
def isLowUnit (n : Nat) : Bool := 0xDC00 ≤ n && n ≤ 0xDFFF

/-- The character of a unit.  Texts hold whole characters: half of one, which is never written, is
read as the replacement character, and so one half is not told from another. -/
def unitChar (n : Nat) : Char :=
  if isHighUnit n || isLowUnit n then Char.ofNat 0xFFFD else Char.ofNat n

/-- The character that a letter behind a backslash stands for. -/
def shortEscape? : Char → Option Char
  | '"' => some '"'
  | '\\' => some '\\'
  | '/' => some '/'
  | 'b' => some (Char.ofNat 0x08)
  | 'f' => some (Char.ofNat 0x0C)
  | 'n' => some '\n'
  | 'r' => some '\r'
  | 't' => some '\t'
  | _ => none

/-- **A text up to its closing quote**, and what comes after it. -/
def readText : List Char → Option (List Char × List Char)
  | [] => none
  | '"' :: rest => some ([], rest)
  | '\\' :: 'u' :: a :: b :: c :: d :: '\\' :: 'u' :: e :: f :: g :: h :: rest =>
    match unit? a b c d, unit? e f g h with
    | some high, some low =>
      if isHighUnit high && isLowUnit low then do
        let (cs, after) ← readText rest
        some (Char.ofNat (0x10000 + (high - 0xD800) * 0x400 + (low - 0xDC00)) :: cs, after)
      else do
        let (cs, after) ← readText ('\\' :: 'u' :: e :: f :: g :: h :: rest)
        some (unitChar high :: cs, after)
    | some n, none => do
      let (cs, after) ← readText ('\\' :: 'u' :: e :: f :: g :: h :: rest)
      some (unitChar n :: cs, after)
    | none, _ => none
  | '\\' :: 'u' :: a :: b :: c :: d :: rest => do
    let n ← unit? a b c d
    let (cs, after) ← readText rest
    some (unitChar n :: cs, after)
  | '\\' :: e :: rest => do
    let c ← shortEscape? e
    let (cs, after) ← readText rest
    some (c :: cs, after)
  | c :: rest =>
    if c = '\\' || c.toNat < 0x20 then none
    else do
      let (cs, after) ← readText rest
      some (c :: cs, after)

/-- A decimal digit of ASCII. -/
def isDigit (c : Char) : Bool := '0' ≤ c && c ≤ '9'

/-- The digits in front of a point: a single zero, or digits that start with another. -/
def wholeDigits : List Char → Option (List Char × List Char)
  | '0' :: rest => some (['0'], rest)
  | c :: rest =>
    if isDigit c then some ((c :: rest).takeWhile isDigit, (c :: rest).dropWhile isDigit) else none
  | [] => none

/-- The digits behind a point. -/
def fractionDigits : List Char → List Char × List Char
  | '.' :: rest =>
    match rest.takeWhile isDigit with
    | [] => ([], '.' :: rest)
    | ds => (ds, rest.dropWhile isDigit)
  | rest => ([], rest)

/-- The exponent of a number, if there is one. -/
def exponentOf : List Char → Option Int × List Char
  | c :: rest =>
    if c = 'e' || c = 'E' then
      let (negative, ds) := takeSign rest
      match ds.takeWhile isDigit with
      | [] => (none, c :: rest)
      | digits =>
        let n : Int := (Nat.ofDigitChars 10 digits 0 : Nat)
        (some (if negative then -n else n), ds.dropWhile isDigit)
    else (none, c :: rest)
  | [] => (none, [])

/-- **A number**: whole, or a double if it has a fraction or an exponent. -/
def readNumber (cs : List Char) : Except Cause (Json × List Char) :=
  let (negative, body) := match cs with
    | '-' :: rest => (true, rest)
    | _ => (false, cs)
  match wholeDigits body with
  | none => .error .malformedJson
  | some (whole, rest) =>
    let (fraction, rest) := fractionDigits rest
    let (exponent, rest) := exponentOf rest
    if fraction.isEmpty && exponent.isNone then
      if maxDigits < whole.length then .error (.fault .wrongValue)
      else
        let n : Int := (Nat.ofDigitChars 10 whole 0 : Nat)
        .ok (int (if negative then -n else n), rest)
    else
      let digits := Nat.ofDigitChars 10 (whole ++ fraction) 0
      let x := Binary64.ofDecimal negative ⟨digits, exponent.getD 0 - fraction.length⟩
      .ok (float x, rest)

/-- A word, and what comes after it. -/
def word? (w : String) (cs : List Char) : Option (List Char) :=
  if w.toList.isPrefixOf cs then some (cs.drop w.length) else none

/-- A value that is neither a text nor a list nor an object. -/
def readScalar (cs : List Char) : Except Cause (Json × List Char) :=
  let words : List (String × Json) :=
    [("null", null), ("true", bool true), ("false", bool false), ("NaN", float .nan),
     ("Infinity", float (.infinite false)), ("-Infinity", float (.infinite true))]
  match words.findSome? fun (w, v) => (word? w cs).map fun rest => (v, rest) with
  | some result => .ok result
  | none => readNumber cs

/-- The members of an object with one more; a member that is there already gets the new value. -/
def putMember (name : String) (v : Json) : List (String × Json) → List (String × Json)
  | [] => [(name, v)]
  | (n, w) :: rest => if n = name then (n, v) :: rest else (n, w) :: putMember name v rest

mutual

/-- **A value**, and what comes after it. -/
def readValue : Nat → List Char → Except Cause (Json × List Char)
  | 0, _ => .error .malformedJson
  | fuel + 1, cs =>
    match cs with
    | '"' :: rest =>
      match readText rest with
      | some (s, after) => .ok (text (String.ofList s), after)
      | none => .error .malformedJson
    | '[' :: rest =>
      match skipSpace rest with
      | ']' :: after => .ok (list [], after)
      | rest => do
        let (items, after) ← readItems fuel rest
        .ok (list items, after)
    | '\x7b' :: rest =>
      match skipSpace rest with
      | '\x7d' :: after => .ok (object [], after)
      | rest => do
        let (members, after) ← readMembers fuel rest
        .ok (object (members.foldl (fun ms (name, v) => putMember name v ms) []), after)
    | _ => readScalar cs

/-- The elements of a list up to its end, at least one. -/
def readItems : Nat → List Char → Except Cause (List Json × List Char)
  | 0, _ => .error .malformedJson
  | fuel + 1, cs => do
    let (v, rest) ← readValue fuel cs
    match skipSpace rest with
    | ',' :: rest => do
      let (vs, after) ← readItems fuel (skipSpace rest)
      .ok (v :: vs, after)
    | ']' :: after => .ok ([v], after)
    | _ => .error .malformedJson

/-- The members of an object up to its end, at least one. -/
def readMembers : Nat → List Char → Except Cause (List (String × Json) × List Char)
  | 0, _ => .error .malformedJson
  | fuel + 1, cs =>
    match cs with
    | '"' :: rest =>
      match readText rest with
      | none => .error .malformedJson
      | some (name, rest) =>
        match skipSpace rest with
        | ':' :: rest => do
          let (v, rest) ← readValue fuel (skipSpace rest)
          match skipSpace rest with
          | ',' :: rest => do
            let (ms, after) ← readMembers fuel (skipSpace rest)
            .ok ((String.ofList name, v) :: ms, after)
          | '\x7d' :: after => .ok ([(String.ofList name, v)], after)
          | _ => .error .malformedJson
        | _ => .error .malformedJson
    | _ => .error .malformedJson

end

/-- **The value of a text.** -/
def ofChars (cs : List Char) : Except Cause Json :=
  match readValue (cs.length + 1) (skipSpace cs) with
  | .error e => .error e
  | .ok (v, rest) => if (skipSpace rest).isEmpty then .ok v else .error .malformedJson

/-- The value of a text. -/
def ofText (s : String) : Except Cause Json := ofChars s.toList

end Crosswalk.Json
