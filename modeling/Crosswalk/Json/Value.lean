import Crosswalk.Number.Numeral
import Crosswalk.Text.Quoted

/-!
# JSON values and their texts

* `Json` — **a JSON value.**  Whole numbers and doubles are told apart, and an object keeps the
  order of its members.
* `Json.escapedText` — a text between quotes, with or without its characters beyond ASCII.
* `Json.compact`, `Json.indented` — **the two ways to write a value**: on one line, and with one
  member or element a line.
-/

namespace Crosswalk

/-- **A JSON value.** -/
inductive Json where
  | null
  | bool (b : Bool)
  | int (i : Int)
  | float (x : Binary64)
  | text (s : String)
  | list (items : List Json)
  | object (members : List (String × Json))

namespace Json

/-- A member of an object. -/
def get? (name : String) : Json → Option Json
  | object members => members.lookup name
  | _ => none

/-! ## Writing -/

/-- The escape of one unit of sixteen bits. -/
def unitEscape (n : Nat) : List Char := '\\' :: 'u' :: hexDigits 4 n

/-- A character beyond ASCII by its units of sixteen bits. -/
def asciiEscape (c : Char) : List Char :=
  let n := c.toNat
  if n < 0x10000 then unitEscape n
  else
    let rest := n - 0x10000
    unitEscape (0xD800 + rest / 0x400) ++ unitEscape (0xDC00 + rest % 0x400)

/-- A character inside of a text.  Quotes, backslashes and control characters are escaped, and with
`asciiOnly` whatever is no printable ASCII character. -/
def escapeChar (asciiOnly : Bool) (c : Char) : List Char :=
  if c = '"' then ['\\', '"']
  else if c = '\\' then ['\\', '\\']
  else if c = '\n' then ['\\', 'n']
  else if c = '\r' then ['\\', 'r']
  else if c = '\t' then ['\\', 't']
  else if c.toNat = 0x0C then ['\\', 'f']
  else if c.toNat = 0x08 then ['\\', 'b']
  else if c.toNat < 0x20 then unitEscape c.toNat
  else if asciiOnly && 0x7F ≤ c.toNat then asciiEscape c
  else [c]

/-- **A text between quotes.** -/
def escapedText (asciiOnly : Bool) (s : String) : List Char :=
  '"' :: (s.toList.flatMap (escapeChar asciiOnly) ++ ['"'])

/-- A double: the fewest digits that read back, and words for the values that are no numbers. -/
def doubleText : Binary64 → List Char
  | .nan => "NaN".toList
  | .infinite negative => (if negative then "-Infinity" else "Infinity").toList
  | x => (x.text .number).toList

/-- A whole number. -/
def wholeText (i : Int) : List Char := (if i < 0 then ['-'] else []) ++ Nat.toDigits 10 i.natAbs

/-- A value that is neither a list nor an object. -/
def scalarText (asciiOnly : Bool) : Json → List Char
  | null => "null".toList
  | bool b => (if b then "true" else "false").toList
  | int i => wholeText i
  | float x => doubleText x
  | text s => escapedText asciiOnly s
  | list _ | object _ => []

/-- What stands between two members or elements; nothing behind the last one. -/
def separator {α : Type} (sep : List Char) (rest : List α) : List Char :=
  if rest.isEmpty then [] else sep

mutual

/-- A value on one line, with ASCII characters alone. -/
def compactChars : Json → List Char
  | list items => '[' :: compactItems items
  | object members => '\x7b' :: compactMembers members
  | null => scalarText true null
  | bool b => scalarText true (bool b)
  | int i => scalarText true (int i)
  | float x => scalarText true (float x)
  | text s => scalarText true (text s)

/-- The elements of a list up to its end. -/
def compactItems : List Json → List Char
  | [] => [']']
  | v :: vs => compactChars v ++ (separator [',', ' '] vs ++ compactItems vs)

/-- The members of an object up to its end. -/
def compactMembers : List (String × Json) → List Char
  | [] => ['\x7d']
  | (name, v) :: rest =>
    escapedText true name ++ (':' :: ' ' ::
      (compactChars v ++ (separator [',', ' '] rest ++ compactMembers rest)))

end

/-- **A value on one line.** -/
def compact (v : Json) : String := String.ofList v.compactChars

/-- The start of a line at a depth. -/
def newLine (depth : Nat) : List Char := '\n' :: List.replicate (2 * depth) ' '

mutual

/-- A value with one member or element a line, two blanks deeper than its surroundings. -/
def indentedChars (depth : Nat) : Json → List Char
  | list items => if items.isEmpty then ['[', ']'] else '[' :: indentedItems depth items
  | object members =>
    if members.isEmpty then ['\x7b', '\x7d'] else '\x7b' :: indentedMembers depth members
  | null => scalarText false null
  | bool b => scalarText false (bool b)
  | int i => scalarText false (int i)
  | float x => scalarText false (float x)
  | text s => scalarText false (text s)

/-- The elements of a list up to its end, each on a line of its own. -/
def indentedItems (depth : Nat) : List Json → List Char
  | [] => newLine depth ++ [']']
  | v :: vs =>
    newLine (depth + 1) ++ (indentedChars (depth + 1) v ++
      (separator [','] vs ++ indentedItems depth vs))

/-- The members of an object up to its end, each on a line of its own. -/
def indentedMembers (depth : Nat) : List (String × Json) → List Char
  | [] => newLine depth ++ ['\x7d']
  | (name, v) :: rest =>
    newLine (depth + 1) ++ (escapedText false name ++ (':' :: ' ' ::
      (indentedChars (depth + 1) v ++ (separator [','] rest ++ indentedMembers depth rest))))

end

/-- **A value with one member or element a line.** -/
def indented (v : Json) : String := String.ofList (v.indentedChars 0)

end Json

end Crosswalk
