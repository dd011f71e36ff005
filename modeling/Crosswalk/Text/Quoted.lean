import Crosswalk.Text.Printable

/-!
# Quoted text

How messages show a text exactly: between quotes, with everything that is not shown as it is
written as an escape.

* `quoteMark` — a text is put between apostrophes, unless it holds one and no double quote.
* `escapeChar` — the three named escapes, the backslash and the chosen quote behind a backslash,
  and `\x`, `\u`, `\U` with two, four and eight hexadecimal digits for hidden characters.
* `quoted` — the whole.
-/

namespace Crosswalk

/-- The last `width` hexadecimal digits of `n`, in lower case. -/
def hexDigits (width n : Nat) : List Char :=
  let digits := Nat.toDigits 16 n
  List.replicate (width - digits.length) '0' ++ digits

/-- The quote that a text is put between: the apostrophe, unless the text holds an apostrophe and
no double quote. -/
def quoteMark (s : List Char) : Char :=
  if s.contains '\'' && !s.contains '"' then '"' else '\''

/-- The form of one character between the quotes `mark`. -/
def escapeChar (mark c : Char) : List Char :=
  if c = mark || c = '\\' then ['\\', c]
  else if c = '\n' then ['\\', 'n']
  else if c = '\r' then ['\\', 'r']
  else if c = '\t' then ['\\', 't']
  else if isShown c then [c]
  else if c.toNat < 0x100 then ['\\', 'x'] ++ hexDigits 2 c.toNat
  else if c.toNat < 0x10000 then ['\\', 'u'] ++ hexDigits 4 c.toNat
  else ['\\', 'U'] ++ hexDigits 8 c.toNat

/-- **A quoted text.** -/
def quoted (s : String) : String :=
  let cs := s.toList
  let mark := quoteMark cs
  String.ofList (mark :: cs.flatMap (escapeChar mark) ++ [mark])

/-- A list of quoted texts between brackets, as headings are shown in messages. -/
def quotedList (xs : List String) : String :=
  "[" ++ ", ".intercalate (xs.map quoted) ++ "]"

end Crosswalk
