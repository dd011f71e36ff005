/-!
# Blank characters

The white space that is stripped from labels, fields and values: the ASCII controls that move the
cursor, the four information separators, and the spaces and line ends above ASCII.

* `isBlank` — the test.
* `trim`, `trimLeft`, `trimRight` — a text without its blank ends.
-/

namespace Crosswalk

/-- **A blank character.** -/
def isBlank (c : Char) : Bool :=
  let n := c.toNat
  (9 ≤ n && n ≤ 13) || (28 ≤ n && n ≤ 32) || n == 0x85 || n == 0xa0 || n == 0x1680 ||
    (0x2000 ≤ n && n ≤ 0x200a) || n == 0x2028 || n == 0x2029 || n == 0x202f || n == 0x205f ||
    n == 0x3000

/-- A list of characters without the blanks at both ends. -/
def trimChars (cs : List Char) : List Char :=
  ((cs.dropWhile isBlank).reverse.dropWhile isBlank).reverse

/-- **A text without the blanks at both ends.** -/
def trim (s : String) : String := String.ofList (trimChars s.toList)

/-- A text of blanks only; the empty text is one. -/
def isBlankText (s : String) : Bool := s.toList.all isBlank

end Crosswalk
