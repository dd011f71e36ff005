/-!
# The characters and names of documents

* `isLegal` — the characters that a document may hold.
* `takeName` — a name at the start of a text.
* `QualifiedName` — **a name with its prefix**, split at its first colon.
-/

namespace Crosswalk.Xml

/-- A blank of the markup. -/
def isSpace (c : Char) : Bool := c = ' ' || c = '\t' || c = '\n' || c = '\r'

/-- A text without its leading blanks. -/
def skipSpace (cs : List Char) : List Char := cs.dropWhile isSpace

/-- What comes after at least one blank. -/
def space? : List Char → Option (List Char)
  | c :: cs => if isSpace c then some (skipSpace cs) else none
  | [] => none

/-- **A character that a document may hold.** -/
def isLegal (c : Char) : Bool :=
  let n := c.toNat
  (0x20 ≤ n && n ≤ 0xFFFD) || 0x10000 ≤ n || n = 0x9 || n = 0xA || n = 0xD

/-- The ranges of characters that a name may start with, colons aside. -/
def nameStarts : List (Nat × Nat) :=
  [(0x41, 0x5A), (0x5F, 0x5F), (0x61, 0x7A), (0xC0, 0xD6), (0xD8, 0xF6), (0xF8, 0x2FF),
   (0x370, 0x37D), (0x37F, 0x1FFF), (0x200C, 0x200D), (0x2070, 0x218F), (0x2C00, 0x2FEF),
   (0x3001, 0xD7FF), (0xF900, 0xFDCF), (0xFDF0, 0xFFFD), (0x10000, 0xEFFFF)]

/-- The further ranges that a name may go on with. -/
def nameTails : List (Nat × Nat) :=
  [(0x2D, 0x2E), (0x30, 0x39), (0xB7, 0xB7), (0x300, 0x36F), (0x203F, 0x2040)]

/-- Whether a character lies in one of some ranges. -/
def isWithin (ranges : List (Nat × Nat)) (c : Char) : Bool :=
  ranges.any fun (lo, hi) => lo ≤ c.toNat && c.toNat ≤ hi

/-- Whether a name may start with a character. -/
def startsName (c : Char) : Bool := c = ':' || isWithin nameStarts c

/-- Whether a name may go on with a character. -/
def continuesName (c : Char) : Bool := startsName c || isWithin nameTails c

/-- A name at the start of a text, and what comes after it. -/
def takeName : List Char → Option (String × List Char)
  | c :: cs =>
    if startsName c then
      some (String.ofList (c :: cs.takeWhile continuesName), cs.dropWhile continuesName)
    else none
  | [] => none

/-- A word at the start of a text, which unlike a name may start with any of its characters. -/
def takeWord (cs : List Char) : Option (String × List Char) :=
  match cs.takeWhile continuesName with
  | [] => none
  | word => some (String.ofList word, cs.dropWhile continuesName)

/-- **A name with its prefix.** -/
structure QualifiedName where
  /-- What stands in front of the first colon. -/
  qualifier : Option String
  /-- What stands behind it, or the whole name. -/
  part : String

/-- The qualified name of a name, if both of its parts are names without a colon. -/
def QualifiedName.ofName? (name : String) : Option QualifiedName :=
  let cs := name.toList
  match cs.takeWhile (· != ':'), cs.dropWhile (· != ':') with
  | _, [] => some ⟨none, name⟩
  | [], _ => none
  | before, _ :: behind =>
    match behind with
    | c :: _ =>
      if isWithin nameStarts c && !behind.contains ':' then
        some ⟨some (String.ofList before), String.ofList behind⟩
      else none
    | [] => none

end Crosswalk.Xml
