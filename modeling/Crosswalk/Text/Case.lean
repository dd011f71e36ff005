import Crosswalk.Text.CaseTables

/-!
# Upper and lower case

The full case mappings: one character may become several, and the lower case of the capital sigma
depends on whether it ends a word.

* `upperText`, `lowerText` — the two mappings of a text.
* `endsWord` — the capital sigma at the end of a word: some cased letter before it and none after,
  characters such as apostrophes and marks being skipped.
-/

namespace Crosswalk

/-- The image of a code point under a table of runs, if it is in one. -/
def mapByRuns (runs : Array (Nat × Nat × Nat × Int)) (n : Nat) : Option Nat :=
  (runs.find? fun (lo, hi, step, _) => lo ≤ n && n ≤ hi && (n - lo) % step == 0).map
    fun (_, _, _, shift) => (n + shift).toNat

/-- The upper-case form of a character. -/
def upperChar (c : Char) : List Char :=
  if c.toNat < 0x80 then [c.toUpper]
  else match upperExpansions.find? (·.1 == c.toNat) with
    | some (_, form) => form.map Char.ofNat
    | none => [((mapByRuns upperRuns c.toNat).map Char.ofNat).getD c]

/-- The lower-case form of a character, apart from the capital sigma at the end of a word. -/
def lowerChar (c : Char) : List Char :=
  if c.toNat < 0x80 then [c.toLower]
  else if c.toNat = 0x130 then ['i', Char.ofNat 0x307]
  else [((mapByRuns lowerRuns c.toNat).map Char.ofNat).getD c]

/-- Skipped over when looking for the letters around a sigma. -/
def isCaseIgnorable (c : Char) : Bool :=
  caseIgnorableRanges.any fun (lo, hi) => lo ≤ c.toNat && c.toNat ≤ hi

/-- A letter that has case. -/
def isCased (c : Char) : Bool := casedRanges.any fun (lo, hi) => lo ≤ c.toNat && c.toNat ≤ hi

/-- Whether the nearest character that is not skipped has case. -/
def nextIsCased (cs : List Char) : Bool :=
  ((cs.dropWhile isCaseIgnorable).head?.map isCased).getD false

/-- The place of a sigma between `before` (nearest first) and `after` is the end of a word. -/
def endsWord (before after : List Char) : Bool := nextIsCased before && !nextIsCased after

/-- The lower case of the characters `after`, given those before them, nearest first. -/
def lowerChars (before : List Char) : List Char → List Char
  | [] => []
  | c :: after =>
    (if c.toNat = 0x3a3 then [Char.ofNat (if endsWord before after then 0x3c2 else 0x3c3)]
      else lowerChar c) ++ lowerChars (c :: before) after

/-- **The upper case of a text.** -/
def upperText (s : String) : String := String.ofList (s.toList.flatMap upperChar)

/-- **The lower case of a text.** -/
def lowerText (s : String) : String := String.ofList (lowerChars [] s.toList)

end Crosswalk
