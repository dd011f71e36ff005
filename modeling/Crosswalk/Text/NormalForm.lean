import Crosswalk.Text.NormalTables

/-!
# Normal forms of names

The same name can be written with different characters: with letters of another width or style, or
with marks behind their letters instead of one character for both.  In normal form every character
is replaced by those that it stands for, marks behind a letter are put in the order of their
classes, and what can be composed is composed.

* `NormalForm.parts` — **the characters that a character stands for.**
* `NormalForm.orderMarks` — marks in the order of their classes.
* `NormalForm.compose` — **letters composed with the marks behind them.**
* `normalForm` — **the normal form of a name.**
-/

namespace Crosswalk

namespace NormalForm

/-! ## Syllables -/

/-- The first syllable that is composed of a lead, a vowel and a tail. -/
def firstSyllable : Nat := 0xAC00

/-- The first lead, the first vowel, and the character in front of the first tail. -/
def firstLead : Nat := 0x1100

/-- The first vowel of a syllable. -/
def firstVowel : Nat := 0x1161

/-- The character in front of the first tail, which stands for no tail. -/
def noTail : Nat := 0x11A7

/-- How many leads there are. -/
def leads : Nat := 19

/-- How many vowels there are. -/
def vowels : Nat := 21

/-- How many tails there are, with no tail among them. -/
def tails : Nat := 28

/-- The parts of a syllable, if a code point is one. -/
def syllableParts? (n : Nat) : Option (List Nat) :=
  if n < firstSyllable || firstSyllable + leads * vowels * tails ≤ n then none
  else
    let i := n - firstSyllable
    let front := [firstLead + i / (vowels * tails), firstVowel + i % (vowels * tails) / tails]
    some (if i % tails = 0 then front else front ++ [noTail + i % tails])

/-- The syllable of a lead and a vowel, or of a syllable without a tail and a tail. -/
def syllable? (a b : Nat) : Option Nat :=
  if firstLead ≤ a && a < firstLead + leads && firstVowel ≤ b && b < firstVowel + vowels then
    some (firstSyllable + ((a - firstLead) * vowels + (b - firstVowel)) * tails)
  else if firstSyllable ≤ a && a < firstSyllable + leads * vowels * tails &&
      (a - firstSyllable) % tails = 0 && noTail < b && b < noTail + tails then
    some (a + (b - noTail))
  else none

/-! ## Parts -/

/-- The parts of a code point in a table. -/
def partsIn (table : List (List Nat)) (n : Nat) : Option (List Nat) :=
  (table.find? fun entry => entry.head? = some n).map List.tail

/-- The code point that one of a run stands for. -/
def shifted? (n : Nat) : Option Nat :=
  shiftedRuns.findSome? fun
    | [lo, hi, target] => if lo ≤ n && n ≤ hi then some (target + (n - lo)) else none
    | _ => none

/-- **The code points that a code point stands for.** -/
def parts (n : Nat) : List Nat :=
  ((((syllableParts? n).orElse fun _ => (shifted? n).map fun m => [m]).orElse
    fun _ => partsIn replacedChars n).orElse fun _ => partsIn composedChars n).getD [n]

/-! ## Marks -/

/-- The class of a mark; what is no mark has class zero. -/
def markClass (n : Nat) : Nat :=
  (markRuns.findSome? fun
    | [lo, hi, k] => if lo ≤ n && n ≤ hi then some k else none
    | _ => none).getD 0

/-- A mark put in front of the marks of higher classes that a text ends with; the text comes last
one first. -/
def insertMark (n : Nat) : List Nat → List Nat
  | [] => [n]
  | m :: ms =>
    if markClass n != 0 && markClass n < markClass m then m :: insertMark n ms else n :: m :: ms

/-- **Marks in the order of their classes.**  Marks of one class keep their order. -/
def orderMarks (ns : List Nat) : List Nat :=
  (ns.foldl (fun done n => insertMark n done) []).reverse

/-! ## Composition -/

/-- The code point that two code points compose, of which the first may be composed itself. -/
def composed? (a b : Nat) : Option Nat :=
  (syllable? a b).orElse fun _ =>
    let wanted := (partsIn composedChars a).getD [a] ++ [b]
    (composedChars.find? fun entry => entry.tail = wanted).bind List.head?

/-- A letter composed with what follows it.  The marks that stay behind it come last one first, and
`last` is the class of the last of them; a mark behind one of its class or of a higher class is
not composed. -/
def composeFrom (letter : Nat) (marks : List Nat) (last : Nat) : List Nat → List Nat
  | [] => letter :: marks.reverse
  | n :: ns =>
    let k := markClass n
    match if marks.isEmpty || last < k then composed? letter n else none with
    | some both => composeFrom both marks last ns
    | none =>
      if k = 0 then letter :: (marks.reverse ++ composeFrom n [] 0 ns)
      else composeFrom letter (n :: marks) k ns

/-- **Letters composed with the marks behind them.** -/
def compose : List Nat → List Nat
  | [] => []
  | n :: ns => composeFrom n [] 0 ns

end NormalForm

/-- **The normal form of a name.** -/
def normalForm (name : String) : String :=
  let ns := name.toList.map Char.toNat
  if ns.all (· < 0x80) then name
  else
    String.ofList
      ((NormalForm.compose (NormalForm.orderMarks (ns.flatMap NormalForm.parts))).map Char.ofNat)

end Crosswalk
