import Crosswalk.Text.Quoted
import Crosswalk.Text.Search

/-!
# Texts in canonical layout

The canonical text of a tree depends on where it stands.  No backslash may stand in the field of a
quotation, and so a text there is put between quotes that need none, if there are any.  Both texts
of a tree are made at once.

* `Layout` — the text of a tree outside the fields of quotations and in one.
* `unwritable` — the mark of a part that has no text.
* `fitted` — the contents of a quotation and the quotes that fit around them.
* `Layout.ofText`, `Layout.ofStretches` — **a text and a text with fields.**
-/

namespace Crosswalk.Formula

/-- **The text of a tree** outside the fields of quotations and in one. -/
structure Layout where
  outside : String
  inside : String

namespace Layout

/-- A text that is the same in either place. -/
def same (s : String) : Layout := ⟨s, s⟩

instance : Coe String Layout := ⟨same⟩

instance : Append Layout := ⟨fun a b => ⟨a.outside ++ b.outside, a.inside ++ b.inside⟩⟩

/-- Texts with a separator between them. -/
def intercalate (separator : String) (parts : List Layout) : Layout :=
  ⟨separator.intercalate (parts.map outside), separator.intercalate (parts.map inside)⟩

end Layout

/-- The mark of a part of a tree that has no text, in place of its text.  Texts have it nowhere
else: they hold characters that are not shown as escapes. -/
def unwritable : Char := '\x00'

/-! ## Quotes -/

/-- The quotes that a text can stand between, in the order in which they are tried. -/
def quotes : List (List Char) := [['\''], ['"'], ['"', '"', '"'], ['\'', '\'', '\'']]

/-- A character of a text between quotes that need no escape.  Line ends and tabs are kept where
they may be. -/
def keptChar (spaces : Bool) (c : Char) : List Char :=
  if spaces && (c = '\n' || c = '\t') then [c] else escapeChar '\\' c

/-- The quotes fit around a text that does not hold them; line ends stand between three of them
only. -/
def fits (body quote : List Char) : Bool :=
  (quote.length = 3 || !body.contains '\n') && !occursIn quote body

/-- **The contents of a quotation and the quotes that fit around them**, out of given ones.  Those
that do not begin as the contents end come first, and if there are no others, the last character is
escaped.  If none fits, the contents are escaped for quotes of one character. -/
def fitted (spaces : Bool) (among : List (List Char)) (cs : List Char) :
    List Char × List (List Char) :=
  let body := cs.flatMap (keptChar spaces)
  match among.filter (fits body), body.getLast? with
  | [], _ =>
    let mark := quoteMark cs
    (cs.flatMap (escapeChar mark), [(among.find? (·.contains mark)).getD [mark]])
  | fitting, none => (body, fitting)
  | fitting, some last =>
    let (ending, others) := fitting.partition (·.head? == some last)
    (if others.isEmpty then body.dropLast ++ ['\\', last] else body, others ++ ending)

/-- Contents between the first quotes that fit around them. -/
def enclosed : List Char × List (List Char) → String
  | (body, fitting) => let quote := fitting.head?.getD []; String.ofList (quote ++ body ++ quote)

/-- A text; the mark `u` is kept. -/
def Layout.ofText (s : String) (marked : Bool) : Layout :=
  (if marked then "u" else "") ++ ⟨quoted s, enclosed (fitted true quotes s.toList)⟩

/-! ## Texts with fields -/

/-- A stretch of a quotation with fields. -/
inductive Stretch where
  /-- Characters outside the fields, braces doubled. -/
  | text (cs : List Char)
  /-- A field with its braces. -/
  | field (cs : List Char)
  /-- A field that has no text. -/
  | unwritten

namespace Stretch

/-- The characters of a stretch. -/
def chars : Stretch → List Char
  | text cs | field cs => cs
  | unwritten => []

/-- A field. -/
def isField : Stretch → Bool
  | text _ => false
  | field _ | unwritten => true

/-- A field that has no text. -/
def isUnwritten : Stretch → Bool
  | text _ | field _ => false
  | unwritten => true

/-- A stretch in front of others.  Texts behind each other are one, and an empty one is none. -/
def before : Stretch → List Stretch → List Stretch
  | text [], ss => ss
  | text cs, text ds :: ss => text (cs ++ ds) :: ss
  | s, ss => s :: ss

/-- The contents of stretches and the quotes that fit around all of them: every stretch leaves those
that fit around it.  Nothing when none is left. -/
def fittedAll : List (List Char) → List Stretch → Option (List Char × List (List Char))
  | among, [] => some ([], among)
  | among, s :: ss => do
    let (body, fitting) := fitted s.isField among s.chars
    if fitting.all (!among.contains ·) then none
    let (more, fitting) ← fittedAll fitting ss
    some (body ++ more, fitting)

end Stretch

/-- **A text with fields.**  In a field its contents are fitted as a whole, and elsewhere every
stretch of them.  Where a field has no text, the whole has none. -/
def Layout.ofStretches (ss : List Stretch) : Layout :=
  if ss.any Stretch.isUnwritten then String.singleton unwritable
  else
    let cs := ss.flatMap Stretch.chars
    let whole := (Stretch.fittedAll quotes ss).getD
      (cs.flatMap (escapeChar '\''), [['\'', '\'', '\'']])
    "f" ++ ⟨enclosed whole, enclosed (fitted true quotes cs)⟩

end Crosswalk.Formula
