import Crosswalk.Log.Traced
import Crosswalk.Source.Basic
import Crosswalk.Source.Column
import Crosswalk.Text.Lines

/-!
# Delimited files

A delimited file holds records of fields.  A field between double quotes may hold delimiters and
line ends, and a doubled quote stands for one; what follows behind the closing quote belongs to the
field.

* `Scan` — **how far a record has been read.**
* `Scan.step` — one more character, or the end of a line.
* `Delimited.records` — **the records of the lines of a file.**
* `Delimited.items` — **the pairs in two columns of records.**
* `Delimited.read` — the stream of pairs in two columns of a file.
-/

namespace Crosswalk.Delimited

/-- Where a character stands in a record. -/
inductive Spot where
  /-- In front of everything. -/
  | start
  /-- In front of a field. -/
  | fieldStart
  /-- In a field. -/
  | field
  /-- Between quotes. -/
  | quoted
  /-- Behind a quote between quotes. -/
  | quote
  /-- In the end of the line. -/
  | lineEnd
  deriving DecidableEq, Repr

/-- **How far a record has been read.** -/
structure Scan where
  spot : Spot := .start
  /-- The characters of the field, last one first. -/
  field : List Char := []
  /-- How many characters the field has. -/
  size : Nat := 0
  /-- The fields in front of it, last one first. -/
  fields : List String := []

namespace Scan

/-- The field is complete. -/
def save (s : Scan) (spot : Spot) : Scan :=
  ⟨spot, [], 0, String.ofList s.field.reverse :: s.fields⟩

/-- One more character of the field, if it may have one. -/
def push (s : Scan) (c : Char) (spot : Spot) : Option Scan :=
  if maxFieldLength ≤ s.size then none
  else some { s with spot, field := c :: s.field, size := s.size + 1 }

/-- A character in front of a field or in a field without quotes. -/
def plain (s : Scan) (delimiter c : Char) : Option Scan :=
  if c = '\n' || c = '\r' then some (s.save .lineEnd)
  else if c = delimiter then some (s.save .fieldStart)
  else s.push c .field

/-- **One more character**, if its field does not become too long. -/
def step (delimiter : Char) (s : Scan) (c : Char) : Option Scan :=
  match s.spot with
  | .start =>
    if c = '\n' || c = '\r' then some { s with spot := .lineEnd }
    else if c = '"' then some { s with spot := .quoted }
    else s.plain delimiter c
  | .fieldStart => if c = '"' then some { s with spot := .quoted } else s.plain delimiter c
  | .field => s.plain delimiter c
  | .quoted => if c = '"' then some { s with spot := .quote } else s.push c .quoted
  | .quote =>
    if c = '"' then s.push c .quoted
    else if c = delimiter then some (s.save .fieldStart)
    else s.plain delimiter c
  | .lineEnd => some s

/-- **The end of a line.**  Between quotes the record goes on. -/
def finishLine (s : Scan) : Scan :=
  match s.spot with
  | .start => s
  | .fieldStart | .field | .quote => s.save .start
  | .quoted => s
  | .lineEnd => { s with spot := .start }

/-- One more line. -/
def line (delimiter : Char) (s : Scan) (cs : List Char) : Option Scan :=
  (cs.foldlM (step delimiter) s).map finishLine

/-- The fields of a record that is complete. -/
def record (s : Scan) : List String := s.fields.reverse

end Scan

/-- What a line brings to its end. -/
inductive Outcome where
  /-- A record that ends with a line. -/
  | record (line : Nat) (fields : List String)
  /-- A field that is too long. -/
  | longField (line : Nat)
  /-- Bytes behind a line that are no text. -/
  | notText (line : Nat)
  /-- A file that cannot be read any further. -/
  | unread (cause : Cause)
  deriving DecidableEq, Repr

/-- Whether nothing comes behind an outcome: what is left of the file cannot be read. -/
def Outcome.isLast : Outcome → Bool
  | record _ _ | longField _ => false
  | notText _ | unread _ => true

/-- **The records of lines**, and at the end what became of the text: a record that is still open
ends with the text, and is lost if the text breaks off. -/
def records (delimiter : Char) (isWhole : Bool) : Nat → Scan → List (List Char) → List Outcome
  | n, s, [] =>
    if !isWhole then [.notText n]
    else if s.spot = .quoted then [.record n (s.save .start).record]
    else []
  | n, s, line :: lines =>
    match s.line delimiter line with
    | none => .longField (n + 1) :: records delimiter isWhole (n + 1) {} lines
    | some s =>
      if s.spot = .start then
        .record (n + 1) s.record :: records delimiter isWhole (n + 1) {} lines
      else records delimiter isWhole (n + 1) s lines

/-- The records of the bytes of a file. -/
def recordsOfBytes (delimiter : Char) (bytes : List UInt8) : List Outcome :=
  let (cs, isWhole) := readText bytes
  let lines := splitLines cs
  records delimiter isWhole 0 {} (if isWhole then lines else completeLines lines)

/-- The pair of a record; an empty record has none. -/
def itemOf (source : String) (columns : Columns) : Outcome → Option Item
  | .record _ [] => none
  | .record n fields => some (pairOf source ("line " ++ toString n) columns fields)
  | .longField n => some (.error (.source (.longField n) (some source)))
  | .notText n => some (.error (.source (.notText n) (some source)))
  | .unread cause => some (.error (.source (.readFailed cause) (some source)))

/-- **The pairs in two columns of records**, up to the first outcome that nothing comes behind. -/
def items (source : String) (columns : Columns) : List Outcome → List Item
  | [] => []
  | o :: rest =>
    (itemOf source columns o).toList ++ if o.isLast then [] else items source columns rest

/-- The headings in front of the records, and the records. -/
def takeHeadings (source : String) : List Outcome → Except Error (List String × List Outcome)
  | [] => .ok ([], [])
  | .record _ fields :: rest => .ok (fields, rest)
  | .longField _ :: _ => .error (.source (.unreadableHeadings .longField) (some source))
  | .notText _ :: _ => .error (.source (.unreadableHeadings .malformedBytes) (some source))
  | .unread cause :: _ => .error (.plain cause)

/-- **The stream of pairs in two columns of a delimited file.** -/
def read (fs : Files) (file : FileSource) (delimiter : Char) (hasHeadings : Bool)
    (keyPosition valuePosition : String) : Traced Stream := do
  let (place, bytes) ← Traced.of (file.opened fs)
  let all := recordsOfBytes delimiter bytes
  let (headings, outcomes) ←
    if hasHeadings then do
      let (headings, rest) ← Traced.of (takeHeadings file.name all)
      pure (some headings, rest)
    else pure (none, all)
  let columns ← Traced.of (Columns.resolve file.name keyPosition valuePosition headings)
  Traced.note .debug "datasources.csv_reader"
    ("Opened CSV " ++ place.text ++ " (key=" ++ toString columns.key ++ ", value=" ++
      toString columns.value ++ ", headers=" ++ (if hasHeadings then "True" else "False") ++ ")")
  return .ofItems file.name (items file.name columns outcomes)

end Crosswalk.Delimited
