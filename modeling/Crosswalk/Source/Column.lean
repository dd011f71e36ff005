import Crosswalk.Files
import Crosswalk.Number.Numeral
import Crosswalk.Source.Stream

/-!
# Columns

Which columns of a record hold the key and the value is said by numbers or by headings.

* `columnOf` — **the column that a position means.**
* `pairOf` — **the pair in two columns of a record.**
* `Cell.toText` — the text of a cell of a worksheet.
-/

namespace Crosswalk

/-- **The column that a position means.**  A position of digits is the number of a column, counted
from zero; any other is looked for among the headings.  Digit-like marks are no digits. -/
def columnOf (source position : String) (headings : Option (List String)) : Except Error Nat :=
  let token := trim position
  let wrong (problem : SourceProblem) : Except Error Nat := .error (.source problem (some source))
  if !token.isEmpty && token.toList.all isDigitLike then
    match readInteger? 10 token with
    | some i => .ok i.toNat
    | none => .error (.plain (.fault .wrongValue))
  else if token.isEmpty then wrong .emptyPosition
  else match headings with
    | none => wrong (.namedWithoutHeadings token)
    | some headings =>
      let headings := headings.map trim
      match headings.findIdx? (· = token) with
      | some i => .ok i
      | none => wrong (.unknownColumn token headings)

/-- Two columns. -/
structure Columns where
  key : Nat
  value : Nat
  deriving DecidableEq, Repr

/-- The columns that two positions mean; the first is looked at first. -/
def Columns.resolve (source keyPosition valuePosition : String)
    (headings : Option (List String)) : Except Error Columns := do
  let key ← columnOf source keyPosition headings
  let value ← columnOf source valuePosition headings
  .ok ⟨key, value⟩

/-- **The pair in two columns of a record**, which may be too short for it. -/
def pairOf (source place : String) (columns : Columns) (record : List String) : Item :=
  match record[columns.key]?, record[columns.value]? with
  | some key, some value => .ok ⟨key, value⟩
  | _, _ =>
    .error (.source (.shortRecord place record.length (max columns.key columns.value))
      (some source))

/-- **The text of a cell**: truth values as words, and doubles that are whole as whole numbers. -/
def Cell.toText : Cell → String
  | empty => ""
  | bool b => if b then "true" else "false"
  | int i => toString i
  | float x =>
    match x.isIntegral, x.truncate? with
    | true, some i => toString i
    | _, _ => x.text .number
  | text s => s
  | moment iso => iso

end Crosswalk
