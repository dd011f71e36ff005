import Crosswalk.Log.Traced
import Crosswalk.Source.Basic
import Crosswalk.Source.Column

/-!
# Worksheets

A worksheet is a source of pairs: its rows are records of the texts of their cells.

* `Worksheet.sheetsOf` — the sheets of the workbook in a file.
* `Worksheet.items` — **the pairs in two columns of the rows of a sheet.**
* `Worksheet.read` — the stream of these pairs.
-/

namespace Crosswalk.Worksheet

/-- The endings of the names of workbooks. -/
def endings : List String := [".xlsx", ".xlsm", ".xltx", ".xltm"]

/-- The bytes that an archive without members consists of. -/
def emptyArchive : List UInt8 := [0x50, 0x4B, 0x05, 0x06] ++ List.replicate 18 0

/-- **The sheets of the workbook in a file.**  The name of the file is looked at first. -/
def sheetsOf (fs : Files) (place : Path) : Except Cause (List Sheet) :=
  if place.extension ∉ endings then .error .otherExtension
  else do
    match ← fs.read place with
    | .workbook sheets => .ok sheets
    | .bytes bs =>
      .error (if bs = emptyArchive then .missingMember "[Content_Types].xml" else .malformedArchive)

/-- **The pairs in two columns of rows.**  Rows without any text are counted and have no pair; the
first row has a number behind `n`. -/
def items (source : String) (columns : Columns) : (n : Nat) → List (List Cell) → List Item
  | _, [] => []
  | n, row :: rows =>
    let record := row.map Cell.toText
    if record.all String.isEmpty then items source columns (n + 1) rows
    else pairOf source ("row " ++ toString (n + 1)) columns record ::
      items source columns (n + 1) rows

/-- **The stream of pairs in two columns of a sheet.** -/
def read (fs : Files) (file : FileSource) (sheet : String) (hasHeadings : Bool)
    (keyPosition valuePosition : String) : Traced Stream := do
  let place ← Traced.of ((file.location fs).mapError .plain)
  let fail (problem : SourceProblem) : Error := .source problem (some file.name)
  let sheets ← Traced.of ((sheetsOf fs place).mapError fun cause =>
    fail (.unopened place.text cause))
  let rows ← match sheets.find? (·.name = sheet) with
    | some s => pure s.rows
    | none =>
      Traced.of (.error (fail (.missingSheet sheet place.text (sheets.map Sheet.name))))
  let headings := if hasHeadings then some ((rows.headD []).map Cell.toText) else none
  let columns ← Traced.of (Columns.resolve file.name keyPosition valuePosition headings)
  Traced.note .debug "datasources.excel_reader"
    ("Opened sheet " ++ place.text ++ "!" ++ sheet ++ " (key=" ++ toString columns.key ++
      ", value=" ++ toString columns.value ++ ")")
  return .ofItems file.name
    (if hasHeadings then items file.name columns 1 (rows.drop 1)
      else items file.name columns 0 rows)

end Crosswalk.Worksheet
