/-!
# Rows

A row gives a text to each of some labels.  The labels keep the order in which they came.

* `Row.get?` — the text of a label.
* `Row.set` — a row with the text of a label replaced or added.
-/

namespace Crosswalk

/-- **A row**: texts by label. -/
structure Row where
  /-- The labels with their texts. -/
  cells : List (String × String)
  deriving DecidableEq, Repr

namespace Row

/-- The row without labels. -/
def empty : Row := ⟨[]⟩

/-- The text of a label, if the row has it. -/
def get? (row : Row) (label : String) : Option String := row.cells.lookup label

/-- Whether the row has a label. -/
def has (row : Row) (label : String) : Bool := (row.get? label).isSome

/-- Cells with the text of a label replaced where it stands, or added at the end. -/
def setCells (label text : String) : List (String × String) → List (String × String)
  | [] => [(label, text)]
  | (l, t) :: cells => if l = label then (label, text) :: cells
    else (l, t) :: setCells label text cells

/-- **The row with the text of a label replaced or added.** -/
def set (row : Row) (label text : String) : Row := ⟨setCells label text row.cells⟩

/-- The row of some labels and texts; of a repeated label the last text counts. -/
def ofList (cells : List (String × String)) : Row :=
  cells.foldl (fun row (label, text) => row.set label text) empty

end Row

end Crosswalk
