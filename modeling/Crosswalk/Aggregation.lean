import Crosswalk.Error
import Crosswalk.Formula.Functions
import Crosswalk.Row

/-!
# Aggregations

An aggregation reduces rows on one label, the focus: over all rows at once, or over each group of
rows that share the text of a further label.

* `Aggregation` — the reductions, and `Aggregation.ofToken?` for their names.
* `groupRows` — **the groups of rows**, in the order of the first appearance of their texts.
* `Aggregation.reduce` — an aggregation over all rows.
* `Aggregation.apply` — **an aggregation over all rows or over groups of them.**
-/

namespace Crosswalk

/-- **The reductions of rows.** -/
inductive Aggregation where
  /-- The first row with the least focus. -/
  | min
  /-- The first row with the greatest focus. -/
  | max
  /-- The sum of the numbers under the focus. -/
  | sum
  /-- Their sum divided by how many there are. -/
  | average
  /-- The number of rows. -/
  | count
  /-- The first row. -/
  | any
  deriving DecidableEq, Repr

namespace Aggregation

/-- The name of an aggregation. -/
def name : Aggregation → String
  | min => "min"
  | max => "max"
  | sum => "sum"
  | average => "average"
  | count => "count"
  | any => "any"

/-- All aggregations. -/
def all : List Aggregation := [min, max, sum, average, count, any]

/-- **The aggregation of a token**, whose case and surrounding blanks do not count. -/
def ofToken? (token : String) : Option Aggregation :=
  let id := lowerText (trim token)
  all.find? fun a => a.name = id

/-! ## Reductions -/

/-- A failure of a computation outside of a formula. -/
def uncaught {α : Type} : Outcome α → Except Error α
  | .ok a => .ok a
  | .error f => .error (.plain (.fault f))

/-- **The numbers under the focus**; a row without the focus has none, and any other text is
refused. -/
def numbers (a : Aggregation) (focus : String) : List Row → Except Error (List Value)
  | [] => .ok []
  | row :: rows =>
    match row.get? focus with
    | none => numbers a focus rows
    | some raw => do
      let v ← uncaught (Value.ofField raw)
      if v.isNumber then .ok (v :: (← numbers a focus rows))
      else .error (.evaluation (.nonNumeric a.name raw) none)

/-- The sum of numbers, from left to right.  Doubles are added one by one: what a step loses by
rounding is not made up for later. -/
def total : Value → List Value → Outcome Value
  | acc, [] => .ok acc
  | acc, v :: vs => do total (← acc.add v) vs

/-- The row with a single label. -/
def rowOf (focus text : String) : Row := ⟨[(focus, text)]⟩

/-- The sum of numbers, or their mean, as rows: none if there are no numbers. -/
def computed (mean : Bool) (focus : String) (vs : List Value) : Except Error (List Row) :=
  if vs.isEmpty then .ok []
  else uncaught do
    let t ← total (.int 0) vs
    let v ← if mean then t.div (.int vs.length) else .ok t
    .ok [rowOf focus (← v.format)]

/-- Whether a key comes strictly before another in the wanted order. -/
def before (wanted : Ordering) (k best : Value) : Outcome Bool := do
  .ok ((← k.compare? best) == some wanted)

/-- The first of the rows whose key no other key comes before. -/
def bestRow (wanted : Ordering) (best : Value × Row) : List (Value × Row) → Outcome Row
  | [] => .ok best.2
  | candidate :: rest => do
    bestRow wanted (if ← before wanted candidate.1 best.1 then candidate else best) rest

/-- The rows with the focus, and the text that they have there. -/
def candidates (focus : String) (rows : List Row) : List (String × Row) :=
  rows.filterMap fun row => (row.get? focus).map fun raw => (raw, row)

/-- The keys of texts: their numbers if all are numerals, and else the texts themselves. -/
def keys (raws : List String) : Outcome (List Value) := do
  let values ← raws.mapM Value.ofField
  .ok (if values.all Value.isNumber then values else raws.map .text)

/-- **The first row with an extreme focus**: `.lt` wants the least one, `.gt` the greatest. -/
def extreme (wanted : Ordering) (focus : String) (rows : List Row) : Except Error (List Row) :=
  let found := candidates focus rows
  uncaught do
    let ks ← keys (found.map Prod.fst)
    match ks.zip (found.map Prod.snd) with
    | [] => .ok []
    | first :: rest => do .ok [← bestRow wanted first rest]

/-- **An aggregation over all rows.**  No rows have no aggregate, but their number is zero. -/
def reduce (a : Aggregation) (focus : String) (rows : List Row) : Except Error (List Row) :=
  match a with
  | count => .ok [rowOf focus (toString rows.length)]
  | any => .ok (rows.take 1)
  | min => extreme .lt focus rows
  | max => extreme .gt focus rows
  | sum => do computed false focus (← numbers a focus rows)
  | average => do computed true focus (← numbers a focus rows)

end Aggregation

/-! ## Groups -/

/-- The text that a row is grouped by; a row without the label counts as having the empty text. -/
def Row.groupText (row : Row) (label : String) : String := (row.get? label).getD ""

/-- The groups with one more row, at the end of its group. -/
def addToGroup (text : String) (row : Row) : List (String × List Row) → List (String × List Row)
  | [] => [(text, [row])]
  | (t, members) :: groups =>
    if t = text then (t, members ++ [row]) :: groups
    else (t, members) :: addToGroup text row groups

/-- **The groups of rows by the text of a label**, in the order of first appearance. -/
def groupRows (label : String) (rows : List Row) : List (String × List Row) :=
  rows.foldl (fun groups row => addToGroup (row.groupText label) row groups) []

/-- A row with its group noted on it, unless it has the label. -/
def Row.noteGroup (row : Row) (label text : String) : Row :=
  if row.has label then row else row.set label text

namespace Aggregation

/-- An aggregation over each of some groups. -/
def reduceGroups (a : Aggregation) (focus label : String) :
    List (String × List Row) → Except Error (List Row)
  | [] => .ok []
  | (text, members) :: groups => do
    let reduced ← a.reduce focus members
    let others ← reduceGroups a focus label groups
    .ok (reduced.map (·.noteGroup label text) ++ others)

/-- **An aggregation over all rows, or over each group of them.** -/
def apply (a : Aggregation) (focus : String) (group : Option String) (rows : List Row) :
    Except Error (List Row) :=
  match group with
  | none => a.reduce focus rows
  | some label => a.reduceGroups focus label (groupRows label rows)

end Aggregation

end Crosswalk
