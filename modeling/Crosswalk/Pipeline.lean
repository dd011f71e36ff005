import Crosswalk.Aggregation
import Crosswalk.Formula.Compiled

/-!
# Pipelines

A pipeline is a list of steps.  Every step turns the rows that the one before it left into new rows.

* `Step` — keeping rows, computing the focus of every row, and aggregating.
* `Step.apply` — one step.
* `applySteps` — **the steps in order.**
* `pipeline` — the steps in order, with failures that name the focus.
-/

namespace Crosswalk

/-- **A step of a pipeline.** -/
inductive Step where
  /-- An aggregation of the rows. -/
  | aggregate (aggregation : Aggregation)
  /-- The rows on which a formula is true. -/
  | filter (source : String)
  /-- Every row with the value of a formula under the focus. -/
  | map (source : String)
  deriving DecidableEq, Repr

namespace Step

/-- The rows on which a formula is true. -/
def keep (f : Formula) : List Row → Except Error (List Row)
  | [] => .ok []
  | row :: rows => do
    let v ← f.evaluate row
    let kept ← keep f rows
    .ok (if v.isTrue then row :: kept else kept)

/-- A row with the value of a formula under the focus. -/
def computeRow (f : Formula) (focus : String) (row : Row) : Except Error Row := do
  let v ← f.evaluate row
  .ok (row.set focus (← Aggregation.uncaught v.format))

/-- **One step of a pipeline.** -/
def apply (focus : String) (group : Option String) (rows : List Row) :
    Step → Except Error (List Row)
  | filter source => do keep (← Formula.compile source) rows
  | map source => do
    let f ← Formula.compile source
    rows.mapM (computeRow f focus)
  | aggregate a => a.apply focus group rows

end Step

/-- **The steps of a pipeline in order.** -/
def applySteps (focus : String) (group : Option String) :
    List Step → List Row → Except Error (List Row)
  | [], rows => .ok rows
  | step :: steps, rows => do applySteps focus group steps (← step.apply focus group rows)

/-- A failure of a step that does not say where it happened gets the label of the node. -/
def Error.atNode (label : String) : Error → Error
  | .evaluation problem none => .evaluation problem (some label)
  | e => e

/-- **A pipeline over rows**, for the node with the label `focus`. -/
def pipeline (focus : String) (group : Option String) (steps : List Step) (rows : List Row) :
    Except Error (List Row) :=
  (applySteps focus group steps rows).mapError (Error.atNode focus)

end Crosswalk
