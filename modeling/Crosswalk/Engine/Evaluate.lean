import Crosswalk.Engine.Levels
import Crosswalk.Engine.Visit

/-!
# Evaluating query trees

Every node of a query tree is visited after its children.  One after the other is one way to do it;
another is to visit all nodes of the same height together, since none of them is above another.

* `Results` — the results of the nodes that have been visited.
* `evaluateInOrder`, `evaluateByLevels` — **both ways.**
* `OutputRecord` — what is reported of a node.
* `evaluate` — **the report of a query tree.**
-/

namespace Crosswalk

/-- How the nodes of a tree are visited. -/
inductive EvaluationMode where
  /-- One after the other. -/
  | sequential
  /-- Those of the same height together. -/
  | concurrent
  deriving DecidableEq, Repr

namespace EvaluationMode

/-- The name of a mode. -/
def name : EvaluationMode → String
  | sequential => "sequential"
  | concurrent => "concurrent"

/-- The modes. -/
def all : List EvaluationMode := [sequential, concurrent]

/-- The mode with a name. -/
def ofName (s : String) : Except Error EvaluationMode :=
  match all.find? fun m => m.name = s with
  | some m => .ok m
  | none => .error (.unknownEvaluationMode s)

end EvaluationMode

/-- **What is reported of a node.** -/
structure OutputRecord where
  label : String
  name : String
  values : List String
  deriving DecidableEq, Repr

/-! ## Results -/

/-- **The results of nodes** by their labels, latest first. -/
abbrev Results := List (String × NodeResult)

namespace Results

/-- The rows that a node has. -/
def rowsOf (rs : Results) (label : String) : List Row :=
  ((rs.lookup label).map NodeResult.rows).getD []

/-- What the children of a node hand on, child by child. -/
def incoming (rs : Results) (t : QueryTree) : List Row :=
  t.children.flatMap fun c => ((rs.lookup c.label).map NodeResult.contribution).getD []

end Results

/-- Parents by the labels of their children. -/
abbrev Parents := List (String × QueryNode)

/-- The parents in a list of nodes. -/
def parentsOf (order : List QueryTree) : Parents :=
  order.flatMap fun t => t.children.map fun c => (c.label, t.own)

/-- A node visited when its children have been. -/
def visitNext (w : World) (parents : Parents) (rs : Results) (t : QueryTree) : Traced NodeResult :=
  visit w (parents.lookup t.label) t (rs.incoming t)

/-! ## One after the other -/

/-- **Nodes visited one after the other.** -/
def evaluateInOrder (w : World) (parents : Parents) (rs : Results) :
    List QueryTree → Traced Results
  | [] => return rs
  | t :: ts => do
    let r ← visitNext w parents rs t
    evaluateInOrder w parents ((t.label, r) :: rs) ts

/-! ## Those of the same height together -/

/-- A node that is visited together with others: how long it waits, and what comes of it. -/
structure Attempt where
  label : String
  waits : Nat
  outcome : Traced NodeResult

/-- The order in which attempts come to an end. -/
abbrev Completion := List Attempt → List Attempt

/-- Attempts that wait less come to an end earlier. -/
def byWaiting : Completion := fun attempts => attempts.mergeSort fun a b => a.waits ≤ b.waits

/-- The failure of an attempt. -/
def Attempt.failure? (a : Attempt) : Option Error :=
  match a.outcome.result with
  | .ok _ => none
  | .error e => some e

/-- The results of attempts, all of which have succeeded. -/
def resultsOf (attempts : List Attempt) : Results :=
  attempts.filterMap fun a =>
    match a.outcome.result with
    | .ok r => some (a.label, r)
    | .error _ => none

/-- **Attempts made together**: the results of all, or the first failure that comes. -/
def together (completion : Completion) (attempts : List Attempt) : Traced Results :=
  ⟨attempts.flatMap fun a => a.outcome.log,
    match (completion attempts).findSome? Attempt.failure? with
    | some e => .error e
    | none => .ok (resultsOf attempts).reverse⟩

/-- The attempts of a level. -/
def attemptsAt (w : World) (parents : Parents) (rs : Results) (level : List QueryTree) :
    List Attempt :=
  level.map fun t => ⟨t.label, w.waits (parents.lookup t.label) t, visitNext w parents rs t⟩

/-- **Nodes visited level by level.** -/
def evaluateByLevels (w : World) (completion : Completion) (parents : Parents) (rs : Results) :
    List (List QueryTree) → Traced Results
  | [] => return rs
  | level :: levels => do
    let more ← together completion (attemptsAt w parents rs level)
    evaluateByLevels w completion parents (more ++ rs) levels

/-! ## The report -/

/-- The values that are reported of a node. -/
def valuesOf (label : String) (rows : List Row) : List String := rows.filterMap (Row.get? · label)

/-- **The report of the nodes of a list.** -/
def report (order : List QueryTree) (rs : Results) : List OutputRecord :=
  (order.filter fun t => t.own.output).map fun t =>
    ⟨t.label, t.own.name, valuesOf t.label (rs.rowsOf t.label)⟩

/-- The results of all nodes of a tree. -/
def resultsIn (mode : EvaluationMode) (w : World) (completion : Completion)
    (order : List QueryTree) : Traced Results :=
  match mode with
  | .sequential => evaluateInOrder w (parentsOf order) [] order
  | .concurrent => evaluateByLevels w completion (parentsOf order) [] (heightLevels order)

/-- The report of a query tree, when attempts come to an end in some order. -/
def evaluateWith (completion : Completion) (mode : EvaluationMode) (w : World) (tree : QueryTree) :
    Traced (List OutputRecord) := do
  let order := tree.walk
  Traced.note .info engineSource ("Evaluating query rooted at " ++ tree.label ++ " (" ++
    toString order.length ++ " nodes, " ++ mode.name ++ ")")
  let rs ← resultsIn mode w completion order
  let output := report order rs
  Traced.note .info engineSource
    ("Evaluation finished: " ++ toString output.length ++ " output nodes")
  return output

/-- **The report of a query tree.** -/
def evaluate (mode : EvaluationMode) (w : World) (tree : QueryTree) : Traced (List OutputRecord) :=
  evaluateWith byWaiting mode w tree

end Crosswalk
