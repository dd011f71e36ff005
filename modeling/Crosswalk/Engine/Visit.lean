import Crosswalk.Engine.Join
import Crosswalk.Log.Traced
import Crosswalk.Mapping.Record
import Crosswalk.Pipeline
import Crosswalk.Query.Tree
import Crosswalk.Source.Catalog
import Crosswalk.Source.Read

/-!
# Visiting nodes

A node of a query tree is visited when its children have been.  What its children hand on is joined
with the pairs of the joins from it to its parent; a leaf starts from these pairs.  Then its steps
are applied.  What comes out are its rows, and if there was a join, they are what it hands on.

* `World` — **what an evaluation asks for**: joins, sources, and what is in them.
* `NodeResult` — the rows of a node, and what it hands on.
* `visit` — **the result of a node** from what its children hand on.
* `World.waits` — how often reading the sources of a node has to wait.
-/

namespace Crosswalk

/-- **What an evaluation asks for.** -/
structure World where
  /-- The joins from one attribute to another. -/
  joins : (head tail : String) → Except Error (List JoinEdge)
  /-- The sources that are known. -/
  sources : Catalog
  /-- The pairs of a source, with the positions of keys and values. -/
  read : Source → (key value : String) → Traced Stream

namespace World

/-- The world of a catalog, files, and joins. -/
def ofFiles (files : Files) (sources : Catalog)
    (joins : (head tail : String) → Except Error (List JoinEdge)) : World :=
  ⟨joins, sources, fun source key value => source.read files key value⟩

end World

/-- **The rows of a node, and what it hands on to its parent.** -/
structure NodeResult where
  rows : List Row
  contribution : List Row
  deriving DecidableEq, Repr

/-- Where the entries of the log about evaluations come from. -/
def engineSource : String := "engine"

/-- What a join that names an unknown source is told. -/
def unknownSourceContext (w : World) (child parent : QueryNode) : String :=
  let known := ", ".intercalate w.sources.names
  edgeText child.name parent.name ++ " at node " ++ child.label ++ "; known: " ++
    (if known.isEmpty then "none" else known)

/-- The pairs of some joins behind pairs that are read already. -/
def readJoins (w : World) (child parent : QueryNode) (pairs : List Pair) :
    List JoinEdge → Traced (List Pair)
  | [] => return pairs
  | e :: es => do
    match w.sources.find? e.datasource with
    | none =>
      Traced.of (.error (.unknownSource e.datasource (unknownSourceContext w child parent)))
    | some source => do
      let stream ← w.read source e.key e.value
      let more ← Traced.of (stream.collect.1.mapM id)
      let pairs := pairs ++ more
      Traced.note .trace engineSource
        ("Read " ++ toString pairs.length ++ " pairs from " ++ e.datasource)
      readJoins w child parent pairs es

/-- The pairs of all joins from a node to its parent, if there is a join. -/
def edgePairs (w : World) (child parent : QueryNode) : Traced (Option (List Pair)) := do
  let edges ← Traced.of (w.joins child.name parent.name)
  Traced.note .trace engineSource ("Edge " ++ child.label ++ " => " ++ parent.label ++ " (" ++
    toString edges.length ++ " join edges)")
  if edges.isEmpty then return none
  else return some (← readJoins w child parent [] edges)

/-- The row of a pair. -/
def rowOfPair (label parent : String) (p : Pair) : Row :=
  (Row.empty.set label p.key).set parent p.value

/-- The rows of a node before its steps. -/
def startRows (t : QueryTree) (parent : String) (incoming : List Row) (pairs : List Pair) :
    List Row :=
  if t.isLeaf then pairs.map (rowOfPair t.label parent)
  else joinRows incoming pairs t.label parent

/-- The result of a node whose pairs are known. -/
def resultOf (t : QueryTree) (parent : Option QueryNode) (incoming : List Row)
    (pairs : Option (List Pair)) : Except Error NodeResult :=
  match parent, pairs with
  | some p, some pairs => do
    let rows ← pipeline t.label (some p.label) t.own.steps (startRows t p.label incoming pairs)
    .ok ⟨rows, rows⟩
  | _, _ => do .ok ⟨← pipeline t.label none t.own.steps incoming, []⟩

/-- **The result of a node** from what its children hand on. -/
def visit (w : World) (parent : Option QueryNode) (t : QueryTree) (incoming : List Row) :
    Traced NodeResult :=
  Traced.atNode t.label do
    Traced.note .debug engineSource ("Evaluating " ++ t.label)
    let pairs ← match parent with
      | some p => edgePairs w t.own p
      | none => pure none
    Traced.of (resultOf t parent incoming pairs)

/-! ## Waiting -/

/-- How many batches of items are waited for, up to the first failure. -/
def batchesUntilFailure (items : List Item) : Nat :=
  let good := items.takeWhile fun
    | .ok _ => true
    | .error _ => false
  good.length / batchSize + 1

/-- How often reading joins has to wait, up to the first failure. -/
def World.waitsFor (w : World) : List JoinEdge → Nat
  | [] => 0
  | e :: es =>
    match (w.sources.find? e.datasource).map fun source => (w.read source e.key e.value).result with
    | some (.ok stream) =>
      let items := stream.collect.1
      batchesUntilFailure items +
        (if items.all fun
          | .ok _ => true
          | .error _ => false
        then w.waitsFor es else 0)
    | _ => 0

/-- **How often visiting a node has to wait.** -/
def World.waits (w : World) (parent : Option QueryNode) (t : QueryTree) : Nat :=
  match parent.map fun p => w.joins t.own.name p.name with
  | some (.ok edges) => w.waitsFor edges
  | _ => 0

end Crosswalk
