import Crosswalk.Error
import Crosswalk.Json.Equality
import Crosswalk.Json.Reader

/-!
# Graphs

A graph of nodes and edges with data.  Both ends of an edge are nodes.  Edges have a direction, and
there may be several between the same nodes, told apart by a key; a graph that comes from elsewhere
may be without directions, or without parallel edges.

* `Graph` — **nodes and edges in the order in which they were added.**
* `Graph.addNode`, `Graph.addEdge` — **the graph with more data**; what is there already is kept.
* `Graph.between` — the data of the edges between two nodes.
* `Graph.degreeOut` — how many edges lead away from a node.
* `Graph.listed` — all edges, those of one node together.
-/

namespace Crosswalk

/-- Data by name. -/
abbrev Members := List (String × Json)

/-- A node: its name, which may be more than a text, and its data. -/
structure Node where
  id : Json
  data : Members

/-- An edge between two nodes, with its key and its data. -/
structure Edge where
  head : Json
  tail : Json
  key : Json
  data : Members

/-- **A graph.** -/
structure Graph where
  isDirected : Bool := true
  /-- Whether there may be several edges between the same nodes. -/
  isParallel : Bool := true
  /-- Data of the graph itself. -/
  data : Json := .object []
  nodes : List Node := []
  edges : List Edge := []

/-- Data with more data: names that are there keep their places and get the new values. -/
def Members.update (old new : Members) : Members :=
  new.foldl (fun ms (name, v) => Json.putMember name v ms) old

namespace Graph

/-- The graph without nodes. -/
def empty : Graph := {}

/-- The node with a name. -/
def node? (g : Graph) (id : Json) : Option Node := g.nodes.find? fun n => n.id.equals id

/-- Whether there is a node with a name. -/
def hasNode (g : Graph) (id : Json) : Bool := (g.node? id).isSome

/-- Whether an edge goes from one node to another. -/
def joins (g : Graph) (head tail : Json) (e : Edge) : Bool :=
  (e.head.equals head && e.tail.equals tail) ||
    (!g.isDirected && e.head.equals tail && e.tail.equals head)

/-- The nodes with more data for one of them. -/
def putNode (id : Json) (data : Members) : List Node → List Node
  | [] => [⟨id, Members.update [] data⟩]
  | n :: ns =>
    if n.id.equals id then { n with data := Members.update n.data data } :: ns
    else n :: putNode id data ns

/-- **The graph with a node and its data.**  A node that is there keeps its place. -/
def addNode (g : Graph) (id : Json) (data : Members) : Graph :=
  { g with nodes := putNode id data g.nodes }

/-- The graph with the node at the end of an edge. -/
def ensureNode (g : Graph) (id : Json) : Graph := if g.hasNode id then g else g.addNode id []

/-- The edges between two nodes. -/
def edgesBetween (g : Graph) (head tail : Json) : List Edge := g.edges.filter (g.joins head tail)

/-- The first number from `n` on that is no key; as much fuel as there are keys is enough. -/
def freeKey (keys : List Json) : (fuel : Nat) → (n : Nat) → Nat
  | 0, n => n
  | fuel + 1, n => if keys.any (·.equals (.int n)) then freeKey keys fuel (n + 1) else n

/-- The key of a new edge between two nodes. -/
def newKey (g : Graph) (head tail : Json) : Json :=
  let keys := (g.edgesBetween head tail).map Edge.key
  .int (freeKey keys (keys.length + 1) keys.length)

/-- The edges with more data for one of them. -/
def putEdge (same : Edge → Bool) (e : Edge) : List Edge → List Edge
  | [] => [{ e with data := Members.update [] e.data }]
  | f :: fs =>
    if same f then { f with data := Members.update f.data e.data } :: fs else f :: putEdge same e fs

/-- **The graph with an edge and its data.**  Without a key it is a new edge, unless the graph has
no parallel edges. -/
def addEdge (g : Graph) (head tail : Json) (key : Option Json) (data : Members) : Graph :=
  let g := (g.ensureNode head).ensureNode tail
  if g.isParallel then
    let key := key.getD (g.newKey head tail)
    let same (e : Edge) : Bool := g.joins head tail e && e.key.equals key
    { g with edges := putEdge same ⟨head, tail, key, data⟩ g.edges }
  else { g with edges := putEdge (g.joins head tail) ⟨head, tail, .null, data⟩ g.edges }

/-- **What is known between two nodes**: the data of every edge under its key.  Without parallel
edges there is one edge at most, and what is known are its data. -/
def between (g : Graph) (head tail : Json) : List (Json × Json) :=
  let found := g.edgesBetween head tail
  if g.isParallel then found.map fun e => (e.key, .object e.data)
  else found.flatMap fun e => e.data.map fun (name, v) => (.text name, v)

/-- **How many edges lead away from a node**, if edges have a direction. -/
def degreeOut? (g : Graph) (id : Json) : Option Nat :=
  if g.isDirected then some (g.edges.countP fun e => e.head.equals id) else none

/-! ## All edges -/

/-- An edge as seen from a node that it touches: it begins there, under the name of the node. -/
def seenFrom (g : Graph) (id : Json) (e : Edge) : Option Edge :=
  if e.head.equals id then some { e with head := id }
  else if !g.isDirected && e.tail.equals id then some { e with head := id, tail := e.head }
  else none

/-- Edges of one node, those to the same node together; as much fuel as there are edges is
enough. -/
def groupByTail : (fuel : Nat) → List Edge → List Edge
  | _, [] => []
  | 0, es => es
  | fuel + 1, e :: es =>
    e :: (es.filter (·.tail.equals e.tail) ++
      groupByTail fuel (es.filter fun f => !f.tail.equals e.tail))

/-- The edges of nodes, except for those to nodes that were looked at before. -/
def listedFrom (g : Graph) (seen : List Json) : List Node → List Edge
  | [] => []
  | n :: ns =>
    let es := (g.edges.filterMap (g.seenFrom n.id)).filter fun e =>
      g.isDirected || !seen.any (·.equals e.tail)
    groupByTail es.length es ++ listedFrom g (n.id :: seen) ns

/-- **All edges**, node by node. -/
def listed (g : Graph) : List Edge := g.listedFrom [] g.nodes

end Graph

end Crosswalk
