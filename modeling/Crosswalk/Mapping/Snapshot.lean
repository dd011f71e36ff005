import Crosswalk.Mapping.Graph

/-!
# Snapshots of graphs

A graph can be written as a JSON value and be read from one.

* `Graph.toJson` — **the value of a graph**: its nodes by their names, and its edges by the names
  of their ends.
* `Graph.ofJson` — **the graph of a value**, or why it has none.
-/

namespace Crosswalk

namespace Graph

/-! ## Writing -/

/-- The value of a node. -/
def nodeJson (n : Node) : Json := .object (Members.update n.data [("id", n.id)])

/-- The value of an edge. -/
def edgeJson (g : Graph) (e : Edge) : Json :=
  let ends : Members := [("source", e.head), ("target", e.tail)]
  .object (Members.update e.data (if g.isParallel then ends ++ [("key", e.key)] else ends))

/-- **The value of a graph.** -/
def toJson (g : Graph) : Json :=
  .object [("directed", .bool g.isDirected), ("multigraph", .bool g.isParallel), ("graph", g.data),
    ("nodes", .list (g.nodes.map nodeJson)), ("edges", .list (g.listed.map g.edgeJson))]

/-! ## Reading -/

mutual

/-- Whether a value can be part of the name of a node. -/
def isName : Json → Bool
  | .list items => areNames items
  | .object _ => false
  | .null | .bool _ | .int _ | .float _ | .text _ => true

/-- Whether all of some values can be parts of names. -/
def areNames : List Json → Bool
  | [] => true
  | j :: js => isName j && areNames js

end

/-- Whether a value can be a name of an end of an edge, where lists inside of lists cannot. -/
def isEndName : Json → Bool
  | .list items => items.all fun
    | .list _ | .object _ => false
    | _ => true
  | .object _ => false
  | _ => true

/-- The name of a node, which has to be more than nothing. -/
def nameOf (fits : Json → Bool) (j : Json) : Except Cause Json :=
  match j with
  | .null => .error (.fault .wrongValue)
  | j => if fits j then .ok j else .error .unusableKey

/-- What can be gone through, item by item. -/
def itemsOf : Json → Except Cause (List Json)
  | .list items => .ok items
  | .object members => .ok (members.map fun (name, _) => .text name)
  | .text s => .ok (s.toList.map fun c => .text (String.singleton c))
  | _ => .error (.fault .wrongType)

/-- A member that an object has to have. -/
def member (members : Members) (name : String) : Except Cause Json :=
  match members.lookup name with
  | some j => .ok j
  | none => .error (.missingMember name)

/-- Data without those of some names. -/
def without (names : List String) (members : Members) : Members :=
  members.filter fun (name, _) => !names.contains name

/-- The names under which a graph takes a node. -/
def nodeWords : List String := ["self", "node_for_adding"]

/-- The names under which a graph takes an edge. -/
def edgeWords (isParallel : Bool) : List String :=
  if isParallel then ["self", "u_for_edge", "v_for_edge"] else ["self", "u_of_edge", "v_of_edge"]

/-- Data of a node or an edge, none of which may have a name that is taken. -/
def freeOf (taken : List String) (data : Members) : Except Cause Members :=
  if data.any fun (name, _) => taken.contains name then .error (.fault .wrongType) else .ok data

/-- The graph with the nodes of values.  A node without a name is named by its position. -/
def readNodes (g : Graph) (i : Nat) : List Json → Except Cause Graph
  | [] => .ok g
  | .object members :: rest => do
    let data ← freeOf nodeWords (without ["id"] members)
    let id ← nameOf isName ((members.lookup "id").getD (.int i))
    readNodes (g.addNode id data) (i + 1) rest
  | _ :: _ => .error .otherKind

/-- The members of an edge that are no data of it. -/
def endNames (isParallel : Bool) : List String :=
  if isParallel then ["source", "target", "key"] else ["source", "target"]

/-- The key of an edge, if it has one. -/
def keyIn (members : Members) : Except Cause (Option Json) :=
  match members.lookup "key" with
  | none | some .null => .ok none
  | some (.list _) | some (.object _) => .error .unusableKey
  | some j => .ok (some j)

/-- The graph with the edges of values. -/
def readEdges (g : Graph) : List Json → Except Cause Graph
  | [] => .ok g
  | .object members :: rest => do
    let head ← member members "source"
    let tail ← member members "target"
    let data ← freeOf (edgeWords g.isParallel) (without (endNames g.isParallel) members)
    let head ← nameOf isEndName head
    let tail ← nameOf isEndName tail
    let key ← if g.isParallel then keyIn members else .ok none
    readEdges (g.addEdge head tail key data) rest
  | _ :: _ => .error (.fault .wrongType)

/-- Whether a member of an object says yes; if it is not there, the answer is yes. -/
def saysTrue (members : Members) (name : String) : Bool :=
  ((members.lookup name).map Json.isTrue).getD true

/-- **The graph of a value.** -/
def ofJson : Json → Except Cause Graph
  | .object members => do
    let g : Graph :=
      { isDirected := saysTrue members "directed"
        isParallel := saysTrue members "multigraph"
        data := (members.lookup "graph").getD (.object []) }
    let g ← readNodes g 0 (← itemsOf (← member members "nodes"))
    readEdges g (← itemsOf (← member members "edges"))
  | _ => .error .otherKind

end Graph

end Crosswalk
