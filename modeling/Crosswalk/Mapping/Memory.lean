import Crosswalk.Mapping.Snapshot
import Crosswalk.Mapping.Store
import Crosswalk.Text.Utf8

/-!
# Stores in memory

A store in memory keeps its graph as a value.  It may have a snapshot: a file that the graph is read
from at first, and written to at the end if it has changed.

* `MemoryStore` — **a graph, its snapshot, and whether they differ.**
* `MemoryStore.make` — a new store with a snapshot, if its path leads somewhere.
* `MemoryStore.upsert`, `MemoryStore.join`, … — what can be asked of it.
* `MemoryStore.load`, `MemoryStore.save` — reading and writing the snapshot.
* `memoryStore` — **the store.**
-/

namespace Crosswalk

/-- **A store in memory.** -/
structure MemoryStore where
  graph : Graph := .empty
  /-- The file that the graph is kept in. -/
  snapshot : Option Path := none
  /-- Whether the graph has changed since it was read or written. -/
  isChanged : Bool := false

namespace MemoryStore

/-- An empty store with a snapshot. -/
def new (snapshot : Option Path) : MemoryStore := { snapshot }

/-- The path of a snapshot by its text; an empty one is none. -/
def snapshotOf : Option String → Option Path
  | none | some "" => none
  | some s => some (.ofText s)

/-- **An empty store with a snapshot**, which may lie in a home directory. -/
def make (files : Files) : Option Path → Except Error MemoryStore
  | none => .ok (new none)
  | some p => do .ok (new (some (← (files.expanded p).mapError .plain)))

/-! ## Attributes -/

/-- Whether there is an attribute with a name. -/
def hasAttribute (m : MemoryStore) (name : String) : Bool := m.graph.hasNode (.text name)

/-- **The store with an attribute**, and whether it is new.  The first description counts. -/
def upsert (m : MemoryStore) (name description : String) : Bool × MemoryStore :=
  if m.hasAttribute name then (false, m)
  else
    let data : Members := [("description", .text description), ("primary", .bool false)]
    (true, { m with graph := m.graph.addNode (.text name) data, isChanged := true })

/-- A text in data, if data are texts there. -/
def textIn (field : String) (j : Json) : Except Error String :=
  match j with
  | .text s => .ok s
  | _ => .error (.fields [.notText field])

/-- The attribute with a name. -/
def attribute? (m : MemoryStore) (name : String) : Except Error (Option Attribute) :=
  match m.graph.node? (.text name) with
  | none => .ok none
  | some n => do
    let description ← textIn "description" ((n.data.lookup "description").getD (.text ""))
    let primary := ((n.data.lookup "primary").map Json.isTrue).getD false
    .ok (some ⟨name, description, primary⟩)

/-- **The store with the primary flag of an attribute found out anew**, and the flag.  An attribute
is primary if more than one join leads away from it. -/
def recomputePrimary (m : MemoryStore) (name : String) : Except Error (Bool × MemoryStore) :=
  match m.graph.node? (.text name) with
  | none => .ok (false, m)
  | some n =>
    match m.graph.degreeOut? (.text name) with
    | none => .error (.plain .otherKind)
    | some degree =>
      let primary := decide (1 < degree)
      let flag := (n.data.lookup "primary").getD .null
      if flag.equals (.bool primary) then .ok (primary, m)
      else
        .ok (primary, { m with
          graph := m.graph.addNode (.text name) [("primary", .bool primary)], isChanged := true })

/-! ## Joins -/

/-- The data of a join. -/
def joiningData (j : Joining) : Members :=
  [("datasource", .text j.datasource), ("query", .text j.query), ("key_position", .text j.key),
    ("value_position", .text j.value)]

/-- Whether some of what is known between two attributes is a join, which must be looked for among
data. -/
def known (wanted : Members) : List (Json × Json) → Except Error Bool
  | [] => .ok false
  | (_, .object data) :: rest =>
    if wanted.all fun (name, v) => ((data.lookup name).getD .null).equals v then .ok true
    else known wanted rest
  | _ :: _ => .error (.plain .otherKind)

/-- **The store with a join.**  Both attributes must be there; a join that is there is not added
again. -/
def join (m : MemoryStore) (head tail : String) (j : Joining) : Except Error MemoryStore :=
  if !m.hasAttribute head then .error (.missingAttribute head (edgeText head tail))
  else if !m.hasAttribute tail then .error (.missingAttribute tail (edgeText head tail))
  else do
    if ← known (joiningData j) (m.graph.between (.text head) (.text tail)) then .ok m
    else
      let data := ("selected", .bool false) :: joiningData j
      .ok { m with graph := m.graph.addEdge (.text head) (.text tail) none data, isChanged := true }

/-- A text that data of a join must have. -/
def requiredIn (data : Members) (name : String) : Except Error Json :=
  match data.lookup name with
  | some j => .ok j
  | none => .error (.plain (.missingMember name))

/-- The join of the data between two attributes. -/
def joinOf (head tail : String) (j : Json) : Except Error JoinEdge :=
  match j with
  | .object data => do
    let datasource ← requiredIn data "datasource"
    let query := (data.lookup "query").getD (.text "")
    let key ← requiredIn data "key_position"
    let value ← requiredIn data "value_position"
    let selected := ((data.lookup "selected").map Json.isTrue).getD false
    let fields := [("datasource", datasource), ("query", query), ("key", key), ("value", value)]
    match datasource, query, key, value with
    | .text d, .text q, .text k, .text v => .ok ⟨⟨d, q, k, v⟩, head, tail, selected⟩
    | _, _, _, _ =>
      .error (.fields (fields.filterMap fun (name, j) =>
        if j.isText then none else some (.notText name)))
  | _ => .error (.plain (.fault .wrongType))

/-- **The joins between two attributes** in the order of their keys. -/
def joinsBetween (m : MemoryStore) (head tail : String) : Except Error (List JoinEdge) :=
  match Json.sortByKey? (m.graph.between (.text head) (.text tail)) with
  | none => .error (.plain (.fault .wrongType))
  | some entries => entries.mapM fun (_, j) => joinOf head tail j

/-! ## The whole -/

/-- The store without attributes and joins. -/
def reset (m : MemoryStore) : MemoryStore :=
  { m with
    graph := { m.graph with data := .object [], nodes := [], edges := [] }
    isChanged := true }

/-- How many attributes there are. -/
def attributeCount (m : MemoryStore) : Nat := m.graph.nodes.length

/-- How many joins there are. -/
def edgeCount (m : MemoryStore) : Nat := m.graph.edges.length

/-! ## Snapshots -/

/-- The graph in a file. -/
def readGraph (files : Files) (path : Path) : Except Cause Graph := do
  match Utf8.text? (← files.readBytes path) with
  | none => .error .malformedBytes
  | some cs => Graph.ofJson (← Json.ofChars cs)

/-- The failure of a snapshot; a snapshot of something else altogether is no failure of the
store. -/
def snapshotFailure (path : Path) : Cause → Error
  | .otherKind => .plain .otherKind
  | .unusableKey => .plain .unusableKey
  | .fault .wrongType => .plain (.fault .wrongType)
  | cause => .connection (.snapshot path.text cause)

/-- **The store with the graph of its snapshot**, if there is one. -/
def load (m : MemoryStore) (files : Files) : Except Error MemoryStore :=
  match m.snapshot with
  | none => .ok m
  | some path =>
    if files.has path then
      match readGraph files path with
      | .ok graph => .ok { m with graph }
      | .error cause => .error (snapshotFailure path cause)
    else .ok m

/-- **The files with the graph of a store in its snapshot.** -/
def save (m : MemoryStore) (files : Files) (path : Path) : Except Error Files :=
  (files.write path m.graph.toJson.indented.toUTF8.toList).mapError .plain

end MemoryStore

/-! ## The store -/

/-- A new store in the place of the store. -/
def MemoryStore.create (snapshot : Option Path) : Action MemoryStore Unit := do
  Action.setStore (← Action.of (MemoryStore.make (← Action.getFiles) snapshot))

/-- The snapshot is read, if there is one. -/
def MemoryStore.open : Action MemoryStore Unit := do
  let m ← Action.getStore
  let files ← Action.getFiles
  let loaded ← Action.of (m.load files)
  Action.setStore loaded
  match m.snapshot with
  | some path =>
    if files.has path then
      Action.note .debug "graph_store.memory_store" ("Loaded snapshot " ++ path.text ++ " (" ++
        toString loaded.attributeCount ++ " attributes, " ++ toString loaded.edgeCount ++ " edges)")
    else pure ()
  | none => pure ()

/-- The snapshot is written, if there is one and the graph has changed. -/
def MemoryStore.close : Action MemoryStore Unit := do
  let m ← Action.getStore
  match m.snapshot, m.isChanged with
  | some path, true => do
    let files ← Action.getFiles
    Action.setFiles (← Action.of (m.save files path))
    Action.setStore { m with isChanged := false }
    Action.note .debug "graph_store.memory_store" ("Wrote snapshot " ++ path.text)
  | _, _ => pure ()

/-- A question to the store. -/
def MemoryStore.ask {α : Type} (f : MemoryStore → Except Error α) : Action MemoryStore α := do
  Action.of (f (← Action.getStore))

/-- A change of the store with an answer. -/
def MemoryStore.change {α : Type} (f : MemoryStore → Except Error (α × MemoryStore)) :
    Action MemoryStore α := do
  let (a, m) ← MemoryStore.ask f
  Action.setStore m
  return a

/-- **The store in memory.** -/
def memoryStore : Store MemoryStore where
  provider := "memory"
  verify := MemoryStore.open
  close := MemoryStore.close
  hasAttribute name := MemoryStore.ask fun m => .ok (m.hasAttribute name)
  upsert name description := MemoryStore.change fun m => .ok (m.upsert name description)
  attribute? name := MemoryStore.ask fun m => m.attribute? name
  recomputePrimary name := MemoryStore.change fun m => m.recomputePrimary name
  join head tail j := MemoryStore.change fun m => (m.join head tail j).map fun m => ((), m)
  joinsBetween head tail := MemoryStore.ask fun m => m.joinsBetween head tail
  reset := MemoryStore.change fun m => .ok ((), m.reset)
  attributeCount := MemoryStore.ask fun m => .ok m.attributeCount
  edgeCount := MemoryStore.ask fun m => .ok m.edgeCount

end Crosswalk
