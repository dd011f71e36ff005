import Crosswalk.Mapping.Document
import Crosswalk.Mapping.Store

/-!
# Loading records

Records are put into a store one by one: both attributes, the join between them, and the primary
flags of both attributes.  A record that cannot be stored ends the loading; those in front of it
stay in the store.

* `loadRecord` — **one record put into a store.**
* `load` — **records put into a store**, which may be emptied first.
* `loadFile` — the records of a mapping document put into a store.
-/

namespace Crosswalk

open MappingDocument (Delivery)

variable {σ : Type}

/-- Where the entries of the log about loading come from. -/
def loaderSource : String := "loader"

/-- An attribute put into a store. -/
def storeAttribute (store : Store σ) (a : Attribute) : Action σ Unit := do
  if ← store.upsert a.name a.description then
    Action.note .trace loaderSource ("Node does not exist, creating node " ++ a.name)
  else
    Action.note .trace loaderSource
      ("Node already exists, skipping creation of \"" ++ a.name ++ "\"")

/-- The primary flag of an attribute found out anew. -/
def refreshPrimary (store : Store σ) (name : String) : Action σ Unit := do
  let _ ← store.recomputePrimary name

/-- The attributes of a record, its join, and the primary flags. -/
def storeParts (store : Store σ) (r : MappingRecord) : Action σ Unit := do
  if r.head.name = r.tail.name then storeAttribute store r.head
  else Action.both (storeAttribute store r.head) (storeAttribute store r.tail)
  store.join r.head.name r.tail.name r.toJoining
  Action.both (refreshPrimary store r.head.name) (refreshPrimary store r.tail.name)

/-- **One record put into a store.**  Whatever fails, the failure names both attributes. -/
def loadRecord (store : Store σ) (r : MappingRecord) : Action σ Unit := do
  Action.note .debug loaderSource
    ("Storing edge: \"" ++ r.head.name ++ "\" -> \"" ++ r.tail.name ++ "\"")
  match ← (storeParts store r).outcome with
  | .ok () => pure ()
  | .error e => Action.of (.error (.ingestion r.head.name r.tail.name e))

/-- Records put into a store one by one. -/
def loadAll (store : Store σ) : List MappingRecord → Action σ Unit
  | [] => pure ()
  | r :: rs => do
    loadRecord store r
    loadAll store rs

/-- The store emptied. -/
def clearStore (store : Store σ) : Action σ Unit := do
  store.reset
  Action.note .debug loaderSource "Cleared the graph"

/-- Records put into a store up to the failure that ended them, and what this has led to. -/
def loadDelivery (store : Store σ) (d : Delivery) : Action σ LoadSummary := do
  loadAll store d.records
  match d.failure with
  | some e => Action.of (.error e)
  | none => do
    let attributes ← store.attributeCount
    let edges ← store.edgeCount
    let n := d.records.length
    Action.note .info loaderSource ("Loaded " ++ toString n ++ " mapping records (" ++
      toString attributes ++ " attributes, " ++ toString edges ++ " edges)")
    return ⟨n, attributes, edges⟩

/-- **Records put into a store**, which may be emptied first. -/
def load (store : Store σ) (records : List MappingRecord) (reset : Bool) :
    Action σ LoadSummary := do
  if reset then clearStore store
  loadDelivery store (.ofList records)

/-- **The records of a mapping document put into a store**, which may be emptied first. -/
def loadFile (store : Store σ) (path : Path) (reset : Bool) : Action σ LoadSummary := do
  if reset then clearStore store
  Action.note .info "loader.dvm_parser" ("Reading from DVM file \"" ++ path.text ++ "\"")
  let files ← Action.getFiles
  loadDelivery store (MappingDocument.read files path)

end Crosswalk
