import Crosswalk.Files
import Crosswalk.Log.Traced
import Crosswalk.Mapping.Record

/-!
# Stores

A store keeps a mapping graph: attributes by their names, and joins between them.  There are stores
of different kinds, and what can be asked of all of them is the same.

* `Session` — a store at work, with the files around it and the log of what was done.
* `Action` — **something done in a session.**  It may fail, and what was done before stays done.
* `Store` — **what can be asked of a store.**
* `Store.connect`, `Store.closing` — the store made ready, and closed after use.
-/

namespace Crosswalk

/-- **A store at work.** -/
structure Session (σ : Type) where
  store : σ
  files : Files
  log : List LogEntry := []

/-- **Something done in a session.**  A failure does not take back what was done before. -/
abbrev Action (σ α : Type) := ExceptT Error (StateM (Session σ)) α

namespace Action

variable {σ α : Type}

/-- The store as it is. -/
def getStore : Action σ σ := fun s => (.ok s.store, s)

/-- Another store in the place of the store. -/
def setStore (store : σ) : Action σ Unit := fun s => (.ok (), { s with store })

/-- The files as they are. -/
def getFiles : Action σ Files := fun s => (.ok s.files, s)

/-- Other files in the place of the files. -/
def setFiles (files : Files) : Action σ Unit := fun s => (.ok (), { s with files })

/-- A result that is known. -/
def of (r : Except Error α) : Action σ α := fun s => (r, s)

/-- An entry of the log. -/
def note (severity : Severity) (source message : String) : Action σ Unit :=
  fun s => (.ok (), { s with log := s.log ++ [{ severity, source, message }] })

/-- The outcome of an action, whether it fails or not. -/
def outcome (a : Action σ α) : Action σ (Except Error α) :=
  fun s => let (r, s) := a s; (.ok r, s)

/-- **Two actions of which both are done**, even if the first fails; the first failure counts. -/
def both (a b : Action σ Unit) : Action σ Unit := do
  let first ← a.outcome
  let second ← b.outcome
  Action.of first
  Action.of second

/-- A computation that leaves a log. -/
def ofTraced (t : Traced α) : Action σ α := fun s => (t.result, { s with log := s.log ++ t.log })

end Action

/-- **What can be asked of a store.** -/
structure Store (σ : Type) where
  /-- The kind of the store. -/
  provider : String
  /-- Makes sure that the store can be used. -/
  verify : Action σ Unit
  /-- Ends the use of the store. -/
  close : Action σ Unit
  /-- Whether there is an attribute with a name. -/
  hasAttribute : String → Action σ Bool
  /-- Adds an attribute with a description, and tells whether it is new. -/
  upsert : String → String → Action σ Bool
  /-- The attribute with a name. -/
  attribute? : String → Action σ (Option Attribute)
  /-- Finds out anew whether an attribute is primary. -/
  recomputePrimary : String → Action σ Bool
  /-- Adds a join from one attribute to another. -/
  join : (head tail : String) → Joining → Action σ Unit
  /-- The joins from one attribute to another. -/
  joinsBetween : (head tail : String) → Action σ (List JoinEdge)
  /-- Removes everything. -/
  reset : Action σ Unit
  attributeCount : Action σ Nat
  edgeCount : Action σ Nat

namespace Store

variable {σ : Type}

/-- **The store made ready.**  A store that cannot be used is closed. -/
def connect (store : Store σ) : Action σ Unit := do
  match ← store.verify.outcome with
  | .error e => do
    store.close
    Action.of (.error e)
  | .ok () =>
    Action.note .info "graph_store.store_factory" ("Mapping store ready (" ++ store.provider ++ ")")

/-- **An action with the store closed behind it**, whether it fails or not. -/
def closing {α : Type} (store : Store σ) (a : Action σ α) : Action σ α := do
  let r ← a.outcome
  store.close
  Action.of r

/-- The joins between attributes, as the store holds them now. -/
def joins (store : Store σ) : Action σ ((head tail : String) → Except Error (List JoinEdge)) :=
  fun s => (.ok fun head tail => (store.joinsBetween head tail s).1, s)

end Store

end Crosswalk
