import Crosswalk.Proofs.Mapping.Flags

/-!
# Mapping documents that cannot be opened

A document is opened when its records are wanted, and a store is emptied before that.  So a
document that cannot be opened does no harm to a store that is to be added to: the load fails, and
closing the store leaves what it would have left without the load.  A store that is to be emptied
first is empty then, and nothing else has happened to it.

* `Session.started` — **what a load starts with.**
* `Store.closing_apply`, `MemoryStore.close_unlogged` — closing a store behind an action.
* **`loadFile_unreadable`** — what a load of such a document leaves.
* `loadFile_unreadable_emptied` — a store that was emptied does not get its attributes back.
-/

namespace Crosswalk

variable {σ α : Type}

/-! ## The start of a load -/

/-- **What a load starts with**: the session as it is, or with its store emptied. -/
def Session.started (reset : Bool) (s : Session MemoryStore) : Session MemoryStore :=
  if reset then
    { s with store := s.store.reset }.noted .debug loaderSource "Cleared the graph" else s

section Started

variable {s : Session MemoryStore} {reset : Bool}

lemma Session.store_started :
    (s.started reset).store = if reset then s.store.reset else s.store := by
  cases reset <;> rfl

lemma Session.files_started : (s.started reset).files = s.files := by
  cases reset <;> rfl

lemma Session.regular_started (hg : s.store.graph.Regular) :
    (s.started reset).store.graph.Regular := by
  cases reset with
  | false => exact hg
  | true => exact regular_reset hg

lemma load_started (records : List MappingRecord) :
    load memoryStore records reset s = load memoryStore records false (s.started reset) := by
  cases reset <;> rfl

lemma loadFile_started (path : Path) :
    loadFile memoryStore path reset s = loadFile memoryStore path false (s.started reset) := by
  cases reset with
  | false => rfl
  | true =>
      have hclear : clearStore memoryStore s = (.ok (), s.started true) := rfl
      have hload : loadFile memoryStore path true s
          = (clearStore memoryStore >>= fun () => loadFile memoryStore path false) s := rfl
      rw [hload, Action.bind_of_ok hclear]

end Started

/-! ## Closing -/

/-- A session apart from its log. -/
def Session.unlogged (s : Session σ) : Session σ := { s with log := [] }

@[simp] lemma Session.unlogged_noted (severity : Severity) (source message : String)
    (s : Session σ) :
    (s.noted severity source message).unlogged = s.unlogged := rfl

/-- A failure to close a store hides how the action in front of it has ended. -/
lemma Store.closing_apply (store : Store σ) (a : Action σ α) (s : Session σ) :
    store.closing a s
      = ((store.close (a s).2).1 >>= fun () => (a s).1, (store.close (a s).2).2) := by
  have houtcome : a.outcome s = (.ok (a s).1, (a s).2) := rfl
  rw [Store.closing, Action.bind_of_ok houtcome]
  cases hclose : store.close (a s).2 with
  | mk out s' =>
      cases out with
      | ok _ =>
          rw [Action.bind_of_ok hclose]
          rfl
      | error e => rw [Action.bind_of_error hclose, error_bind]

/-- Closing a store in memory has nothing to do with the log. -/
lemma MemoryStore.close_unlogged {s t : Session MemoryStore} (h : s.unlogged = t.unlogged) :
    (memoryStore.close s).1 = (memoryStore.close t).1 ∧
      (memoryStore.close s).2.unlogged = (memoryStore.close t).2.unlogged := by
  obtain ⟨m, files, log⟩ := s
  obtain ⟨m', files', log'⟩ := t
  obtain ⟨rfl, rfl⟩ : m = m' ∧ files = files' := by simpa [Session.unlogged] using h
  have hclose : ∀ s : Session MemoryStore, memoryStore.close s = MemoryStore.close s :=
    fun _ => rfl
  rw [hclose, hclose, MemoryStore.close, Action.getStore_bind, Action.getStore_bind]
  obtain ⟨graph, snapshot, isChanged⟩ := m
  cases snapshot with
  | none => exact ⟨rfl, rfl⟩
  | some path =>
      cases isChanged with
      | false => exact ⟨rfl, rfl⟩
      | true =>
          dsimp only
          rw [Action.getFiles_bind, Action.getFiles_bind]
          dsimp only
          generalize MemoryStore.save _ files path = saved
          cases saved <;> exact ⟨rfl, rfl⟩

/-! ## Documents that cannot be opened -/

/-- A document that cannot be opened leaves any store as it is. -/
lemma loadFile_of_unreadable (store : Store σ) {path : Path} {cause : Cause} {s : Session σ}
    (h : s.files.readBytes path = .error cause) :
    loadFile store path false s = (.error (.source (.unreadableFile path.text cause) none),
      s.noted .info "loader.dvm_parser" ("Reading from DVM file \"" ++ path.text ++ "\"")) := by
  have hread : MappingDocument.read s.files path
      = ⟨[], some (.source (.unreadableFile path.text cause) none)⟩ := by
    rw [MappingDocument.read, h]
  have hload : loadFile store path false s = loadDelivery store (MappingDocument.read s.files path)
      (s.noted .info "loader.dvm_parser" ("Reading from DVM file \"" ++ path.text ++ "\"")) := rfl
  rw [hload, hread]
  rfl

/-- **A load that cannot start** fails, and leaves the store as it is, or emptied if this was
wanted first.  Closing the store behind it leaves what closing it at the start of the load would
have left. -/
theorem loadFile_unreadable {path : Path} {cause : Cause} {s : Session MemoryStore}
    (h : s.files.readBytes path = .error cause) (reset : Bool) :
    let failure : Error := .source (.unreadableFile path.text cause) none
    let out := loadFile memoryStore path reset s
    let closed := memoryStore.closing (loadFile memoryStore path reset) s
    let idle := memoryStore.close (s.started reset)
    out.1 = .error failure ∧ out.2.store = (if reset then s.store.reset else s.store) ∧
      out.2.files = s.files ∧ closed.1 = (idle.1 >>= fun () => .error failure) ∧
      closed.2.store = idle.2.store ∧ closed.2.files = idle.2.files := by
  intro failure out closed idle
  have hout : out = (.error failure, (s.started reset).noted .info "loader.dvm_parser"
      ("Reading from DVM file \"" ++ path.text ++ "\"")) := by
    rw [← Session.files_started (s := s)] at h
    exact (loadFile_started path).trans (loadFile_of_unreadable memoryStore h)
  have hclosed : closed = ((memoryStore.close out.2).1 >>= fun () => out.1,
      (memoryStore.close out.2).2) := memoryStore.closing_apply _ s
  obtain ⟨hresult, hleft⟩ := MemoryStore.close_unlogged (s := out.2) (t := s.started reset)
    (by rw [hout, Session.unlogged_noted])
  have hstore := congrArg Session.store hleft
  have hfiles := congrArg Session.files hleft
  refine ⟨by rw [hout], ?_, ?_, ?_, ?_, ?_⟩
  · rw [hout, Session.store_noted, Session.store_started]
  · rw [hout]
    exact Session.files_started
  · rw [hclosed, hresult, hout]
  · rw [hclosed]
    exact hstore
  · rw [hclosed]
    exact hfiles

/-- A store with a shop, and no files at all. -/
def keptSession : Session MemoryStore :=
  ⟨{ graph := { nodes := [Attribute.node { name := "shop" }] }
     snapshot := some ⟨"", ["shops.json"]⟩ },
    .none, []⟩

/-- Where there is no document, the shop stays, and nothing is written. -/
theorem loadFile_unreadable_keptSession :
    let path : Path := ⟨"", ["cities.xml"]⟩
    let closed := memoryStore.closing (loadFile memoryStore path false) keptSession
    keptSession.files.readBytes path = .error (.missingFile "cities.xml") ∧
      (loadFile memoryStore path false keptSession).1
        = .error (.source (.unreadableFile "cities.xml" (.missingFile "cities.xml")) none) ∧
      (loadFile memoryStore path false keptSession).2.store = keptSession.store ∧
      closed.2.files = keptSession.files := by
  intro path closed
  have hread : keptSession.files.readBytes path = .error (.missingFile "cities.xml") := rfl
  obtain ⟨hfailure, hstore, -, -, -, hfiles⟩ := loadFile_unreadable hread false
  exact ⟨hread, hfailure, hstore, hfiles⟩

/-- **A store that was emptied stays empty**, although there was nothing to put into it. -/
theorem loadFile_unreadable_emptied :
    ¬ ∀ (s : Session MemoryStore) (path : Path) (cause : Cause) (reset : Bool),
      s.store.graph.Regular → s.files.readBytes path = .error cause →
      (loadFile memoryStore path reset s).2.store.graph = s.store.graph := by
  intro hkept
  have hgraph := hkept keptSession ⟨"", ["cities.xml"]⟩ _ true
    ⟨rfl, rfl, List.pairwise_singleton _ _⟩ rfl
  have hnone :
      (loadFile memoryStore ⟨"", ["cities.xml"]⟩ true keptSession).2.store.graph.nodes.length
      = 0 := by decide +kernel
  rw [hgraph] at hnone
  cases hnone

end Crosswalk
