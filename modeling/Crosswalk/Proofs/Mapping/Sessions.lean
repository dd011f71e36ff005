import Crosswalk.Proofs.Mapping.Requests
import Crosswalk.Proofs.Mapping.Snapshot

/-!
# Sessions on one snapshot

Sessions follow each other on the same snapshot.  Each makes a new store ready, asks it anything,
closes it whenever it likes, and closes it at its end.  What carries from one session to the next is
the snapshot alone, and it carries everything: while a store takes note of no change, a new store
would find the same graph.

* `Deed`, `MemoryStore.session`, `MemoryStore.sessions` — **what is done in sessions.**
* `Files.LeadsTo` — where the snapshot of a new store is; `Files.Shows` — what the store finds
  there.
* `AtWork` — **what holds of a store at work**; `AtWork.ask`, `AtWork.close` — and goes on to
  hold.
* `AtRest` — what holds between sessions; `AtRest.session`, `AtRest.sessions` — a whole
  session, and many of them.
* **`opened_sessions`** — a new store finds the graph that the last session has ended with, and a
  close without a change before it leaves the files alone.
-/

namespace Crosswalk

/-! ## Sessions -/

/-- **What is done in a session**: the store is asked something, or it is closed. -/
inductive Deed where
  | ask (r : Request)
  | close
  deriving DecidableEq

/-- What a deed leads to.  What is asked may fail. -/
def Deed.perform : Deed → Action MemoryStore Unit
  | ask r => fun s => (.ok (), r.perform memoryStore s)
  | close => memoryStore.close

/-- What deeds lead to, one after the other. -/
def Deed.performAll (deeds : List Deed) : Action MemoryStore Unit := forM deeds Deed.perform

namespace MemoryStore

/-- A new store with a snapshot, made ready. -/
def opened (path : String) : Action MemoryStore Unit := do
  create (snapshotOf (some path))
  memoryStore.verify

/-- **A session** with a new store, which is closed at the end. -/
def session (path : String) (deeds : List Deed) : Action MemoryStore Unit := do
  opened path
  Deed.performAll deeds
  memoryStore.close

/-- **Sessions**, one after the other. -/
def sessions (path : String) (all : List (List Deed)) : Action MemoryStore Unit :=
  forM all (session path)

end MemoryStore

section Working

variable {path : String} {place : Path} {most : Nat} {s : Session MemoryStore} {files : Files}
  {g : Graph}

/-- **Where the snapshot of a new store is** that is given by its text. -/
def Files.LeadsTo (path : String) (place : Path) (files : Files) : Prop :=
  MemoryStore.make files (MemoryStore.snapshotOf (some path)) = .ok (.new (some place))

/-- **What a new store finds** in its snapshot: a graph that is the same. -/
def Files.Shows (place : Path) (g : Graph) (files : Files) : Prop :=
  let new := MemoryStore.new (some place)
  ∃ l : Ledger, g.Same l.graph ∧ new.load files = .ok { new with graph := l.graph }

/-- **What holds of a store at work** on a snapshot.  While it takes note of no change, a new store
would find its graph. -/
structure AtWork (path : String) (place : Path) (most : Nat) (s : Session MemoryStore) : Prop where
  snapshot : s.store.snapshot = some place
  leads : s.files.LeadsTo path place
  ledger : ∃ l : Ledger, s.store.graph = l.graph
  few : s.store.graph.edges.length ≤ most
  writable : s.files.IsWritable place
  shows : s.store.isChanged = false → s.files.Shows place s.store.graph

lemma AtWork.mono {more : Nat} (h : AtWork path place most s) (hmore : most ≤ more) :
    AtWork path place more s :=
  ⟨h.snapshot, h.leads, h.ledger, h.few.trans hmore, h.writable, h.shows⟩

lemma MemoryStore.snapshotOf_eq (hpath : path ≠ "") :
    snapshotOf (some path) = some (.ofText path) := by
  rw [snapshotOf]
  exact hpath

lemma leadsTo_of_expanded (hpath : path ≠ "")
    (hplace : files.expanded (.ofText path) = .ok place) :
    files.LeadsTo path place := by
  rw [Files.LeadsTo, MemoryStore.snapshotOf_eq hpath, MemoryStore.make, hplace]
  rfl

/-- Where a snapshot is stays as it is while the home directories do. -/
lemma Files.LeadsTo.congr {files' : Files} (h : files.LeadsTo path place)
    (hhomes : files'.homes = files.homes) : files'.LeadsTo path place := by
  rw [LeadsTo] at h ⊢
  cases hsnapshot : MemoryStore.snapshotOf (some path) with
  | none => rwa [hsnapshot] at h
  | some p => rwa [hsnapshot, MemoryStore.make, ← expanded_congr hhomes] at h

lemma MemoryStore.attribute?_of_same {m m' : MemoryStore} (h : m.graph.Same m'.graph)
    (name : String) : m'.attribute? name = m.attribute? name := by
  rw [MemoryStore.attribute?, MemoryStore.attribute?, h.others]
  rfl

lemma MemoryStore.joinsBetween_of_same {m m' : MemoryStore} (h : m.graph.Same m'.graph)
    (head tail : String) : m'.joinsBetween head tail = m.joinsBetween head tail := by
  have hbetween : m'.graph.between (.text head) (.text tail)
      = m.graph.between (.text head) (.text tail) := by
    rw [Graph.between.eq_def, Graph.between.eq_def, h.between, h.others]
  rw [MemoryStore.joinsBetween, MemoryStore.joinsBetween, hbetween]

/-! ## Opening -/

lemma create_of_leadsTo (h : s.files.LeadsTo path place) :
    MemoryStore.create (MemoryStore.snapshotOf (some path)) s
      = (.ok (), { s with store := .new (some place) }) := by
  rw [MemoryStore.create, Action.getFiles_bind, h]
  rfl

lemma opened_of_load {m : MemoryStore} (hleads : s.files.LeadsTo path place)
    (h : (MemoryStore.new (some place)).load s.files = .ok m) :
    ∃ log, MemoryStore.opened path s = (.ok (), ⟨m, s.files, log⟩) := by
  let new : Session MemoryStore := { s with store := .new (some place) }
  have hload : (Action.of (new.store.load s.files) : Action MemoryStore MemoryStore) new
      = (.ok m, new) := by
    rw [h]
    rfl
  have hverify : memoryStore.verify = MemoryStore.open := rfl
  rw [MemoryStore.opened, Action.bind_of_ok (create_of_leadsTo hleads), hverify, MemoryStore.open,
    Action.getStore_bind, Action.getFiles_bind, Action.bind_of_ok hload, Action.setStore_bind]
  dsimp only [MemoryStore.new]
  split
  · exact ⟨_, rfl⟩
  · exact ⟨s.log, rfl⟩

lemma shows_of_absent (h : files.has place = false) : files.Shows place .empty := by
  refine ⟨.empty, .refl _, ?_⟩
  rw [MemoryStore.load, MemoryStore.new]
  simp only [h, Bool.false_eq_true, if_false]
  rfl

/-! ## Asking -/

lemma length_edges (l : Ledger) : l.graph.edges.length = l.joins.length :=
  List.length_map Ledger.edge

lemma length_joins_enter_le (l : Ledger) (r : Request) :
    (r.enter l).joins.length ≤ l.joins.length + 1 := by
  cases r with
  | upsert name description =>
      rw [Request.enter, Ledger.withAttribute]
      split <;> simp
  | join head tail j =>
      rw [Request.enter, Ledger.withJoin]
      split <;> simp
  | reset => simp [Request.enter, Ledger.empty]
  | recomputePrimary name => simp [Request.enter, Ledger.joins_withFlag]
  | _ => simp [Request.enter]

/-- **A store at work can be asked anything.** -/
theorem AtWork.ask (h : AtWork path place most s) (r : Request) :
    AtWork path place (most + 1) (r.perform memoryStore s) := by
  obtain ⟨l, hl⟩ := h.ledger
  have hgraph := r.graph_perform hl
  have hold : l.joins.length ≤ most := by
    rw [← length_edges, ← hl]
    exact h.few
  have hfew : (r.enter l).graph.edges.length ≤ most + 1 := by
    rw [length_edges]
    exact (length_joins_enter_le l r).trans (Nat.add_le_add_right hold 1)
  have hrun := r.perform_memoryStore hl
  refine ⟨?_, ?_, ⟨_, hgraph⟩, hgraph ▸ hfew, ?_, ?_⟩
  · rw [hrun]
    split
    · exact h.snapshot
    · exact h.snapshot
  · rw [hrun]
    exact h.leads
  · rw [hrun]
    exact h.writable
  · rw [hrun]
    split
    · exact fun hchanged => Bool.noConfusion hchanged
    · intro hchanged
      -- without a note of a change the graph is what it was
      simp only [MemoryStore.withGraph, Bool.or_eq_false_iff, decide_eq_false_iff_not, not_not]
        at hchanged
      rw [hchanged.2, MemoryStore.withGraph_self]
      exact h.shows hchanged.1

/-! ## Closing -/

lemma close_of_unchanged (h : s.store.isChanged = false) : memoryStore.close s = (.ok (), s) := by
  have hclose : memoryStore.close s = MemoryStore.close s := rfl
  rw [hclose, MemoryStore.close, Action.getStore_bind, h]
  cases s.store.snapshot <;> rfl

lemma close_of_changed {p : Path} (hsnapshot : s.store.snapshot = some p)
    (hchanged : s.store.isChanged = true)
    (hwrite : s.files.write p s.store.graph.toJson.indented.toUTF8.toList = .ok files) :
    ∃ log, memoryStore.close s
      = (.ok (), ⟨{ s.store with isChanged := false }, files, log⟩) := by
  obtain ⟨⟨graph, snapshot, isChanged⟩, fs, log⟩ := s
  obtain rfl : snapshot = some p := hsnapshot
  obtain rfl : isChanged = true := hchanged
  let m : MemoryStore := ⟨graph, some p, true⟩
  have hclose : memoryStore.close ⟨m, fs, log⟩ = (do
      let files ← Action.of (m.save fs p)
      Action.setFiles files
      Action.setStore { m with isChanged := false }
      Action.note .debug "graph_store.memory_store" ("Wrote snapshot " ++ p.text) :
        Action MemoryStore Unit) ⟨m, fs, log⟩ := rfl
  have hsave : (Action.of (m.save fs p) : Action MemoryStore Files) ⟨m, fs, log⟩
      = (.ok files, ⟨m, fs, log⟩) := by
    rw [MemoryStore.save, hwrite]
    rfl
  rw [hclose, Action.bind_of_ok hsave]
  exact ⟨_, rfl⟩

lemma shows_of_holds {l : Ledger} (hfew : l.joins.length ≤ digitBound)
    (h : files.Holds place l.graph.toJson.indented.toUTF8.toList) : files.Shows place l.graph := by
  obtain ⟨l', hread, hsame⟩ := Ledger.readGraph_of_holds hfew h
  refine ⟨l', hsame, ?_⟩
  rw [MemoryStore.load, MemoryStore.new]
  simp only [h.has, if_true, hread]

/-- **A store at work can be closed**, and takes note of no change any more. -/
theorem AtWork.close (h : AtWork path place most s) (hmost : most ≤ digitBound) :
    ∃ s', memoryStore.close s = (.ok (), s') ∧ AtWork path place most s' ∧
      s'.store.isChanged = false ∧ s'.store.graph = s.store.graph := by
  cases hchanged : s.store.isChanged with
  | false => exact ⟨s, close_of_unchanged hchanged, h, hchanged, rfl⟩
  | true =>
      obtain ⟨files, hwrite, hholds, hwritable⟩ :=
        h.writable.write s.store.graph.toJson.indented.toUTF8.toList
      obtain ⟨log, hclose⟩ := close_of_changed h.snapshot hchanged hwrite
      have hleads := h.leads.congr (Files.homes_write hwrite)
      refine ⟨_, hclose, ⟨h.snapshot, hleads, h.ledger, h.few, hwritable, fun _ => ?_⟩,
        rfl, rfl⟩
      obtain ⟨l, hl⟩ := h.ledger
      have hfew : l.joins.length ≤ digitBound := by
        rw [← length_edges, ← hl]
        exact h.few.trans hmost
      rw [hl] at hholds ⊢
      exact shows_of_holds hfew hholds

/-! ## Whole sessions -/

/-- **A store at work goes on to be at work.** -/
theorem AtWork.performAll (h : AtWork path place most s) (hunchanged : s.store.isChanged = false)
    (deeds : List Deed) (hmost : most + deeds.length ≤ digitBound) :
    ∃ s', Deed.performAll deeds s = (.ok (), s') ∧
      AtWork path place (most + deeds.length) s' ∧
      ((∀ d ∈ deeds.getLast?, d = .close) → s'.store.isChanged = false) := by
  -- from the end on: only the last deed tells whether a change is noted
  induction deeds using List.reverseRecOn with
  | nil => exact ⟨s, rfl, h, fun _ => hunchanged⟩
  | append_singleton deeds d ih =>
      rw [List.length_append, List.length_singleton, ← Nat.add_assoc] at hmost ⊢
      obtain ⟨s₁, hrun, hwork, -⟩ := ih (by omega)
      rw [Deed.performAll, Action.forM_concat hrun]
      cases d with
      | ask r => exact ⟨_, rfl, hwork.ask r, fun hlast => nomatch hlast (.ask r) (by simp)⟩
      | close =>
          obtain ⟨s₂, hclose, hwork₂, hunchanged₂, -⟩ := hwork.close (by omega)
          exact ⟨s₂, hclose, hwork₂.mono (by omega), fun _ => hunchanged₂⟩

/-- What holds of files between sessions. -/
structure AtRest (path : String) (place : Path) (most : Nat) (g : Graph) (files : Files) :
    Prop where
  leads : files.LeadsTo path place
  few : g.edges.length ≤ most
  writable : files.IsWritable place
  shows : files.Shows place g

lemma AtWork.atRest (h : AtWork path place most s) (hunchanged : s.store.isChanged = false) :
    AtRest path place most s.store.graph s.files :=
  ⟨h.leads, h.few, h.writable, h.shows hunchanged⟩

/-- **A new store** finds what its snapshot shows, and is at work. -/
theorem AtRest.opened (h : AtRest path place most g s.files) :
    ∃ s', MemoryStore.opened path s = (.ok (), s') ∧ AtWork path place most s' ∧
      s'.store.isChanged = false ∧ g.Same s'.store.graph := by
  obtain ⟨l, hsame, hload⟩ := h.shows
  obtain ⟨log, hopened⟩ := opened_of_load h.leads hload
  refine ⟨_, hopened, ?_, rfl, hsame⟩
  exact {
    snapshot := rfl
    leads := h.leads
    ledger := ⟨l, rfl⟩
    few := hsame.edges.length_eq.trans_le h.few
    writable := h.writable
    shows := fun _ => ⟨l, .refl _, hload⟩ }

/-- **A whole session.** -/
theorem AtRest.session (h : AtRest path place most g s.files) (deeds : List Deed)
    (hmost : most + deeds.length ≤ digitBound) :
    ∃ s', MemoryStore.session path deeds s = (.ok (), s') ∧
      AtRest path place (most + deeds.length) s'.store.graph s'.files := by
  obtain ⟨s₁, hopened, hwork₁, hunchanged₁, -⟩ := h.opened
  obtain ⟨s₂, hrun, hwork₂, -⟩ := hwork₁.performAll hunchanged₁ deeds hmost
  obtain ⟨s₃, hclose, hwork₃, hunchanged₃, -⟩ := hwork₂.close hmost
  refine ⟨s₃, ?_, hwork₃.atRest hunchanged₃⟩
  rw [MemoryStore.session, Action.bind_of_ok hopened, Action.bind_of_ok hrun, hclose]

/-- **Sessions, one after the other.** -/
theorem AtRest.sessions (h : AtRest path place most g s.files) (all : List (List Deed))
    (hmost : most + (all.map List.length).sum ≤ digitBound) :
    ∃ s' g', MemoryStore.sessions path all s = (.ok (), s') ∧
      AtRest path place (most + (all.map List.length).sum) g' s'.files := by
  induction all using List.reverseRecOn with
  | nil => exact ⟨s, g, rfl, h⟩
  | append_singleton all deeds ih =>
      rw [List.map_append, List.sum_append, List.map_singleton, List.sum_singleton,
        ← Nat.add_assoc] at hmost ⊢
      obtain ⟨s₁, g₁, hrun, hrest⟩ := ih (by omega)
      obtain ⟨s₂, hsession, hrest₂⟩ := hrest.session deeds hmost
      refine ⟨s₂, _, ?_, hrest₂⟩
      rw [MemoryStore.sessions, Action.forM_concat hrun, hsession]

/-- Requests that change nothing. -/
lemma performAll_of_same {l : Ledger} {rs : List Request} (hl : s.store.graph = l.graph)
    (hreset : .reset ∉ rs)
    (hsame : ∀ i, (Request.performAll memoryStore (rs.take i) s).store.graph = s.store.graph) :
    Request.performAll memoryStore rs s = s := by
  induction rs with
  | nil => rfl
  | cons r rs ih =>
      rw [List.mem_cons, not_or] at hreset
      have hfirst : r.perform memoryStore s = s := by
        have hgraph : (r.enter l).graph = s.store.graph := (r.graph_perform hl).symm.trans (hsame 1)
        rw [r.perform_memoryStore hl, if_neg (Ne.symm hreset.1), hgraph, MemoryStore.withGraph_self]
      have hrest : ∀ qs, Request.performAll memoryStore (r :: qs) s
          = Request.performAll memoryStore qs s := fun qs => by
        rw [Request.performAll, List.foldl_cons, hfirst]
        rfl
      rw [hrest]
      exact ih hreset.2 fun i => (congrArg (fun s => s.store.graph) (hrest (rs.take i))).symm.trans
        (hsame (i + 1))

end Working

/-! ## The last session and the next one -/

variable {path : String} {place : Path} {s : Session MemoryStore}

open MemoryStore in
/-- **A new store finds the graph that the last session has ended with**, and a close behind
requests that have changed nothing leaves everything alone.  The path of the snapshot must lead
somewhere, as one from the home directory of a user who is not known does not.  The numbers of
joins must have few enough digits to be read; no number exceeds how much is done in all sessions.
Texts consist of characters, and none of them is half of a surrogate pair. -/
theorem opened_sessions (hpath : path ≠ "") (hplace : s.files.expanded (.ofText path) = .ok place)
    (habsent : s.files.has place = false) (hwritable : s.files.IsWritable place)
    (before : List (List Deed)) (deeds : List Deed)
    (hfew : ((before ++ [deeds]).map List.length).sum ≤ digitBound) :
    (∃ ended reopened, sessions path (before ++ [deeds]) s = (.ok (), ended) ∧
      opened path ended = (.ok (), reopened) ∧ ended.store.graph.Same reopened.store.graph ∧
      (∀ name, reopened.store.attribute? name = ended.store.attribute? name) ∧
      ∀ head tail, reopened.store.joinsBetween head tail = ended.store.joinsBetween head tail) ∧
    ∃ working, (do sessions path before; opened path; Deed.performAll deeds) s
      = (.ok (), working) ∧
      ((∀ d ∈ deeds.getLast?, d = .close) → ∀ rs : List Request, .reset ∉ rs →
        (∀ i, (Request.performAll memoryStore (rs.take i) working).store.graph
          = working.store.graph) →
        memoryStore.close (Request.performAll memoryStore rs working)
          = (.ok (), Request.performAll memoryStore rs working)) := by
  rw [List.map_append, List.sum_append, List.map_singleton, List.sum_singleton] at hfew
  have hrest : AtRest path place 0 .empty s.files :=
    ⟨leadsTo_of_expanded hpath hplace, le_rfl, hwritable, shows_of_absent habsent⟩
  obtain ⟨s₁, g₁, hbefore, hrest₁⟩ := hrest.sessions before (by omega)
  obtain ⟨s₂, hopened, hwork₂, hunchanged₂, -⟩ := hrest₁.opened
  obtain ⟨working, hrun, hwork, hsettled⟩ := hwork₂.performAll hunchanged₂ deeds (by omega)
  obtain ⟨ended, hclose, hwork', hunchanged', -⟩ := hwork.close (by omega)
  obtain ⟨reopened, hreopened, -, -, hsame⟩ := (hwork'.atRest hunchanged').opened
  refine ⟨⟨ended, reopened, ?_, hreopened, hsame, ?_, ?_⟩, working, ?_, ?_⟩
  · rw [sessions, Action.forM_concat hbefore, session, Action.bind_of_ok hopened,
      Action.bind_of_ok hrun, hclose]
  · exact MemoryStore.attribute?_of_same hsame
  · exact MemoryStore.joinsBetween_of_same hsame
  · rw [Action.bind_of_ok hbefore, Action.bind_of_ok hopened, hrun]
  · intro hlast rs hreset hchangeless
    obtain ⟨l, hl⟩ := hwork.ledger
    rw [performAll_of_same hl hreset hchangeless]
    exact close_of_unchanged (hsettled hlast)

/-- A shop gets a town, and behind a close a road. -/
def shopDeeds : List Deed :=
  [.ask (.upsert "shop" "a \"shop\"\n"), .ask (.upsert "città" ""), .ask (.upsert "road" ""),
    .ask (.join "shop" "città" ⟨"shops", "", "1", "2"⟩), .close,
    .ask (.join "shop" "road" ⟨"shops", "", "1", "3"⟩), .ask (.recomputePrimary "shop"), .close]

/-- What changes nothing once the shop is there. -/
def shopRequests : List Request := [.upsert "shop" "another shop", .joinsBetween "shop" "città"]

/-- No files, and a store that is not used. -/
def idleSession : Session MemoryStore := ⟨{}, .none, []⟩

open MemoryStore in
/-- The shop is found again with both of its joins, and asking about it is no reason to write. -/
theorem opened_sessions_shopDeeds : ∃ ended reopened working,
    sessions "graph/shops.json" ([[.close]] ++ [shopDeeds]) idleSession = (.ok (), ended) ∧
    opened "graph/shops.json" ended = (.ok (), reopened) ∧
    reopened.store.attribute? "shop" = .ok (some ⟨"shop", "a \"shop\"\n", true⟩) ∧
    reopened.store.joinsBetween "shop" "città"
      = .ok [⟨⟨"shops", "", "1", "2"⟩, "shop", "città", false⟩] ∧
    (do
      sessions "graph/shops.json" [[.close]]
      opened "graph/shops.json"
      Deed.performAll shopDeeds) idleSession = (.ok (), working) ∧
    memoryStore.close (Request.performAll memoryStore shopRequests working)
      = (.ok (), Request.performAll memoryStore shopRequests working) := by
  have hpath : "graph/shops.json" ≠ "" := by decide
  obtain ⟨⟨ended, reopened, hended, hreopened, -, hattribute, hjoins⟩,
      working, hworking, hclose⟩ :=
    opened_sessions (s := idleSession) hpath rfl (by decide +kernel) ⟨_, rfl⟩ [[.close]]
      shopDeeds (by decide +kernel)
  have hlast : ended = (sessions "graph/shops.json" ([[.close]] ++ [shopDeeds]) idleSession).2 :=
    (congrArg Prod.snd hended).symm
  have hnow : working = ((do
      sessions "graph/shops.json" [[.close]]
      opened "graph/shops.json"
      Deed.performAll shopDeeds : Action MemoryStore Unit) idleSession).2 :=
    (congrArg Prod.snd hworking).symm
  have hshop : working.store.hasAttribute "shop" = true := by
    rw [hnow]
    decide +kernel
  have hupsert : (Request.upsert "shop" "another shop").perform memoryStore working = working :=
    congrArg Prod.snd (MemoryStore.change_of_ok (x := false) (by rw [upsert, if_pos hshop]))
  refine ⟨ended, reopened, working, hended, hreopened, (hattribute _).trans ?_,
    (hjoins _ _).trans ?_, hworking,
    hclose (by simp [shopDeeds]) shopRequests (by decide) fun i => ?_⟩
  · rw [hlast]
    decide +kernel
  · rw [hlast]
    decide +kernel
  · rcases i with _ | _ | i
    · rfl
    · exact congrArg (fun s => s.store.graph) hupsert
    · rw [List.take_of_length_le (by simp [shopRequests])]
      exact congrArg (fun s => s.store.graph) hupsert

end Crosswalk
