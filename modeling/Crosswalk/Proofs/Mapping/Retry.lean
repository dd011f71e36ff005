import Crosswalk.Proofs.Mapping.Loading

/-!
# Loading records once more

A load that fails can be repeated.  Whichever calls of the store fail, as long as they change
nothing then, loading the same records once more comes to what loading them without a failure comes
to: the same attributes, and the same joins in the same order.  Only the order of the attributes
may differ.  A load behind one that succeeded changes nothing.

* `Store.disturbed` — **a store some calls of which fail**, chosen by their numbers.
* `Graph.Alike.node?_eq`, `Graph.Stopped.regular` — graphs that a load has stopped at.
* **`load_again`** — loading records once more.
-/

namespace Crosswalk

variable {σ τ α : Type}

/-! ## Stores some calls of which fail -/

/-- A store whose calls are counted. -/
structure Counted (σ : Type) where
  store : σ
  calls : Nat := 0

/-- The session with another store. -/
def Session.map (f : σ → τ) (s : Session σ) : Session τ := ⟨f s.store, s.files, s.log⟩

/-- An action next to which calls are counted. -/
def Action.counted (a : Action σ α) : Action (Counted σ) α := fun s =>
  let (r, t) := a (s.map Counted.store)
  (r, t.map fun store => ⟨store, s.store.calls⟩)

/-- **A call that may fail without effect**, as it is said of calls by their numbers. -/
def Action.guarded (fails : Nat → Option Error) (a : Action σ α) :
    Action (Counted σ) α := fun s =>
  let s' := s.map fun c => { c with calls := c.calls + 1 }
  match fails s.store.calls with
  | some e => (.error e, s')
  | none => a.counted s'

/-- **A store some calls of which fail**: new attributes, joins, and primary flags. -/
def Store.disturbed (fails : Nat → Option Error) (store : Store σ) : Store (Counted σ) where
  provider := store.provider
  verify := store.verify.counted
  close := store.close.counted
  hasAttribute name := (store.hasAttribute name).counted
  upsert name description := (store.upsert name description).guarded fails
  attribute? name := (store.attribute? name).counted
  recomputePrimary name := (store.recomputePrimary name).guarded fails
  join head tail j := (store.join head tail j).guarded fails
  joinsBetween head tail := (store.joinsBetween head tail).counted
  reset := store.reset.counted
  attributeCount := store.attributeCount.counted
  edgeCount := store.edgeCount.counted

section Disturbed

variable {graph : σ → Graph} {mayFail : Prop} {goal : Graph} {fails : Nat → Option Error}
  {a : Action σ α} {store : Store σ} {s : Session (Counted σ)}

lemma Reaches.counted {stops : Graph → Prop}
    (h : Reaches graph mayFail goal stops (a (s.map Counted.store))) :
    Reaches (graph ∘ Counted.store) mayFail goal stops (a.counted s) := by
  rw [Action.counted]
  generalize a _ = out at h
  cases h with
  | goal h => exact .goal h
  | stop hmay h => exact .stop hmay h

/-- A call either fails before it has an effect, or is made. -/
lemma Reaches.guarded
    (h : ∀ t : Session σ, t.store = s.store.store →
      Reaches graph mayFail goal (· = graph s.store.store) (a t)) :
    Reaches (graph ∘ Counted.store) True goal (· = graph s.store.store) (a.guarded fails s) := by
  rw [Action.guarded]
  cases fails s.store.calls with
  | some e => exact .stop trivial rfl
  | none =>
      have hrun := Reaches.counted (s := s.map fun c => { c with calls := c.calls + 1 }) (h _ rfl)
      dsimp only
      generalize Action.counted a _ = out at hrun
      cases hrun with
      | goal h => exact .goal h
      | stop _ h => exact .stop trivial h

/-- **A store that keeps a graph does so when its calls fail.** -/
theorem Store.Keeps.disturbed (h : store.Keeps graph mayFail) :
    (store.disturbed fails).Keeps (graph ∘ Counted.store) True where
  upsert name description s hg := .guarded fun t ht => by
    have hcall := h.upsert name description t (ht ▸ hg)
    rwa [ht] at hcall
  join head tail j s hg hhead htail := .guarded fun t ht => by
    have hcall := h.join head tail j t (ht ▸ hg) (ht ▸ hhead) (ht ▸ htail)
    rwa [ht] at hcall
  recomputePrimary name s hg := .guarded fun t ht => by
    have hcall := h.recomputePrimary name t (ht ▸ hg)
    rwa [ht] at hcall
  reset s := by
    obtain ⟨t, hrun, ht⟩ := h.reset (s.map Counted.store)
    refine ⟨t.map fun store => ⟨store, s.store.calls⟩, ?_, ht⟩
    show Action.counted store.reset s = _
    rw [Action.counted, hrun]
  attributeCount s := by
    show Action.counted store.attributeCount s = _
    rw [Action.counted, h.attributeCount]
    rfl
  edgeCount s := by
    show Action.counted store.edgeCount s = _
    rw [Action.counted, h.edgeCount]
    rfl

end Disturbed

/-! ## Graphs that a load has stopped at -/

namespace Graph

variable {g g' : Graph} {r : MappingRecord} {name : String}

lemma Stopped.regular (h : g.Stopped r g') (hg : g.Regular) : g'.Regular := by
  have hends : (g.withEnds r).Regular := hg.withAttribute.withAttribute
  cases h with
  | before => exact hg
  | head => exact hg.withAttribute
  | tail => exact hg.withAttribute
  | ends => exact hends
  | link => exact hends.withJoin
  | headFlag => exact hends.withJoin.withFlag
  | tailFlag => exact hends.withJoin.withFlag

/-- The order of the nodes does not matter to what is found under a name. -/
lemma Alike.node?_eq (h : g.Alike g') (hg : g.Regular) :
    g'.node? (.text name) = g.node? (.text name) := by
  have hhas : (g'.node? (.text name)).isSome = (g.node? (.text name)).isSome := h.hasNode_eq
  obtain ⟨ns, hperm, rfl⟩ := h
  cases hn : g.node? (.text name) with
  | none => simpa [hn] using hhas
  | some n =>
      cases hm : Graph.node? { g with nodes := ns } (.text name) with
      | none => simp [hn, hm] at hhas
      | some m =>
          have hmem := (node?_eq_some hm).1
          rw [hg.eq_of_id_eq (hperm.mem_iff.1 hmem) (node?_eq_some hn).1 (node?_eq_some hm).2
            (node?_eq_some hn).2]

end Graph

lemma MemoryStore.attribute?_of_alike {m m' : MemoryStore} (h : m.graph.Alike m'.graph)
    (hg : m.graph.Regular) (name : String) : m'.attribute? name = m.attribute? name := by
  rw [MemoryStore.attribute?, MemoryStore.attribute?, h.node?_eq hg]

lemma MemoryStore.joinsBetween_of_alike {m m' : MemoryStore} (h : m.graph.Alike m'.graph)
    (head tail : String) : m'.joinsBetween head tail = m.joinsBetween head tail := by
  obtain ⟨ns, -, heq⟩ := h
  rw [MemoryStore.joinsBetween, MemoryStore.joinsBetween, heq]
  rfl

/-! ## Loading once more -/

/-- A graph with records, in numbers. -/
def Graph.summary (g : Graph) (records : List MappingRecord) : LoadSummary :=
  ⟨records.length, (g.withRecords records).nodes.length, (g.withRecords records).edges.length⟩

lemma load_memoryStore (records : List MappingRecord) {s : Session MemoryStore}
    (hg : s.store.graph.Regular) :
    (load memoryStore records false s).1 = .ok (s.store.graph.summary records) ∧
      (load memoryStore records false s).2.store.graph = s.store.graph.withRecords records := by
  rcases memoryStore_keeps.load records hg with ⟨s', hrun, hs'⟩ | ⟨hfalse, -⟩
  · rw [hrun]
    exact ⟨rfl, hs'⟩
  · exact hfalse.elim

lemma Graph.Alike.summary_eq {g g' : Graph} {records : List MappingRecord}
    (h : (g.withRecords records).Alike (g'.withRecords records)) :
    g'.summary records = g.summary records := by
  obtain ⟨ns, hperm, heq⟩ := h
  rw [Graph.summary, Graph.summary, heq, hperm.length_eq]

/-- What a load leaves, whether it has failed or not: the records come to the same from there, and
if it has succeeded, to nothing new. -/
lemma load_disturbed (fails : Nat → Option Error) (records : List MappingRecord)
    {s : Session (Counted MemoryStore)} (hg : s.store.store.graph.Regular) :
    let first := load (memoryStore.disturbed fails) records false s
    let left := first.2.store.store.graph
    left.Regular ∧ (s.store.store.graph.withRecords records).Alike (left.withRecords records) ∧
      ∀ summary, first.1 = .ok summary →
        summary = s.store.store.graph.summary records ∧ left.withRecords records = left := by
  intro first left
  have hkeeps : (memoryStore.disturbed fails).Keeps (MemoryStore.graph ∘ Counted.store) True :=
    memoryStore_keeps.disturbed
  rcases hkeeps.load records hg with
    ⟨s', hrun, hs'⟩ | ⟨-, e, s', hrun, before, r, after, rfl, hstop⟩
  · have hfirst : first = _ := hrun
    have heq : left = s.store.store.graph.withRecords records := by
      simp only [left, hfirst]
      exact hs'
    -- records that are in the graph change nothing
    have hsettled : left.withRecords records = left := by
      rw [heq]
      exact Graph.withRecords_of_settled Graph.settled_withRecords
    refine ⟨heq ▸ hg.withRecords, ?_, fun summary h => ⟨?_, hsettled⟩⟩
    · rw [hsettled, heq]
      exact .refl _
    · rw [hfirst] at h
      exact (Except.ok.inj h).symm
  · have hfirst : first = _ := hrun
    have hstop' : (s.store.store.graph.withRecords before).Stopped r left := by
      simp only [left, hfirst]
      exact hstop
    refine ⟨hstop'.regular hg.withRecords, hstop'.withRecords_alike, fun summary h => ?_⟩
    rw [hfirst] at h
    cases h

/-- **Loading records once more.**  Behind a load that has failed or succeeded, the same load
succeeds and comes to what it would have come to at first.  If the first load has succeeded, the
graph stays as it is. -/
theorem load_again (fails : Nat → Option Error) (records : List MappingRecord)
    {s : Session MemoryStore} (hg : s.store.graph.Regular) :
    let once := load memoryStore records false s
    let first := load (memoryStore.disturbed fails) records false (s.map fun m => ⟨m, 0⟩)
    let again := load memoryStore records false (first.2.map Counted.store)
    (∃ summary, once.1 = .ok summary ∧ again.1 = .ok summary) ∧
      once.2.store.graph.Alike again.2.store.graph ∧
      (∀ name, again.2.store.attribute? name = once.2.store.attribute? name) ∧
      (∀ head tail, again.2.store.joinsBetween head tail
        = once.2.store.joinsBetween head tail) ∧
      ∀ summary, first.1 = .ok summary →
        again.1 = .ok summary ∧ again.2.store.graph = first.2.store.store.graph := by
  intro once first again
  obtain ⟨honce, hgraph⟩ := load_memoryStore records hg
  obtain ⟨hregular, halike, hsame⟩ :=
    load_disturbed fails records (s := s.map fun m => ⟨m, 0⟩) hg
  obtain ⟨hagain, hgraph'⟩ := load_memoryStore records (s := first.2.map Counted.store) hregular
  have hboth : once.2.store.graph.Alike again.2.store.graph := by
    rw [hgraph, hgraph']
    exact halike
  have hregular' : once.2.store.graph.Regular := hgraph ▸ hg.withRecords
  have hsummary : again.1 = .ok (s.store.graph.summary records) :=
    hagain.trans (congrArg Except.ok halike.summary_eq)
  refine ⟨⟨_, honce, hsummary⟩, hboth, MemoryStore.attribute?_of_alike hboth hregular',
    MemoryStore.joinsBetween_of_alike hboth, fun summary h => ?_⟩
  obtain ⟨rfl, hsettled⟩ := hsame summary h
  exact ⟨hsummary, hgraph'.trans hsettled⟩

/-- A store that knows of a shop, but not where it is. -/
def shopSession : Session MemoryStore :=
  ⟨{ graph := { nodes := [Attribute.node { name := "shop", description := "a shop" }] } },
    .none, []⟩

/-- Where the shop is. -/
def shopRecords : List MappingRecord :=
  [⟨⟨"shops", "", "1", "2"⟩, { name := "shop", description := "another shop" },
      { name := "city" }⟩,
    ⟨⟨"shops", "", "1", "3"⟩, { name := "shop" }, { name := "street" }⟩]

/-- The second join is refused. -/
def refusal (n : Nat) : Option Error := if n = 7 then some (.refusedCall "join" "shop") else none

/-- The load fails with one join in the graph, and loading once more leads to both of them. -/
theorem load_again_shopRecords :
    let once := load memoryStore shopRecords false shopSession
    let first := load (memoryStore.disturbed refusal) shopRecords false
      (shopSession.map fun m => ⟨m, 0⟩)
    let again := load memoryStore shopRecords false (first.2.map Counted.store)
    shopSession.store.graph.Regular ∧
      first.1 = .error (.ingestion "shop" "street" (.refusedCall "join" "shop")) ∧
      first.2.store.store.edgeCount = 1 ∧ again.2.store.edgeCount = 2 ∧
      once.2.store.graph.Alike again.2.store.graph := by
  have hg : shopSession.store.graph.Regular := ⟨rfl, rfl, List.pairwise_singleton _ _⟩
  exact ⟨hg, by decide +kernel, by decide +kernel, by decide +kernel,
    (load_again refusal shopRecords hg).2.1⟩

end Crosswalk
