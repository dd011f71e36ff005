import Crosswalk.Mapping.Loader
import Crosswalk.Mapping.Memory
import Crosswalk.Proofs.Mapping.Records

/-!
# Loading records into a graph

Loading is a row of calls of a store.  A store keeps a graph if each of the calls either makes its
change of the graph, or fails and leaves the graph alone.  Then a load that succeeds puts all of its
records into the graph, and one that fails has put the records in front of some record there, and of
that record as much as came before the failure.

* `Reaches` — **what an action comes to**: a graph, or, if it may fail, one of some others.
* `Store.Keeps` — stores that keep a graph.
* **`Store.Keeps.loadAll`** — what loading records comes to.
* `memoryStore_keeps` — the store in memory keeps a graph, and its calls do not fail.
-/

namespace Crosswalk

variable {σ α β : Type}

/-! ## Actions in a row -/

/-- A session with one more entry in its log. -/
def Session.noted (severity : Severity) (source message : String) (s : Session σ) : Session σ :=
  { s with log := s.log ++ [{ severity, source, message }] }

@[simp] lemma Session.store_noted (severity : Severity) (source message : String)
    (s : Session σ) : (s.noted severity source message).store = s.store := rfl

section Steps

variable {a : Action σ α} {f : α → Action σ β} {s s' : Session σ} {x : α} {e : Error}

lemma Action.bind_of_ok (h : a s = (.ok x, s')) : (a >>= f) s = f x s' := by
  simp only [bind, ExceptT.bind, ExceptT.mk, StateT.bind]
  rw [h]
  rfl

lemma Action.bind_of_error (h : a s = (.error e, s')) : (a >>= f) s = (.error e, s') := by
  simp only [bind, ExceptT.bind, ExceptT.mk, StateT.bind]
  rw [h]
  rfl

lemma Action.note_bind (severity : Severity) (source message : String) (b : Action σ β) :
    (do Action.note severity source message; b) s = b (s.noted severity source message) :=
  Action.bind_of_ok rfl

lemma Action.getStore_bind (f : σ → Action σ β) : (Action.getStore >>= f) s = f s.store s :=
  Action.bind_of_ok rfl

lemma Action.getFiles_bind (f : Files → Action σ β) : (Action.getFiles >>= f) s = f s.files s :=
  Action.bind_of_ok rfl

lemma Action.setStore_bind (store : σ) (f : Unit → Action σ β) :
    (Action.setStore store >>= f) s = f () { s with store } :=
  Action.bind_of_ok rfl

/-- The last of many actions is done behind the others. -/
lemma Action.forM_concat {g : β → Action σ Unit} {xs : List β} {x : β}
    (h : forM xs g s = (.ok (), s')) : forM (xs ++ [x]) g s = g x s' := by
  rw [List.forM_append, Action.bind_of_ok h, List.forM_cons, List.forM_nil, bind_pure_unit]

lemma Action.both_apply (a b : Action σ Unit) (s : Session σ) :
    Action.both a b s = ((a s).1.bind fun _ => (b (a s).2).1, (b (a s).2).2) := by
  have hrun : Action.both a b s
      = (do Action.of (a s).1; Action.of (b (a s).2).1 : Action σ Unit) (b (a s).2).2 := rfl
  rw [hrun]
  cases (a s).1 <;> rfl

end Steps

/-- **What an action comes to**: a graph, or, if it may fail, one of those that it may stop at. -/
inductive Reaches (graph : σ → Graph) (mayFail : Prop) (goal : Graph) (stops : Graph → Prop) :
    Except Error α × Session σ → Prop where
  | goal {x : α} {s : Session σ} (h : graph s.store = goal) :
    Reaches graph mayFail goal stops (.ok x, s)
  | stop {e : Error} {s : Session σ} (hmay : mayFail) (h : stops (graph s.store)) :
    Reaches graph mayFail goal stops (.error e, s)

/-- **Stores that keep a graph**: a call makes its change, or fails, if it may, and changes
nothing. -/
structure Store.Keeps (store : Store σ) (graph : σ → Graph) (mayFail : Prop) : Prop where
  upsert : ∀ name description s, (graph s.store).Regular →
    Reaches graph mayFail ((graph s.store).withAttribute name description) (· = graph s.store)
      (store.upsert name description s)
  join : ∀ head tail j s, (graph s.store).Regular →
    (graph s.store).hasNode (.text head) → (graph s.store).hasNode (.text tail) →
    Reaches graph mayFail ((graph s.store).withJoin head tail j) (· = graph s.store)
      (store.join head tail j s)
  recomputePrimary : ∀ name s, (graph s.store).Regular →
    Reaches graph mayFail ((graph s.store).withFlag name) (· = graph s.store)
      (store.recomputePrimary name s)
  reset : ∀ s, ∃ s', store.reset s = (.ok (), s') ∧
    graph s'.store = { graph s.store with data := .object [], nodes := [], edges := [] }
  attributeCount : ∀ s, store.attributeCount s = (.ok (graph s.store).nodes.length, s)
  edgeCount : ∀ s, store.edgeCount s = (.ok (graph s.store).edges.length, s)

section Reaches

variable {graph : σ → Graph} {mayFail : Prop} {goal goal' : Graph}
  {stops stops' : Graph → Prop}
  {s : Session σ}

lemma Reaches.mono {out : Except Error α × Session σ} (h : Reaches graph mayFail goal stops out)
    (hstops : ∀ g, stops g → stops' g) : Reaches graph mayFail goal stops' out := by
  cases h with
  | goal h => exact .goal h
  | stop hmay h => exact .stop hmay (hstops _ h)

lemma Reaches.bind {a : Action σ α} {f : α → Action σ β}
    (h : Reaches graph mayFail goal stops (a s))
    (hnext : ∀ x s', graph s'.store = goal → Reaches graph mayFail goal' stops (f x s')) :
    Reaches graph mayFail goal' stops ((a >>= f) s) := by
  generalize ha : a s = out at h
  cases h with
  | goal h =>
      rw [Action.bind_of_ok ha]
      exact hnext _ _ h
  | stop hmay h =>
      rw [Action.bind_of_error ha]
      exact .stop hmay h

/-- Of two actions that are both done, either one or both may be left out. -/
lemma Reaches.both {a b : Action σ Unit} (first second : Graph → Graph) {g : Graph}
    (ha : Reaches graph mayFail (first g) (· = g) (a s))
    (hb : ∀ s', graph s'.store = g ∨ graph s'.store = first g →
      Reaches graph mayFail (second (graph s'.store)) (· = graph s'.store) (b s')) :
    Reaches graph mayFail (second (first g)) (fun k => k = g ∨ k = first g ∨ k = second g)
      (Action.both a b s) := by
  rw [Action.both_apply]
  generalize a s = out at ha
  cases ha with
  | @goal x s' h =>
      have hnext := hb s' (Or.inr h)
      rw [h] at hnext
      dsimp only
      generalize b s' = out at hnext
      cases hnext with
      | goal h' => exact .goal h'
      | stop hmay h' => exact .stop hmay (Or.inr (Or.inl h'))
  | @stop e s' hmay h =>
      have hnext := hb s' (Or.inl h)
      rw [h] at hnext
      dsimp only
      generalize b s' = out at hnext
      cases hnext with
      | goal h' => exact .stop hmay (Or.inr (Or.inr h'))
      | stop _ h' => exact .stop hmay (Or.inl h')

end Reaches

/-! ## Loading -/

/-- Both attributes of a record put into a store. -/
def storeEnds (store : Store σ) (r : MappingRecord) : Action σ Unit :=
  if r.head.name = r.tail.name then storeAttribute store r.head
  else Action.both (storeAttribute store r.head) (storeAttribute store r.tail)

lemma storeParts_eq (store : Store σ) (r : MappingRecord) :
    storeParts store r = (do
      storeEnds store r
      store.join r.head.name r.tail.name r.toJoining
      Action.both (refreshPrimary store r.head.name) (refreshPrimary store r.tail.name)) := by
  rw [storeParts, storeEnds]
  split <;> rfl

/-- A record is loaded by its parts, and a failure of one of them is named after the record. -/
lemma loadRecord_apply (store : Store σ) (r : MappingRecord) (s : Session σ) :
    ∃ s' : Session σ, s'.store = s.store ∧ loadRecord store r s
      = ((storeParts store r s').1.mapError (.ingestion r.head.name r.tail.name),
          (storeParts store r s').2) := by
  let s' := s.noted .debug loaderSource
    ("Storing edge: \"" ++ r.head.name ++ "\" -> \"" ++ r.tail.name ++ "\"")
  have hrun : (storeParts store r).outcome s'
      = (.ok (storeParts store r s').1, (storeParts store r s').2) := rfl
  refine ⟨s', rfl, ?_⟩
  rw [loadRecord, Action.note_bind, Action.bind_of_ok hrun]
  cases (storeParts store r s').1 <;> rfl

namespace Store.Keeps

variable {store : Store σ} {graph : σ → Graph} {mayFail : Prop} {s : Session σ}

lemma storeAttribute (h : store.Keeps graph mayFail) (a : Attribute)
    (hg : (graph s.store).Regular) :
    Reaches graph mayFail ((graph s.store).withAttribute a.name a.description)
      (· = graph s.store) (storeAttribute store a s) := by
  refine (h.upsert a.name a.description s hg).bind fun isNew s' hs' => ?_
  cases isNew
  · exact .goal hs'
  · exact .goal hs'

lemma refreshPrimary (h : store.Keeps graph mayFail) (name : String)
    (hg : (graph s.store).Regular) :
    Reaches graph mayFail ((graph s.store).withFlag name) (· = graph s.store)
      (refreshPrimary store name s) :=
  (h.recomputePrimary name s hg).bind fun _ _ hs' => .goal hs'

lemma storeEnds (h : store.Keeps graph mayFail) (r : MappingRecord)
    (hg : (graph s.store).Regular) :
    Reaches graph mayFail ((graph s.store).withEnds r) ((graph s.store).Stopped r)
      (storeEnds store r s) := by
  rw [Crosswalk.storeEnds]
  split
  · next hsame =>
      have hends : (graph s.store).withEnds r
          = (graph s.store).withAttribute r.head.name r.head.description := by
        rw [Graph.withEnds, Graph.withAttribute_of_hasNode
          (Graph.hasNode_withAttribute.2 (Or.inl hsame.symm))]
      rw [hends]
      exact (h.storeAttribute r.head hg).mono fun k hk => hk ▸ .before
  · next hne =>
      refine Reaches.mono (Reaches.both (Graph.withAttribute r.head.name r.head.description)
        (Graph.withAttribute r.tail.name r.tail.description)
        (h.storeAttribute r.head hg) fun s' hs' => h.storeAttribute r.tail ?_) ?_
      · exact hs'.elim (· ▸ hg) (· ▸ hg.withAttribute)
      · rintro k (rfl | rfl | rfl)
        · exact .before
        · exact .head
        · exact .tail hne

lemma storeParts (h : store.Keeps graph mayFail) (r : MappingRecord)
    (hg : (graph s.store).Regular) :
    Reaches graph mayFail ((graph s.store).withRecord r) ((graph s.store).Stopped r)
      (storeParts store r s) := by
  have hends : ((graph s.store).withEnds r).Regular := hg.withAttribute.withAttribute
  have hlink : ((graph s.store).withLink r).Regular := hends.withJoin
  rw [storeParts_eq]
  refine (h.storeEnds r hg).bind fun _ s₁ h₁ => ?_
  have hjoin := h.join r.head.name r.tail.name r.toJoining s₁ (h₁ ▸ hends)
    (h₁ ▸ (Graph.hasNode_withEnds r _).1) (h₁ ▸ (Graph.hasNode_withEnds r _).2)
  rw [h₁] at hjoin
  refine (hjoin.mono fun k hk => hk ▸ .ends).bind fun _ s₂ h₂ => ?_
  rw [← Graph.withLink] at h₂
  have hfirst := h.refreshPrimary r.head.name (s := s₂) (h₂ ▸ hlink)
  rw [h₂] at hfirst
  refine Reaches.mono (Reaches.both (Graph.withFlag r.head.name) (Graph.withFlag r.tail.name) hfirst
    fun s' hs' => h.refreshPrimary r.tail.name ?_) ?_
  · exact hs'.elim (· ▸ hlink) (· ▸ hlink.withFlag)
  · rintro k (rfl | rfl | rfl)
    · exact .link
    · exact .headFlag
    · exact .tailFlag

lemma loadRecord (h : store.Keeps graph mayFail) (r : MappingRecord)
    (hg : (graph s.store).Regular) :
    Reaches graph mayFail ((graph s.store).withRecord r) ((graph s.store).Stopped r)
      (loadRecord store r s) := by
  obtain ⟨s', hs', hrun⟩ := loadRecord_apply store r s
  have hparts := h.storeParts (s := s') r (hs' ▸ hg)
  rw [hs'] at hparts
  rw [hrun]
  generalize Crosswalk.storeParts store r s' = out at hparts
  cases hparts with
  | goal h => exact .goal h
  | stop hmay h => exact .stop hmay h

/-- **What loading records comes to.**  All of them are in the graph, or loading has stopped at one
of them with the others in front of it in the graph. -/
theorem loadAll (h : store.Keeps graph mayFail) (rs : List MappingRecord)
    (hg : (graph s.store).Regular) :
    Reaches graph mayFail ((graph s.store).withRecords rs)
      (fun k => ∃ before r after, rs = before ++ r :: after ∧
        ((graph s.store).withRecords before).Stopped r k) (loadAll store rs s) := by
  induction rs generalizing s with
  | nil => exact .goal rfl
  | cons r rs ih =>
      refine ((h.loadRecord r hg).mono fun k hk => ⟨[], r, rs, rfl, hk⟩).bind fun _ s' hs' => ?_
      have hrest := ih (s := s') (hs' ▸ hg.withRecord)
      rw [hs'] at hrest
      refine hrest.mono ?_
      rintro k ⟨before, q, after, rfl, hk⟩
      exact ⟨r :: before, q, after, rfl, hk⟩

/-- **Records that are loaded are counted** together with what is in the graph then. -/
theorem load (h : store.Keeps graph mayFail) (rs : List MappingRecord)
    (hg : (graph s.store).Regular) :
    (∃ s',
      load store rs false s
        = (.ok ⟨rs.length, ((graph s.store).withRecords rs).nodes.length,
          ((graph s.store).withRecords rs).edges.length⟩, s') ∧
      graph s'.store = (graph s.store).withRecords rs) ∨
    (mayFail ∧ ∃ e s', load store rs false s = (.error e, s') ∧
      ∃ before r after, rs = before ++ r :: after ∧
        ((graph s.store).withRecords before).Stopped r (graph s'.store)) := by
  have hall := h.loadAll rs hg
  have hload : Crosswalk.load store rs false = loadDelivery store (.ofList rs) := rfl
  rw [hload, loadDelivery, MappingDocument.Delivery.ofList]
  dsimp only
  generalize hout : Crosswalk.loadAll store _ s = out at hall
  cases hall with
  | @goal _ s' hs' =>
      left
      rw [Action.bind_of_ok hout, Action.bind_of_ok (h.attributeCount s'),
        Action.bind_of_ok (h.edgeCount s'), Action.note_bind, ← hs']
      exact ⟨_, rfl, rfl⟩
  | @stop e s' hmay hs' =>
      right
      exact ⟨hmay, e, s', Action.bind_of_error hout, hs'⟩

/-- A store whose calls do not fail has all records of a delivery, also of one that breaks off. -/
lemma graph_loadDelivery (h : store.Keeps graph False) (d : MappingDocument.Delivery)
    (hg : (graph s.store).Regular) :
    graph (loadDelivery store d s).2.store = (graph s.store).withRecords d.records := by
  have hall := h.loadAll d.records hg
  rw [loadDelivery]
  generalize hout : Crosswalk.loadAll store _ s = out at hall
  cases hall with
  | @goal _ s' hs' =>
      rw [Action.bind_of_ok hout]
      cases d.failure with
      | none =>
          dsimp only
          rw [Action.bind_of_ok (h.attributeCount s'), Action.bind_of_ok (h.edgeCount s'),
            Action.note_bind]
          exact hs'
      | some e => exact hs'
  | stop hmay => exact hmay.elim

end Store.Keeps

/-! ## The store in memory -/

lemma MemoryStore.change_of_ok {f : MemoryStore → Except Error (α × MemoryStore)} {x : α}
    {m : MemoryStore} {s : Session MemoryStore} (h : f s.store = .ok (x, m)) :
    MemoryStore.change f s = (.ok x, { s with store := m }) := by
  have hask : MemoryStore.ask f s = (f s.store, s) := rfl
  rw [MemoryStore.change, Action.bind_of_ok (hask.trans (by rw [h]))]
  rfl

lemma MemoryStore.change_of_error {f : MemoryStore → Except Error (α × MemoryStore)} {e : Error}
    {s : Session MemoryStore} (h : f s.store = .error e) :
    MemoryStore.change f s = (.error e, s) := by
  have hask : MemoryStore.ask f s = (f s.store, s) := rfl
  rw [MemoryStore.change, Action.bind_of_error (hask.trans (by rw [h]))]

/-- **The store in memory keeps its graph**, and its calls do not fail. -/
theorem memoryStore_keeps : memoryStore.Keeps MemoryStore.graph False where
  upsert name description s _ := by
    have hrun : memoryStore.upsert name description s = _ :=
      MemoryStore.change_of_ok (congrArg Except.ok (s.store.upsert_eq name description))
    rw [hrun]
    exact .goal rfl
  join head tail j s hg hhead htail := by
    have hrun : memoryStore.join head tail j s = _ :=
      MemoryStore.change_of_ok (by rw [MemoryStore.join_eq hg.parallel hhead htail]; rfl)
    rw [hrun]
    exact .goal rfl
  recomputePrimary name s hg := by
    have hrun : memoryStore.recomputePrimary name s = _ :=
      MemoryStore.change_of_ok (MemoryStore.recomputePrimary_eq hg name)
    rw [hrun]
    exact .goal rfl
  reset s := ⟨_, rfl, rfl⟩
  attributeCount _ := rfl
  edgeCount _ := rfl

end Crosswalk
