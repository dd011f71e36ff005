import Crosswalk.Proofs.Mapping.Ledger
import Crosswalk.Proofs.Mapping.Loading

/-!
# Requests to a store

What can be asked of a store in any order, and what it comes to in a store in memory: the ledger of
its graph changes, and nothing else does but for the note that the graph has changed.

* `Request` — **what can be asked of a store.**
* `Request.perform`, `Request.performAll` — asking it.
* `Request.enter`, `Ledger.ofRequests` — what it means for a ledger.
* **`Request.perform_memoryStore`** — a store in memory with the graph of a ledger.
-/

namespace Crosswalk

/-- **What can be asked of a store.** -/
inductive Request where
  | upsert (name description : String)
  | join (head tail : String) (joining : Joining)
  | recomputePrimary (name : String)
  | reset
  | hasAttribute (name : String)
  | attribute? (name : String)
  | joinsBetween (head tail : String)
  | attributeCount
  | edgeCount
  deriving DecidableEq

namespace Request

variable {σ : Type}

/-- What a request leads to, whether it fails or not. -/
def perform (store : Store σ) (s : Session σ) : Request → Session σ
  | upsert name description => (store.upsert name description s).2
  | join head tail j => (store.join head tail j s).2
  | recomputePrimary name => (store.recomputePrimary name s).2
  | reset => (store.reset s).2
  | hasAttribute name => (store.hasAttribute name s).2
  | attribute? name => (store.attribute? name s).2
  | joinsBetween head tail => (store.joinsBetween head tail s).2
  | attributeCount => (store.attributeCount s).2
  | edgeCount => (store.edgeCount s).2

/-- What requests lead to, one after the other. -/
def performAll (store : Store σ) (rs : List Request) (s : Session σ) : Session σ :=
  rs.foldl (perform store) s

/-- What a request means for a ledger. -/
def enter (l : Ledger) : Request → Ledger
  | upsert name description => l.withAttribute name description
  | join head tail j => l.withJoin head tail j
  | recomputePrimary name => l.withFlag name
  | reset => .empty
  | hasAttribute _ | attribute? _ | joinsBetween _ _ | attributeCount | edgeCount => l

end Request

/-- The ledger of a new store behind requests. -/
def Ledger.ofRequests (rs : List Request) : Ledger := rs.foldl Request.enter .empty

/-! ## Stores in memory -/

section Memory

variable {l : Ledger} {s : Session MemoryStore}

lemma Ledger.withJoin_of_missing {head tail : String} {j : Joining}
    (h : ¬ (head ∈ l.names ∧ tail ∈ l.names)) : l.withJoin head tail j = l :=
  dif_neg fun hall => h ⟨hall.1, hall.2.1⟩

lemma Ledger.countP_head_of_notMem {name : String} (h : name ∉ l.names) :
    (l.joins.countP fun j => j.1.head = name) = 0 := by
  refine List.countP_eq_zero.2 fun j hj hhead => h ?_
  rw [← of_decide_eq_true hhead]
  exact (l.ends j hj).1

lemma Ledger.withFlag_of_notMem {name : String} (h : name ∉ l.names) :
    l.withFlag name = l := by
  have hsame : l.attributes.map
      (Attribute.flagged name (1 < l.joins.countP fun j => j.1.head = name)) = l.attributes := by
    refine (List.map_congr_left fun a ha => ?_).trans (List.map_id _)
    rw [Attribute.flagged, if_neg fun hname => h (List.mem_map.2 ⟨a, ha, hname⟩)]
    rfl
  rw [← Ledger.attributes_withFlag] at hsame
  cases l
  rw [Ledger.withFlag, Ledger.mk.injEq]
  exact ⟨hsame, rfl⟩

lemma upsert_memoryStore (hm : s.store.graph = l.graph) (name description : String) :
    memoryStore.upsert name description s = (.ok (!decide (name ∈ l.names)),
      { s with store := s.store.withGraph (l.withAttribute name description).graph }) := by
  have hnew : s.store.hasAttribute name = decide (name ∈ l.names) := by
    rw [Bool.eq_iff_iff, Ledger.hasAttribute_eq hm, decide_eq_true_iff]
  refine MemoryStore.change_of_ok (congrArg Except.ok ?_)
  rw [MemoryStore.upsert_eq, hnew, hm, Ledger.graph_withAttribute]

lemma join_memoryStore {head tail : String} (hm : s.store.graph = l.graph)
    (hhead : head ∈ l.names) (htail : tail ∈ l.names) (j : Joining) :
    memoryStore.join head tail j s
      = (.ok (), { s with store := s.store.withGraph (l.withJoin head tail j).graph }) := by
  refine MemoryStore.change_of_ok ?_
  rw [MemoryStore.join_eq (hm ▸ l.regular_graph.parallel) ((Ledger.hasAttribute_eq hm).2 hhead)
    ((Ledger.hasAttribute_eq hm).2 htail), hm, Ledger.graph_withJoin hhead htail]
  rfl

/-- A join without one of its attributes changes nothing. -/
lemma join_memoryStore_of_missing {head tail : String} (hm : s.store.graph = l.graph)
    (h : ¬ (head ∈ l.names ∧ tail ∈ l.names)) (j : Joining) :
    memoryStore.join head tail j s = (.error (.missingAttribute
      (if head ∈ l.names then tail else head) (edgeText head tail)), s) := by
  refine MemoryStore.change_of_error ?_
  rw [MemoryStore.join_of_missing (by simpa [Ledger.hasAttribute_eq hm] using h)]
  simp only [Ledger.hasAttribute_eq hm]
  rfl

lemma recomputePrimary_memoryStore (hm : s.store.graph = l.graph) (name : String) :
    memoryStore.recomputePrimary name s
      = (.ok (decide (1 < l.joins.countP fun j => j.1.head = name)),
          { s with store := s.store.withGraph (l.withFlag name).graph }) := by
  have hflag : (s.store.hasAttribute name && decide (1 < s.store.graph.degree name))
      = decide (1 < l.joins.countP fun j => j.1.head = name) := by
    rw [hm, Ledger.degree_graph, Bool.eq_iff_iff, Bool.and_eq_true, Ledger.hasAttribute_eq hm,
      decide_eq_true_iff, and_iff_right_iff_imp]
    -- only attributes have joins
    intro hmany
    by_contra hname
    rw [Ledger.countP_head_of_notMem hname] at hmany
    omega
  refine MemoryStore.change_of_ok ?_
  rw [MemoryStore.recomputePrimary_eq (hm ▸ l.regular_graph), hflag, hm, Ledger.graph_withFlag]

/-- **A store in memory with the graph of a ledger** behind a request has that of the next ledger.
It takes note of a change, and of being emptied in any case. -/
theorem Request.perform_memoryStore (hm : s.store.graph = l.graph) (r : Request) :
    r.perform memoryStore s = { s with
      store := if r = .reset then s.store.reset else s.store.withGraph (r.enter l).graph } := by
  have hread : s = { s with store := s.store.withGraph l.graph } := by
    rw [← hm, MemoryStore.withGraph_self]
  cases r with
  | upsert name description => exact congrArg Prod.snd (upsert_memoryStore hm name description)
  | join head tail j =>
      by_cases h : head ∈ l.names ∧ tail ∈ l.names
      · exact congrArg Prod.snd (join_memoryStore hm h.1 h.2 j)
      · rw [if_neg nofun, Request.enter, Ledger.withJoin_of_missing h, ← hread]
        exact congrArg Prod.snd (join_memoryStore_of_missing hm h j)
  | recomputePrimary name => exact congrArg Prod.snd (recomputePrimary_memoryStore hm name)
  | reset => rfl
  | _ => exact hread

lemma Request.graph_perform (hm : s.store.graph = l.graph) (r : Request) :
    (r.perform memoryStore s).store.graph = (r.enter l).graph := by
  rw [r.perform_memoryStore hm]
  split
  · next h =>
      rw [h, MemoryStore.reset, hm]
      rfl
  · rfl

/-- **A store in memory with the graph of a ledger** has that of another behind requests. -/
theorem Request.graph_performAll (hm : s.store.graph = l.graph) (rs : List Request) :
    (performAll memoryStore rs s).store.graph = (rs.foldl enter l).graph := by
  induction rs generalizing s l with
  | nil => exact hm
  | cons r rs ih => exact ih (r.graph_perform hm)

end Memory

end Crosswalk
