import Crosswalk.Proofs.Mapping.Retry

/-!
# Primary flags

An attribute is primary if more than one join leads away from it.  Loading records looks only at the
attributes of each record, and yet the flags of all attributes stay right: a join changes how many
joins lead away from its first attribute alone, and both flags of a record are set behind it.  This
does not depend on how many of the records a document delivers before it breaks off.

* `Graph.FlagsRight` — **the flags of all attributes are right.**
* `Graph.FlagsRight.withRecord` — a record keeps them right.
* **`flagsRight_load`** — and so does loading records.
-/

namespace Crosswalk

namespace Graph

variable {g : Graph} {name description : String} {r : MappingRecord}

/-- How many edges lead away from a node. -/
def leaving (g : Graph) (id : Json) : Nat := g.edges.countP fun e => e.head.equals id

/-- The flag of a node says whether more than one edge leads away from it. -/
def IsRight (g : Graph) (n : Node) : Prop := n.flag.isTrue = decide (1 < g.leaving n.id)

/-- **The flags of all attributes are right.** -/
def FlagsRight (g : Graph) : Prop := ∀ n ∈ g.nodes, g.IsRight n

/-- The flags are right, except perhaps those of the attributes of a record. -/
def RightAround (g : Graph) (r : MappingRecord) : Prop :=
  ∀ n ∈ g.nodes, n.id ≠ .text r.head.name → n.id ≠ .text r.tail.name → g.IsRight n

lemma RightAround.withAttribute (h : g.RightAround r)
    (hname : name = r.head.name ∨ name = r.tail.name) :
    (g.withAttribute name description).RightAround r := by
  rw [Graph.withAttribute]
  split
  · exact h
  · intro n hn hhead htail
    rcases List.mem_append.1 hn with hn | hn
    · exact h n hn hhead htail
    · rw [List.mem_singleton.1 hn] at hhead htail
      rcases hname with rfl | rfl
      · exact absurd rfl hhead
      · exact absurd rfl htail

/-- A join leads away from its first attribute only. -/
lemma RightAround.withJoin {tail : String} {j : Joining} (h : g.RightAround r) :
    (g.withJoin r.head.name tail j).RightAround r := by
  intro n hn hhead htail
  rw [nodes_withJoin] at hn
  have hleaving : (g.withJoin r.head.name tail j).leaving n.id = g.leaving n.id := by
    rw [Graph.withJoin]
    split
    · rfl
    · simp [leaving, JoinEdge.edge, hhead]
  rw [IsRight, hleaving]
  exact h n hn hhead htail

lemma RightAround.withFlag (h : g.RightAround r)
    (hname : name = r.head.name ∨ name = r.tail.name) :
    (g.withFlag name).RightAround r := by
  intro n hn hhead htail
  obtain ⟨k, hk, rfl⟩ := List.mem_map.1 hn
  rw [id_flagged] at hhead htail
  have hother : k.id ≠ .text name := by
    rcases hname with rfl | rfl
    · exact hhead
    · exact htail
  rw [flagged_of_id_ne hother]
  exact h k hk hhead htail

lemma Flagged.isRight {n : Node} (h : g.Flagged name) (hn : n ∈ g.nodes)
    (hname : n.id = .text name) :
    g.IsRight n := by
  have hflag := Json.isTrue_of_equals_bool (h n hn hname)
  rw [IsRight, hflag, hname]
  rfl

/-- **A record keeps the flags of all attributes right.** -/
theorem FlagsRight.withRecord (h : g.FlagsRight) : (g.withRecord r).FlagsRight := by
  have haround : g.RightAround r := fun n hn _ _ => h n hn
  have hall : (g.withRecord r).RightAround r :=
    ((((haround.withAttribute (Or.inl rfl)).withAttribute (Or.inr rfl)).withJoin).withFlag
      (Or.inl rfl)).withFlag (Or.inr rfl)
  intro n hn
  by_cases hhead : n.id = .text r.head.name
  · exact settled_withRecord.headFlag.isRight hn hhead
  by_cases htail : n.id = .text r.tail.name
  · exact settled_withRecord.tailFlag.isRight hn htail
  exact hall n hn hhead htail

lemma FlagsRight.withRecords {rs : List MappingRecord} (h : g.FlagsRight) :
    (g.withRecords rs).FlagsRight := by
  induction rs generalizing g with
  | nil => exact h
  | cons r rs ih => exact ih h.withRecord

end Graph

/-! ## Loading -/

/-- Records loaded up to the failure that ends them, if there is one, into a store that may be
emptied first. -/
def loadDelivered {σ : Type} (store : Store σ) (d : MappingDocument.Delivery) (reset : Bool) :
    Action σ LoadSummary := do
  if reset then clearStore store
  loadDelivery store d

variable {s : Session MemoryStore}

lemma flagsRight_reset (m : MemoryStore) : m.reset.graph.FlagsRight := by
  intro n hn
  exact absurd hn List.not_mem_nil

lemma regular_reset {m : MemoryStore} (hg : m.graph.Regular) : m.reset.graph.Regular :=
  ⟨hg.directed, hg.parallel, .nil⟩

/-- An emptied store has no flags that could be wrong. -/
lemma flagsRight_clearStore_bind {α : Type} {a : Unit → Action MemoryStore α}
    (ha : ∀ s, s.store.graph.Regular → s.store.graph.FlagsRight →
      (a () s).2.store.graph.FlagsRight)
    (hg : s.store.graph.Regular) : ((clearStore memoryStore >>= a) s).2.store.graph.FlagsRight := by
  have hclear : clearStore memoryStore s = (.ok (), { s with store := s.store.reset }.noted
      .debug loaderSource "Cleared the graph") := rfl
  rw [Action.bind_of_ok hclear]
  exact ha _ (regular_reset hg) (flagsRight_reset _)

lemma flagsRight_loadDelivery (d : MappingDocument.Delivery) (s : Session MemoryStore)
    (hg : s.store.graph.Regular) (hflags : s.store.graph.FlagsRight) :
    (loadDelivery memoryStore d s).2.store.graph.FlagsRight := by
  rw [memoryStore_keeps.graph_loadDelivery d hg]
  exact hflags.withRecords

/-- What a document delivers is loaded next to an entry in the log. -/
lemma flagsRight_readDelivery (path : Path) (s : Session MemoryStore)
    (hg : s.store.graph.Regular) (hflags : s.store.graph.FlagsRight) :
    (loadFile memoryStore path false s).2.store.graph.FlagsRight :=
  flagsRight_loadDelivery (MappingDocument.read s.files path) (s.noted _ _ _) hg hflags

/-- **Loading records keeps the flags of all attributes right**, with or without emptying the store
first, and wherever the document of the records breaks off. -/
theorem flagsRight_load (hg : s.store.graph.Regular) (hflags : s.store.graph.FlagsRight)
    (reset : Bool) :
    (∀ records, (load memoryStore records reset s).2.store.graph.FlagsRight) ∧
      (∀ d, (loadDelivered memoryStore d reset s).2.store.graph.FlagsRight) ∧
      ∀ path, (loadFile memoryStore path reset s).2.store.graph.FlagsRight := by
  have hdelivered : ∀ d, (loadDelivered memoryStore d reset s).2.store.graph.FlagsRight := by
    intro d
    cases reset with
    | false => exact flagsRight_loadDelivery d s hg hflags
    | true => exact flagsRight_clearStore_bind (flagsRight_loadDelivery d) hg
  refine ⟨fun records => hdelivered (.ofList records), hdelivered, fun path => ?_⟩
  cases reset with
  | false => exact flagsRight_readDelivery path s hg hflags
  | true => exact flagsRight_clearStore_bind (flagsRight_readDelivery path) hg

/-- Two joins lead away from the shop, which is primary then. -/
theorem flagsRight_load_shopRecords :
    shopSession.store.graph.Regular ∧ shopSession.store.graph.FlagsRight ∧
      (load memoryStore shopRecords false shopSession).2.store.attribute? "shop"
        = .ok (some ⟨"shop", "a shop", true⟩) ∧
      (load memoryStore shopRecords false shopSession).2.store.graph.FlagsRight := by
  have hg : shopSession.store.graph.Regular := ⟨rfl, rfl, List.pairwise_singleton _ _⟩
  have hflags : shopSession.store.graph.FlagsRight := by
    intro n hn
    rw [List.mem_singleton.1 hn]
    rfl
  exact ⟨hg, hflags, by decide +kernel, (flagsRight_load hg hflags false).1 shopRecords⟩

end Crosswalk
