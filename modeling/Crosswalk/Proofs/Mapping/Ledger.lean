import Crosswalk.Proofs.Mapping.Records

/-!
# Ledgers

The graph that a store has built itself holds nothing but attributes and joins: a ledger.  Joins
between the same attributes are numbered in the order in which they were added, so that the order of
their keys is this order.  Each change of the graph is a change of the ledger, and what a store
answers can be read off the ledger.

* `Ledger` — **attributes and joins**, with the numbers of the joins.
* `Ledger.graph` — the graph of a ledger.
* `Ledger.withAttribute`, `Ledger.withJoin`, `Ledger.withFlag` — **the three changes.**
* `Ledger.graph_withAttribute`, `Ledger.graph_withJoin`, `Ledger.graph_withFlag` — the graph
  changes with the ledger.
* `Ledger.attribute?_eq`, **`Ledger.joinsBetween_eq`** — what a store with that graph answers.
-/

namespace Crosswalk

/-- Whether a join leads from one attribute to another. -/
def JoinEdge.leads (head tail : String) (j : JoinEdge) : Bool := j.head = head ∧ j.tail = tail

/-- An attribute with its primary flag, if it is the one of a name. -/
def Attribute.flagged (name : String) (primary : Bool) (a : Attribute) : Attribute :=
  if a.name = name then { a with primary } else a

@[simp] lemma Attribute.name_flagged (name : String) (primary : Bool) (a : Attribute) :
    (a.flagged name primary).name = a.name := by
  rw [Attribute.flagged]
  split <;> rfl

/-- **Attributes and joins**, each join with its number among those between the same attributes. -/
structure Ledger where
  attributes : List Attribute
  joins : List (JoinEdge × Nat)
  distinct : (attributes.map Attribute.name).Nodup
  ends : ∀ j ∈ joins,
    j.1.head ∈ attributes.map Attribute.name ∧ j.1.tail ∈ attributes.map Attribute.name
  numbered : ∀ head tail, ∃ n,
    (joins.filter fun j => j.1.leads head tail).map Prod.snd = List.range n

namespace Ledger

variable {l : Ledger} {name description head tail : String} {j : Joining}

/-- The names of the attributes. -/
def names (l : Ledger) : List String := l.attributes.map Attribute.name

/-- The joins from one attribute to another. -/
def between (l : Ledger) (head tail : String) : List (JoinEdge × Nat) :=
  l.joins.filter fun j => j.1.leads head tail

/-- The edge of a join with a number. -/
def edge (j : JoinEdge × Nat) : Edge := j.1.edge (.int j.2)

/-- **The graph of a ledger.** -/
def graph (l : Ledger) : Graph :=
  { nodes := l.attributes.map Attribute.node, edges := l.joins.map edge }

/-- The ledger of a new store. -/
def empty : Ledger := ⟨[], [], .nil, nofun, fun _ _ => ⟨0, rfl⟩⟩

/-! ## The graph -/

lemma regular_graph (l : Ledger) : l.graph.Regular := by
  refine ⟨rfl, rfl, List.pairwise_map.2 ?_⟩
  refine (List.pairwise_map.1 l.distinct).imp fun {a b} hne => ?_
  simpa [Attribute.node] using hne

lemma hasNode_graph : l.graph.hasNode (.text name) ↔ name ∈ l.names := by
  simp [Graph.hasNode_iff, graph, names, Attribute.node]

lemma degree_graph : l.graph.degree name = l.joins.countP fun j => j.1.head = name := by
  rw [Graph.degree, graph, List.countP_map]
  refine List.countP_congr fun j _ => ?_
  simp [edge, JoinEdge.edge]

lemma edgesBetween_graph :
    l.graph.edgesBetween (.text head) (.text tail) = (l.between head tail).map edge := by
  rw [Graph.edgesBetween, between, graph, List.filter_map]
  congr 1
  refine List.filter_congr fun j _ => ?_
  rw [Bool.eq_iff_iff]
  simp [Graph.joins, edge, JoinEdge.edge, JoinEdge.leads]

lemma numbers_between (l : Ledger) (head tail : String) :
    (l.between head tail).map Prod.snd = List.range (l.between head tail).length := by
  obtain ⟨n, hn⟩ := l.numbered head tail
  have hlen : (l.between head tail).length = n := by
    simpa [between] using congrArg List.length hn
  rw [hlen]
  exact hn

/-- The number of a new join is how many there are. -/
lemma newKey_graph :
    l.graph.newKey (.text head) (.text tail) = .int (l.between head tail).length := by
  have hkeys : (l.graph.edgesBetween (.text head) (.text tail)).map Edge.key
      = (List.range (l.between head tail).length).map fun i => .int i := by
    rw [edgesBetween_graph, ← numbers_between, List.map_map, List.map_map]
    rfl
  rw [Graph.newKey, hkeys, List.length_map, List.length_range, Graph.freeKey, if_neg]
  simp

lemma holds_edge (k : Joining) (e : JoinEdge × Nat) : (edge e).holds k ↔ e.1.toJoining = k := by
  obtain ⟨⟨⟨d, q, a, b⟩, h, t, s⟩, n⟩ := e
  obtain ⟨d', q', a', b'⟩ := k
  simp [Edge.holds, edge, JoinEdge.edge, MemoryStore.joiningData, List.lookup_cons]

lemma knows_graph : l.graph.knows head tail j ↔
    ∃ e ∈ l.between head tail, e.1.toJoining = j := by
  simp [Graph.knows, edgesBetween_graph, holds_edge]

/-! ## Changes -/

/-- The ledger with an attribute.  The first description counts. -/
def withAttribute (name description : String) (l : Ledger) : Ledger :=
  if h : name ∈ l.names then l
  else
    { l with
      attributes := l.attributes ++ [{ name, description }]
      distinct := by
        rw [List.map_append, List.nodup_append]
        refine ⟨l.distinct, by simp, fun a ha b hb hab => h ?_⟩
        obtain rfl : a = name := by simpa [hab] using hb
        exact ha
      ends := fun j hj => by
        rw [List.map_append]
        exact (l.ends j hj).imp (List.mem_append_left _) (List.mem_append_left _) }

/-- The ledger with a join between two of its attributes. -/
def withJoin (head tail : String) (j : Joining) (l : Ledger) : Ledger :=
  if h : head ∈ l.names ∧ tail ∈ l.names ∧
      ∀ e ∈ l.between head tail, e.1.toJoining ≠ j then
    { l with
      joins := l.joins ++ [({ j with head, tail }, (l.between head tail).length)]
      ends := fun e he => by
        rcases List.mem_append.1 he with he | he
        · exact l.ends e he
        · rw [List.mem_singleton.1 he]
          exact ⟨h.1, h.2.1⟩
      numbered := fun a b => by
        rw [List.filter_append, List.map_append]
        by_cases hab : head = a ∧ tail = b
        · obtain ⟨rfl, rfl⟩ := hab
          refine ⟨(l.between head tail).length + 1, ?_⟩
          rw [List.range_succ, ← numbers_between]
          simp [between, JoinEdge.leads]
        · obtain ⟨n, hn⟩ := l.numbered a b
          refine ⟨n, ?_⟩
          rw [hn]
          simp [JoinEdge.leads, hab] }
  else l

/-- The ledger with the primary flag of an attribute set right. -/
def withFlag (name : String) (l : Ledger) : Ledger :=
  let primary : Bool := 1 < l.joins.countP fun j => j.1.head = name
  have hnames : (l.attributes.map (Attribute.flagged name primary)).map Attribute.name
      = l.attributes.map Attribute.name := by
    rw [List.map_map]
    exact List.map_congr_left fun a _ => Attribute.name_flagged name primary a
  { l with
    attributes := l.attributes.map (Attribute.flagged name primary)
    distinct := hnames ▸ l.distinct
    ends := hnames ▸ l.ends }

lemma attributes_withFlag : (l.withFlag name).attributes = l.attributes.map
    (Attribute.flagged name (1 < l.joins.countP fun j => j.1.head = name)) := rfl

lemma joins_withFlag : (l.withFlag name).joins = l.joins := rfl

/-- **An attribute is added to the graph.** -/
theorem graph_withAttribute :
    (l.withAttribute name description).graph = l.graph.withAttribute name description := by
  rw [withAttribute]
  split
  · next h => rw [Graph.withAttribute_of_hasNode (hasNode_graph.2 h)]
  · next h =>
      rw [Graph.withAttribute_of_not_hasNode (mt hasNode_graph.1 h)]
      simp [graph]

/-- **A join is added to the graph.** -/
theorem graph_withJoin (hhead : head ∈ l.names) (htail : tail ∈ l.names) :
    (l.withJoin head tail j).graph = l.graph.withJoin head tail j := by
  rw [withJoin]
  split
  · next h =>
      have hnew : ¬ l.graph.knows head tail j := by
        rw [knows_graph]
        simpa using h.2.2
      rw [Graph.withJoin, if_neg hnew, newKey_graph]
      simp [graph, edge]
  · next h =>
      have hknown : l.graph.knows head tail j := by
        rw [knows_graph]
        simpa [hhead, htail] using h
      rw [Graph.withJoin_of_knows hknown]

lemma node_flagged (a : Attribute) (p : Bool) :
    a.node.flagged name p = (a.flagged name p).node := by
  obtain ⟨n, d, q⟩ := a
  have hid : (Attribute.node ⟨n, d, q⟩).id.equals (.text name) ↔ n = name := by
    simp [Attribute.node]
  have hflag : (Attribute.node ⟨n, d, q⟩).flag.equals (.bool p) ↔ q = p := by
    simp [Attribute.node, Node.flag, List.lookup_cons]
  simp only [Node.flagged, hid, hflag, Attribute.flagged]
  by_cases hn : n = name
  · by_cases hq : q = p
    · simp [hn, hq]
    · simp [hn, hq, Attribute.node, Members.update, Json.putMember]
  · simp [hn]

/-- **The flag of an attribute is set right in the graph.** -/
theorem graph_withFlag : (l.withFlag name).graph = l.graph.withFlag name := by
  rw [Graph.withFlag, degree_graph]
  simp only [graph, withFlag, List.map_map]
  congr 1
  exact List.map_congr_left fun a _ => (node_flagged a _).symm

/-! ## Answers -/

variable {m : MemoryStore}

lemma hasAttribute_eq (hm : m.graph = l.graph) : m.hasAttribute name ↔ name ∈ l.names := by
  rw [MemoryStore.hasAttribute, hm, hasNode_graph]

lemma attribute?_eq (hm : m.graph = l.graph) :
    m.attribute? name = .ok (l.attributes.find? fun a => a.name = name) := by
  have hnode : l.graph.node? (.text name)
      = (l.attributes.find? fun a => a.name = name).map Attribute.node := by
    rw [Graph.node?, graph, List.find?_map]
    rfl
  rw [MemoryStore.attribute?, hm, hnode]
  cases hfind : l.attributes.find? fun a => a.name = name with
  | none => rfl
  | some a =>
      have hname : a.name = name := by simpa using List.find?_some hfind
      rw [← hname]
      rfl

lemma joinOf_edge {e : JoinEdge × Nat} (he : e ∈ l.between head tail) :
    MemoryStore.joinOf head tail (.object (edge e).data) = .ok e.1 := by
  have hleads : e.1.leads head tail := (List.mem_filter.1 he).2
  obtain ⟨⟨⟨d, q, k, v⟩, h, t, s⟩, n⟩ := e
  obtain ⟨rfl, rfl⟩ : h = head ∧ t = tail := by simpa [JoinEdge.leads] using hleads
  rfl

/-- **The joins between two attributes** in the order in which they were added. -/
theorem joinsBetween_eq (hm : m.graph = l.graph) :
    m.joinsBetween head tail = .ok ((l.between head tail).map Prod.fst) := by
  have hbetween : l.graph.between (.text head) (.text tail)
      = (l.between head tail).map fun e => (.int e.2, .object (edge e).data) := by
    rw [Graph.between.eq_def, if_pos l.regular_graph.parallel, edgesBetween_graph, List.map_map]
    rfl
  have hkeys : (l.graph.between (.text head) (.text tail)).map Prod.fst
      = ((List.range (l.between head tail).length).map Int.ofNat).map Json.int := by
    rw [hbetween, ← numbers_between]
    simp
  have hsort : Json.sortByKey? (l.graph.between (.text head) (.text tail))
      = some (l.graph.between (.text head) (.text tail)) := by
    refine Json.sortByKey?_of_ascending hkeys (List.pairwise_map.2 ?_)
    exact List.pairwise_le_range.imp fun h => Int.ofNat_le.2 h
  rw [MemoryStore.joinsBetween, hm, hsort, hbetween]
  dsimp only
  rw [List.mapM_map]
  exact mapM_of_ok fun e he => joinOf_edge he

end Ledger

end Crosswalk
