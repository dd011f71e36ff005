import Crosswalk.Mapping.Memory
import Crosswalk.Proofs.Mapping.Graph

/-!
# Changes of a mapping graph

What a store in memory makes of its graph.  There are three changes besides emptying it: a new
attribute, a new join, and the primary flag of an attribute.  On a regular graph none of them fails
for want of anything but an attribute, and each leaves a regular graph.

* `Graph.withAttribute`, `Graph.withJoin`, `Graph.withFlag` — **the three changes.**
* `MemoryStore.withGraph` — the store with another graph, which it takes note of.
* `MemoryStore.upsert_eq`, `MemoryStore.join_eq`, `MemoryStore.recomputePrimary_eq` — **the store
  makes these changes.**
-/

namespace Crosswalk

/-- The node of an attribute. -/
def Attribute.node (a : Attribute) : Node :=
  ⟨.text a.name, [("description", .text a.description), ("primary", .bool a.primary)]⟩

/-- The edge of a join. -/
def JoinEdge.edge (j : JoinEdge) (key : Json) : Edge :=
  ⟨.text j.head, .text j.tail, key,
    ("selected", .bool j.selected) :: MemoryStore.joiningData j.toJoining⟩

/-- The flag in the data of a node. -/
def Node.flag (n : Node) : Json := (n.data.lookup "primary").getD .null

/-- The node of an attribute with its flag set right. -/
def Node.flagged (name : String) (primary : Bool) (n : Node) : Node :=
  if n.id.equals (.text name) ∧ ¬ n.flag.equals (.bool primary) then
    { n with data := Members.update n.data [("primary", .bool primary)] }
  else n

/-- Whether the data of an edge are those of a join. -/
def Edge.holds (j : Joining) (e : Edge) : Bool :=
  (MemoryStore.joiningData j).all fun (name, v) => ((e.data.lookup name).getD .null).equals v

namespace Graph

/-- How many edges lead away from an attribute. -/
def degree (g : Graph) (name : String) : Nat := g.edges.countP fun e => e.head.equals (.text name)

/-- Whether there is a join between two attributes. -/
def knows (g : Graph) (head tail : String) (j : Joining) : Bool :=
  (g.edgesBetween (.text head) (.text tail)).any (·.holds j)

/-- The graph with an attribute.  The first description counts. -/
def withAttribute (name description : String) (g : Graph) : Graph :=
  if g.hasNode (.text name) then g
  else { g with nodes := g.nodes ++ [Attribute.node { name, description }] }

/-- The graph with a join between two attributes. -/
def withJoin (head tail : String) (j : Joining) (g : Graph) : Graph :=
  if g.knows head tail j then g
  else
    let e := JoinEdge.edge { j with head, tail } (g.newKey (.text head) (.text tail))
    { g with edges := g.edges ++ [e] }

/-- The graph with the primary flag of an attribute set right. -/
def withFlag (name : String) (g : Graph) : Graph :=
  { g with nodes := g.nodes.map (Node.flagged name (1 < g.degree name)) }

/-! ## What stays -/

section Stays

variable {g : Graph} {name description head tail : String} {j : Joining}

@[simp] lemma id_flagged (name : String) (primary : Bool) (n : Node) :
    (n.flagged name primary).id = n.id := by
  rw [Node.flagged]
  split <;> rfl

@[simp] lemma edges_withAttribute : (g.withAttribute name description).edges = g.edges := by
  rw [withAttribute]
  split <;> rfl

@[simp] lemma nodes_withJoin : (g.withJoin head tail j).nodes = g.nodes := by
  rw [withJoin]
  split <;> rfl

lemma Regular.withAttribute (hg : g.Regular) : (g.withAttribute name description).Regular := by
  rw [Graph.withAttribute]
  split
  · exact hg
  · next hnew =>
      refine ⟨hg.directed, hg.parallel, List.pairwise_append.2 ⟨hg.distinct, by simp, ?_⟩⟩
      intro n hn m hm
      rw [List.mem_singleton.1 hm]
      simpa [Attribute.node] using not_hasNode_iff.1 hnew n hn

lemma Regular.withJoin (hg : g.Regular) : (g.withJoin head tail j).Regular := by
  rw [Graph.withJoin]
  split
  · exact hg
  · exact ⟨hg.directed, hg.parallel, hg.distinct⟩

lemma Regular.withFlag (hg : g.Regular) : (g.withFlag name).Regular := by
  refine ⟨hg.directed, hg.parallel, List.pairwise_map.2 ?_⟩
  simpa using hg.distinct

end Stays

end Graph

namespace MemoryStore

variable {m : MemoryStore} {name description head tail : String} {j : Joining}

open Classical in
/-- **The store with another graph**, which it takes note of if the graph is not the same. -/
noncomputable def withGraph (m : MemoryStore) (g : Graph) : MemoryStore :=
  { m with graph := g, isChanged := m.isChanged || decide (g ≠ m.graph) }

lemma withGraph_self (m : MemoryStore) : m.withGraph m.graph = m := by
  simp [withGraph]

lemma withGraph_of_ne {g : Graph} (h : g ≠ m.graph) :
    m.withGraph g = { m with graph := g, isChanged := true } := by
  simp [withGraph, h]

/-- **An attribute is added** if it is new. -/
theorem upsert_eq (m : MemoryStore) (name description : String) :
    m.upsert name description
      = (!m.hasAttribute name, m.withGraph (m.graph.withAttribute name description)) := by
  rw [upsert, hasAttribute, Graph.withAttribute]
  split
  · next hold => simp [hold, withGraph_self]
  · next hnew =>
      have hne : { m.graph with nodes := m.graph.nodes ++ [Attribute.node { name, description }] }
          ≠ m.graph := by
        intro heq
        have := congrArg (fun g => g.nodes.length) heq
        simp at this
      have hput : m.graph.addNode (.text name)
          [("description", .text description), ("primary", .bool false)]
          = { m.graph with nodes := m.graph.nodes ++ [Attribute.node { name, description }] } := by
        rw [Graph.addNode.eq_def, Graph.putNode_of_notMem (Graph.not_hasNode_iff.1 hnew),
          Members.update_nil (by simp)]
        rfl
      simp only [hput, withGraph_of_ne hne, hnew, Bool.not_false]

lemma known_eq (j : Joining) (es : List Edge) :
    known (joiningData j) (es.map fun e => (e.key, .object e.data))
      = .ok (es.any (·.holds j)) := by
  induction es with
  | nil => rfl
  | cons e es ih =>
      rw [List.map_cons, known, List.any_cons, ih]
      split
      · next h => simp [Edge.holds, h]
      · next h => simp [Edge.holds, h]

/-- **A join is added** if it is new. -/
theorem join_eq (hp : m.graph.isParallel = true) (hhead : m.hasAttribute head)
    (htail : m.hasAttribute tail) :
    m.join head tail j = .ok (m.withGraph (m.graph.withJoin head tail j)) := by
  have hbetween : m.graph.between (.text head) (.text tail)
      = (m.graph.edgesBetween (.text head) (.text tail)).map fun e => (e.key, .object e.data) := by
    rw [Graph.between.eq_def, if_pos hp]
  rw [join, hhead, htail, hbetween, known_eq, Graph.withJoin, ← Graph.knows]
  simp only [Bool.not_true, Bool.false_eq_true, if_false, ok_bind]
  split
  · rw [withGraph_self]
  · have hne : { m.graph with edges := m.graph.edges ++
        [JoinEdge.edge { j with head, tail } (m.graph.newKey (.text head) (.text tail))] }
        ≠ m.graph := by
      intro heq
      have := congrArg (fun g => g.edges.length) heq
      simp at this
    rw [withGraph_of_ne hne, Graph.addEdge_eq hp hhead htail (by simp [joiningData])]
    rfl

lemma join_of_missing (h : ¬ (m.hasAttribute head ∧ m.hasAttribute tail)) :
    m.join head tail j = .error (.missingAttribute
      (if m.hasAttribute head then tail else head) (edgeText head tail)) := by
  rw [join]
  cases hhead : m.hasAttribute head
  · simp
  · have htail : m.hasAttribute tail = false := by simpa [hhead] using h
    simp [htail]

end MemoryStore

namespace Graph

variable {g : Graph} {name : String}

lemma flagged_of_id_ne {n : Node} {p : Bool} (h : n.id ≠ .text name) : n.flagged name p = n :=
  if_neg (by simp [h])

lemma flagged_of_equals {n : Node} {p : Bool} (h : n.flag.equals (.bool p)) :
    n.flagged name p = n :=
  if_neg (by simp [h])

/-- The flag of a node that was set right is right. -/
lemma flag_flagged {n : Node} {p : Bool} (h : n.id = .text name) :
    (n.flagged name p).flag.equals (.bool p) := by
  rw [Node.flagged]
  split
  · simp [Node.flag, Members.lookup_update_singleton]
  · next hn => simpa [h] using hn

/-- A flag that is right already stays. -/
lemma withFlag_of_forall (h : ∀ n ∈ g.nodes, n.id = .text name →
    n.flag.equals (.bool (1 < g.degree name))) : g.withFlag name = g := by
  have hid : g.nodes.map (Node.flagged name (1 < g.degree name)) = g.nodes := by
    refine (List.map_congr_left fun n hn => ?_).trans (List.map_id _)
    by_cases hname : n.id = .text name
    · exact flagged_of_equals (h n hn hname)
    · exact flagged_of_id_ne hname
  rw [withFlag, hid]

lemma withFlag_of_not_hasNode (h : ¬ g.hasNode (.text name)) : g.withFlag name = g :=
  withFlag_of_forall fun n hn hname => absurd hname (not_hasNode_iff.1 h n hn)

lemma flag_equals_of_mem_withFlag {n : Node} (hn : n ∈ (g.withFlag name).nodes)
    (hname : n.id = .text name) : n.flag.equals (.bool (1 < g.degree name)) := by
  obtain ⟨k, -, rfl⟩ := List.mem_map.1 hn
  exact flag_flagged (by simpa using hname)

/-- A node whose flag is not right gets the right one among its data. -/
lemma addNode_primary_eq {n : Node} (hg : g.Regular) (hn : n ∈ g.nodes)
    (hname : n.id = .text name) (hflag : ¬ n.flag.equals (.bool (1 < g.degree name))) :
    g.addNode (.text name) [("primary", .bool (1 < g.degree name))] = g.withFlag name := by
  rw [addNode.eq_def, putNode_of_mem hg.distinct ⟨n, hn, hname⟩, withFlag]
  congr 1
  refine List.map_congr_left fun k hk => ?_
  by_cases hkname : k.id = .text name
  · obtain rfl := hg.eq_of_id_eq hk hn hkname hname
    rw [Node.flagged, if_pos (by simpa using hkname), if_pos ⟨by simpa using hkname, hflag⟩]
  · rw [flagged_of_id_ne hkname, if_neg (by simpa using hkname)]

lemma withFlag_of_equals {n : Node} (hg : g.Regular) (hn : n ∈ g.nodes)
    (hname : n.id = .text name)
    (hflag : n.flag.equals (.bool (1 < g.degree name))) : g.withFlag name = g :=
  withFlag_of_forall fun _ hk hkname => hg.eq_of_id_eq hk hn hkname hname ▸ hflag

end Graph

namespace MemoryStore

variable {m : MemoryStore} {name : String}

/-- **The primary flag of an attribute is set right.** -/
theorem recomputePrimary_eq (hg : m.graph.Regular) (name : String) :
    m.recomputePrimary name
      = .ok (m.hasAttribute name && decide (1 < m.graph.degree name),
          m.withGraph (m.graph.withFlag name)) := by
  rw [recomputePrimary, hasAttribute]
  cases hn : m.graph.node? (.text name) with
  | none =>
      have hnot : m.graph.hasNode (.text name) = false := by simp [Graph.hasNode, hn]
      rw [hnot, Graph.withFlag_of_not_hasNode (by simp [hnot]), withGraph_self]
      rfl
  | some n =>
      obtain ⟨hmem, hname⟩ := Graph.node?_eq_some hn
      have hhas : m.graph.hasNode (.text name) = true := by simp [Graph.hasNode, hn]
      have hdegree : m.graph.degreeOut? (.text name) = some (m.graph.degree name) := by
        rw [Graph.degreeOut?, if_pos hg.directed, Graph.degree]
      simp only [hdegree, hhas, Bool.true_and]
      split
      · next hflag => rw [Graph.withFlag_of_equals hg hmem hname hflag, withGraph_self]
      · next hflag =>
          have hne : m.graph.withFlag name ≠ m.graph := by
            intro heq
            exact hflag (Graph.flag_equals_of_mem_withFlag (heq.symm ▸ hmem) hname)
          rw [Graph.addNode_primary_eq hg hmem hname hflag, withGraph_of_ne hne]

end MemoryStore

end Crosswalk
