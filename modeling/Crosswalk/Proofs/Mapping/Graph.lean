import Crosswalk.Mapping.Graph
import Crosswalk.Proofs.Json.Equality
import Crosswalk.Proofs.Sequence
import Mathlib.Data.List.Pairwise
import Mathlib.Data.List.Perm.Subperm

/-!
# Nodes and edges of graphs

How data, nodes and edges are found after they were put into a graph.  A name that is new comes
last, and so does a new edge: its key is a number that no edge between the same nodes has.

* `Members.lookup_update_singleton`, `Members.update_nil` — data with more data.
* `Graph.Regular` — **graphs whose edges are directed and may be parallel**, with nodes of
  different names.
* `Graph.putNode_of_notMem`, `Graph.putNode_of_mem` — the two cases of putting a node.
* `Graph.newKey_fresh` — **the key of a new edge is new**.
* `Graph.addEdge_eq` — a new edge comes last.
-/

namespace Crosswalk

/-! ## Data -/

section Data

variable {name k : String} {v : Json}

lemma lookup_putMember (ms : Members) :
    (Json.putMember name v ms).lookup k = if k = name then some v else ms.lookup k := by
  induction ms with
  | nil => by_cases h : k = name <;> simp [Json.putMember, List.lookup_cons, beq_false_of_ne, h]
  | cons m ms ih =>
      obtain ⟨n, w⟩ := m
      rw [Json.putMember]
      split
      · next hn =>
          subst hn
          by_cases h : k = n <;> simp [List.lookup_cons, beq_false_of_ne, h]
      · next hn =>
          rw [List.lookup_cons, List.lookup_cons, ih]
          by_cases h : k = name
          · subst h
            simp [beq_false_of_ne (Ne.symm hn)]
          · simp [h]

lemma putMember_of_notMem {ms : Members} (h : name ∉ ms.map Prod.fst) :
    Json.putMember name v ms = ms ++ [(name, v)] := by
  induction ms with
  | nil => rfl
  | cons m ms ih =>
      obtain ⟨n, w⟩ := m
      simp only [List.map_cons, List.mem_cons, not_or] at h
      rw [Json.putMember, if_neg (Ne.symm h.1), ih h.2, List.cons_append]

lemma Members.lookup_update_singleton (ms : Members) :
    (Members.update ms [(name, v)]).lookup k = if k = name then some v else ms.lookup k :=
  lookup_putMember ms

/-- Data under new names come behind the others. -/
lemma Members.update_eq_append {old new : Members} (h : ((old ++ new).map Prod.fst).Nodup) :
    Members.update old new = old ++ new := by
  induction new generalizing old with
  | nil => simp [Members.update]
  | cons m new ih =>
      obtain ⟨n, w⟩ := m
      have hnew : n ∉ old.map Prod.fst := by
        rw [List.map_append, List.nodup_append] at h
        exact fun hmem => h.2.2 n hmem n (by simp) rfl
      have hput : Members.update old ((n, w) :: new)
          = Members.update (Json.putMember n w old) new := rfl
      rw [hput, putMember_of_notMem hnew, ih, List.append_assoc, List.singleton_append]
      rwa [List.append_assoc, List.singleton_append]

lemma Members.update_nil {data : Members} (h : (data.map Prod.fst).Nodup) :
    Members.update [] data = data :=
  Members.update_eq_append (by simpa using h)

end Data

namespace Graph

/-! ## Nodes -/

variable {g : Graph} {name : String} {data : Members}

lemma node?_eq_some {n : Node} (h : g.node? (.text name) = some n) :
    n ∈ g.nodes ∧ n.id = .text name :=
  ⟨List.mem_of_find?_eq_some h, by simpa using List.find?_some h⟩

lemma hasNode_iff : g.hasNode (.text name) ↔ ∃ n ∈ g.nodes, n.id = .text name := by
  simp [hasNode, node?, List.find?_isSome]

lemma not_hasNode_iff : ¬ g.hasNode (.text name) ↔ ∀ n ∈ g.nodes, n.id ≠ .text name := by
  rw [hasNode_iff]
  simp

lemma putNode_of_notMem {ns : List Node} (h : ∀ n ∈ ns, n.id ≠ .text name) :
    putNode (.text name) data ns = ns ++ [⟨.text name, Members.update [] data⟩] := by
  induction ns with
  | nil => rfl
  | cons n ns ih =>
      have hn : ¬ n.id.equals (.text name) := by simpa using h n List.mem_cons_self
      rw [putNode, if_neg hn, ih fun m hm => h m (List.mem_cons_of_mem _ hm), List.cons_append]

/-- **Graphs whose edges are directed and may be parallel**, with nodes of different names. -/
structure Regular (g : Graph) : Prop where
  directed : g.isDirected = true
  parallel : g.isParallel = true
  distinct : g.nodes.Pairwise fun a b => ¬ a.id.equals b.id

/-- A node that is there keeps its place. -/
lemma putNode_of_mem {ns : List Node} (hd : ns.Pairwise fun a b => ¬ a.id.equals b.id)
    (h : ∃ n ∈ ns, n.id = .text name) :
    putNode (.text name) data ns = ns.map fun n =>
      if n.id.equals (.text name) then { n with data := Members.update n.data data } else n := by
  induction ns with
  | nil => simp at h
  | cons n ns ih =>
      rw [List.pairwise_cons] at hd
      rw [putNode, List.map_cons]
      by_cases hn : n.id = .text name
      · have hrest : ns.map (fun m => if m.id.equals (.text name) then
            { m with data := Members.update m.data data } else m) = ns := by
          refine (List.map_congr_left fun m hm => if_neg ?_).trans (List.map_id _)
          simpa [hn] using hd.1 m hm
        rw [if_pos (by simpa using hn), if_pos (by simpa using hn), hrest]
      · have hmem : ∃ m ∈ ns, m.id = .text name := by
          obtain ⟨m, hm, hname⟩ := h
          rcases List.mem_cons.1 hm with rfl | hm
          · exact absurd hname hn
          · exact ⟨m, hm, hname⟩
        rw [if_neg (by simpa using hn), if_neg (by simpa using hn), ih hd.2 hmem]

lemma Regular.eq_of_id_eq {m n : Node} (hg : g.Regular) (hm : m ∈ g.nodes) (hn : n ∈ g.nodes)
    (hmname : m.id = .text name) (hnname : n.id = .text name) : m = n := by
  let same (a b : Node) : Prop := a.id = .text name → b.id = .text name → a = b
  have hsymm : Std.Symm same := ⟨fun a b h hb ha => (h ha hb).symm⟩
  have hpairs : g.nodes.Pairwise same := by
    refine hg.distinct.imp fun {a b} h ha hb => absurd ?_ h
    rw [ha, hb]
    simp
  exact hpairs.forall_of_forall (fun _ _ _ _ => rfl) hm hn hmname hnname

/-! ## Edges -/

lemma freeKey_cases (keys : List Json) (fuel n : Nat) :
    ¬ keys.any (·.equals (.int (freeKey keys fuel n))) ∨
      ∀ i, n ≤ i → i < n + fuel → ∃ k ∈ keys, k.equals (.int i) := by
  induction fuel generalizing n with
  | zero => exact Or.inr fun i hi hlt => by omega
  | succ fuel ih =>
      rw [freeKey]
      split
      · next htaken =>
          refine (ih (n + 1)).imp_right fun h i hi hlt => ?_
          rcases Nat.eq_or_lt_of_le hi with rfl | hi
          · simpa using htaken
          · exact h i hi (by omega)
      · next hfree => exact Or.inl hfree

/-- A key equals one number at most, so keys cannot equal more numbers than there are keys. -/
lemma length_le_of_taken {keys : List Json} {is : List Nat} (hd : is.Nodup)
    (h : ∀ i ∈ is, ∃ k ∈ keys, k.equals (.int i)) : is.length ≤ keys.length := by
  classical
  let number (k : Json) : Nat := if h : ∃ i : Nat, k.equals (.int i) then h.choose else 0
  have hnumber : ∀ (k : Json) (i : Nat), k.equals (.int i) → number k = i := by
    intro k i hk
    have hex : ∃ i : Nat, k.equals (.int i) := ⟨i, hk⟩
    have heq := Json.int_unique hex.choose_spec hk
    simp only [number, dif_pos hex]
    omega
  have hsub : is ⊆ keys.map number := by
    intro i hi
    obtain ⟨k, hk, heq⟩ := h i hi
    exact List.mem_map.2 ⟨k, hk, hnumber k i heq⟩
  simpa using (hd.subperm hsub).length_le

/-- **The key of a new edge is new.** -/
theorem newKey_fresh (head tail : Json) :
    ∀ e ∈ g.edgesBetween head tail, ¬ e.key.equals (g.newKey head tail) := by
  intro e he htaken
  have hkeys : e.key ∈ (g.edgesBetween head tail).map Edge.key := List.mem_map_of_mem he
  rw [newKey] at htaken
  generalize (g.edgesBetween head tail).map Edge.key = keys at hkeys htaken
  rcases freeKey_cases keys (keys.length + 1) keys.length with hfree | htaken
  · exact hfree (List.any_eq_true.2 ⟨e.key, hkeys, htaken⟩)
  · have hlen := length_le_of_taken (List.nodup_range' (s := keys.length) (n := keys.length + 1))
      fun i hi => htaken i (List.mem_range'_1.1 hi).1 (List.mem_range'_1.1 hi).2
    rw [List.length_range'] at hlen
    omega

lemma putEdge_of_not {same : Edge → Bool} {e : Edge} {es : List Edge}
    (h : ∀ f ∈ es, ¬ same f) :
    putEdge same e es = es ++ [{ e with data := Members.update [] e.data }] := by
  induction es with
  | nil => rfl
  | cons f es ih =>
      rw [putEdge, if_neg (h f List.mem_cons_self), ih fun d hd => h d (List.mem_cons_of_mem _ hd),
        List.cons_append]

lemma ensureNode_of_hasNode {id : Json} (h : g.hasNode id) : g.ensureNode id = g := if_pos h

/-- An edge under a key that is new comes last. -/
lemma addEdge_of_fresh {head tail key : Json} (hp : g.isParallel = true) (hhead : g.hasNode head)
    (htail : g.hasNode tail) (hkey : ∀ e ∈ g.edgesBetween head tail, ¬ e.key.equals key)
    (hdata : (data.map Prod.fst).Nodup) :
    g.addEdge head tail (some key) data
      = { g with edges := g.edges ++ [⟨head, tail, key, data⟩] } := by
  rw [addEdge, ensureNode_of_hasNode hhead, ensureNode_of_hasNode htail]
  simp only [hp, if_true, Option.getD_some]
  rw [putEdge_of_not, Members.update_nil hdata]
  intro e he hsame
  rw [Bool.and_eq_true] at hsame
  exact hkey e (List.mem_filter.2 ⟨he, hsame.1⟩) hsame.2

/-- **A new edge comes last.** -/
theorem addEdge_eq {head tail : Json} (hp : g.isParallel = true) (hhead : g.hasNode head)
    (htail : g.hasNode tail) (hdata : (data.map Prod.fst).Nodup) :
    g.addEdge head tail none data
      = { g with edges := g.edges ++ [⟨head, tail, g.newKey head tail, data⟩] } := by
  rw [← addEdge_of_fresh hp hhead htail (newKey_fresh head tail) hdata]
  simp only [addEdge, ensureNode_of_hasNode hhead, ensureNode_of_hasNode htail, Option.getD_none,
    Option.getD_some]

end Graph

end Crosswalk
