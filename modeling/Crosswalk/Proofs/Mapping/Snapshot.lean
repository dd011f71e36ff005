import Crosswalk.Proofs.Files
import Crosswalk.Proofs.Json.Roundtrip
import Crosswalk.Proofs.Mapping.Ledger
import Crosswalk.Proofs.Text.Utf8
import Mathlib.Data.Set.List

/-!
# Snapshots there and back

The snapshot of the graph of a ledger is read as this graph.  A snapshot lists the edges of one node
together, and of these the edges to one other node, so edges with different ends may change places.
Edges with the same ends never do, and they keep their keys, so that nothing that a store answers
changes.

* `Graph.Same` — **the same graph**, but for the order of edges with different ends.
* `Ledger.edgesBetween_listed`, `Ledger.listed_perm` — how a snapshot lists edges.
* `Ledger.faithful_toJson` — the value of a graph can be written and read.
* `Ledger.ofJson_toJson` — its nodes and edges come back.
* **`Ledger.readGraph_of_holds`** — the snapshot of a graph is read as the same graph.
-/

namespace Crosswalk

/-- What is looked for is found in one of two halves, if all of it is in the same half. -/
lemma filter_append_filter_not {α : Type} {p q : α → Bool} {side : Bool}
    (h : ∀ x, p x → q x = side) (xs : List α) :
    xs.filter (fun x => p x && q x) ++ xs.filter (fun x => p x && !q x) = xs.filter p := by
  have hleft : (fun x => p x && q x) = fun x => p x && side := by
    funext x
    cases hx : p x with
    | false => rfl
    | true => rw [h x hx]
  have hright : (fun x => p x && !q x) = fun x => p x && !side := by
    funext x
    cases hx : p x with
    | false => rfl
    | true => rw [h x hx]
  rw [hleft, hright]
  cases side <;> simp

namespace Graph

variable {g g' : Graph} {head tail name : String} {es : List Edge} {fuel : Nat} {p : Edge → Bool}

/-- **The same graph**, but for the order of edges with different ends. -/
structure Same (g g' : Graph) : Prop where
  others : g' = { g with edges := g'.edges }
  edges : g'.edges.Perm g.edges
  between : ∀ head tail, g'.edgesBetween (.text head) (.text tail)
    = g.edgesBetween (.text head) (.text tail)

lemma Same.refl (g : Graph) : g.Same g := ⟨rfl, .refl _, fun _ _ => rfl⟩

/-! ## Edges in a snapshot -/

lemma length_otherTails (e : Edge) (hfuel : (e :: es).length ≤ fuel + 1) :
    (es.filter fun f => !f.tail.equals e.tail).length ≤ fuel :=
  (List.length_filter_le _ _).trans (Nat.le_of_succ_le_succ hfuel)

lemma groupByTail_perm (hfuel : es.length ≤ fuel) : (groupByTail fuel es).Perm es := by
  induction fuel generalizing es with
  | zero =>
      rw [List.length_eq_zero_iff.1 (Nat.le_zero.1 hfuel), groupByTail]
  | succ fuel ih =>
      cases es with
      | nil => rw [groupByTail]
      | cons e es =>
          rw [groupByTail]
          exact (((ih (length_otherTails e hfuel)).append_left _).trans
            (List.filter_append_perm _ es)).cons e

/-- Edges to the same node keep their order. -/
lemma filter_groupByTail (hp : ∀ e, p e → e.tail = .text tail) (hfuel : es.length ≤ fuel) :
    (groupByTail fuel es).filter p = es.filter p := by
  induction fuel generalizing es with
  | zero =>
      rw [List.length_eq_zero_iff.1 (Nat.le_zero.1 hfuel), groupByTail]
  | succ fuel ih =>
      cases es with
      | nil => rw [groupByTail]
      | cons e es =>
          rw [groupByTail, List.filter_cons, List.filter_cons, List.filter_append,
            ih (length_otherTails e hfuel),
            List.filter_filter, List.filter_filter]
          have hside : ∀ f, p f → f.tail.equals e.tail = (Json.text tail).equals e.tail :=
            fun f hf => by rw [hp f hf]
          rw [filter_append_filter_not hside]

/-- The edges that lead away from an attribute. -/
def edgesFrom (g : Graph) (name : String) : List Edge :=
  g.edges.filter fun e => e.head.equals (.text name)

lemma filterMap_seenFrom (hd : g.isDirected = true) (name : String) :
    g.edges.filterMap (g.seenFrom (.text name)) = g.edgesFrom name := by
  have hseen : g.seenFrom (.text name) = Option.guard fun e => e.head.equals (.text name) := by
    funext e
    rw [seenFrom, hd, Option.guard]
    split
    · next he =>
        have hself : { e with head := .text name } = e := by rw [← (Json.equals_text _ _).1 he]
        rw [hself]
    · rfl
  rw [hseen, List.filterMap_eq_filter, edgesFrom]

lemma listedFrom_attributes (hd : g.isDirected = true) (seen : List Json) (as : List Attribute) :
    g.listedFrom seen (as.map Attribute.node)
      = as.flatMap fun a => groupByTail (g.edgesFrom a.name).length (g.edgesFrom a.name) := by
  induction as generalizing seen with
  | nil => rfl
  | cons a as ih =>
      have hes : (g.edges.filterMap (g.seenFrom a.node.id)).filter
          (fun e => g.isDirected || !seen.any (·.equals e.tail)) = g.edgesFrom a.name := by
        rw [show a.node.id = .text a.name from rfl, filterMap_seenFrom hd, hd]
        simp
      rw [List.map_cons, listedFrom, List.flatMap_cons]
      simp only [hes, ih]

end Graph

namespace Ledger

variable {l : Ledger} {head tail : String}

lemma listed_graph (l : Ledger) : l.graph.listed = l.attributes.flatMap fun a =>
    Graph.groupByTail (l.graph.edgesFrom a.name).length (l.graph.edgesFrom a.name) :=
  Graph.listedFrom_attributes rfl [] l.attributes

lemma mem_edges_of_mem_listed {e : Edge} (he : e ∈ l.graph.listed) : e ∈ l.graph.edges := by
  rw [listed_graph] at he
  obtain ⟨a, -, he⟩ := List.mem_flatMap.1 he
  exact List.mem_of_mem_filter ((Graph.groupByTail_perm le_rfl).mem_iff.1 he)

lemma joins_graph (e : Edge) : l.graph.joins (.text head) (.text tail) e
    ↔ e.head = .text head ∧ e.tail = .text tail := by
  simp [Graph.joins, graph]

/-- **Edges with the same ends keep their order** in a snapshot. -/
theorem edgesBetween_listed (l : Ledger) (head tail : String) :
    l.graph.listed.filter (l.graph.joins (.text head) (.text tail))
      = l.graph.edgesBetween (.text head) (.text tail) := by
  have hnode : ∀ a : Attribute, (Graph.groupByTail (l.graph.edgesFrom a.name).length
      (l.graph.edgesFrom a.name)).filter (l.graph.joins (.text head) (.text tail))
        = if a.name = head then l.graph.edgesBetween (.text head) (.text tail) else [] := by
    intro a
    rw [Graph.filter_groupByTail (fun e he => ((joins_graph e).1 he).2) le_rfl, Graph.edgesFrom,
      List.filter_filter, Graph.edgesBetween]
    split
    · next ha =>
        refine List.filter_congr fun e _ => Bool.and_eq_left_iff_imp.2 fun he => ?_
        rw [ha, Json.equals_text]
        exact ((joins_graph e).1 he).1
    · next ha =>
        refine List.filter_eq_nil_iff.2 fun e _ he => ha ?_
        rw [Bool.and_eq_true, joins_graph, Json.equals_text] at he
        exact Json.text.inj (he.2.symm.trans he.1.1)
  rw [listed_graph, List.filter_flatMap]
  simp only [hnode]
  rw [flatMap_ite_of_nodup l.distinct]
  split
  · rfl
  · next hhead =>
      -- only attributes have joins
      refine (List.filter_eq_nil_iff.2 fun e he hjoins => hhead ?_).symm
      obtain ⟨j, hj, rfl⟩ := List.mem_map.1 he
      have hname : j.1.head = head := Json.text.inj ((joins_graph _).1 hjoins).1
      exact hname ▸ (l.ends j hj).1

/-- **A snapshot lists every edge once.** -/
theorem listed_perm (l : Ledger) : l.graph.listed.Perm l.graph.edges := by
  classical
  refine List.perm_iff_count.2 fun e => ?_
  by_cases he : e ∈ l.graph.edges
  · -- an edge stands as often among all edges as among those with its own ends
    obtain ⟨j, -, rfl⟩ := List.mem_map.1 he
    have hjoins : l.graph.joins (.text j.1.head) (.text j.1.tail) (edge j) :=
      (joins_graph _).2 ⟨rfl, rfl⟩
    rw [← List.count_filter hjoins, edgesBetween_listed, Graph.edgesBetween,
      List.count_filter hjoins]
  · rw [List.count_eq_zero_of_not_mem he,
      List.count_eq_zero_of_not_mem (mt mem_edges_of_mem_listed he)]

lemma edge_injective : Function.Injective edge := by
  rintro ⟨⟨⟨d, q, k, v⟩, h, t, s⟩, n⟩
    ⟨⟨⟨d', q', k', v'⟩, h', t', s'⟩, n'⟩ heq
  simpa [edge, JoinEdge.edge, MemoryStore.joiningData, and_assoc, and_comm, and_left_comm] using heq

/-- **The ledger of a snapshot**, with the joins in the order in which the snapshot lists them. -/
theorem exists_listed (l : Ledger) : ∃ l' : Ledger,
    l'.graph = { l.graph with edges := l.graph.listed } ∧ l.graph.Same l'.graph := by
  -- what is listed are edges of joins, so there are joins in the order of the list
  have hrange : l.graph.listed ∈ Set.range (List.map edge) := by
    rw [Set.range_list_map]
    intro e he
    obtain ⟨j, -, heq⟩ := List.mem_map.1 (mem_edges_of_mem_listed he)
    exact ⟨j, heq⟩
  obtain ⟨js, hjs⟩ := hrange
  have hperm : js.Perm l.joins := by
    refine (List.map_perm_map_iff edge_injective).1 ?_
    rw [hjs]
    exact l.listed_perm
  have hbetween : ∀ head tail, (js.filter fun j => j.1.leads head tail)
      = l.between head tail := by
    intro head tail
    have hlisted := l.edgesBetween_listed head tail
    rw [edgesBetween_graph, ← hjs, List.filter_map] at hlisted
    rw [← List.map_injective_iff.2 edge_injective hlisted]
    refine List.filter_congr fun j _ => ?_
    rw [Bool.eq_iff_iff, Function.comp_apply, joins_graph]
    simp [edge, JoinEdge.edge, JoinEdge.leads]
  let l' : Ledger :=
    { attributes := l.attributes
      joins := js
      distinct := l.distinct
      ends := fun j hj => l.ends j (hperm.mem_iff.1 hj)
      numbered := fun head tail => by
        rw [hbetween]
        exact ⟨_, l.numbers_between head tail⟩ }
  have hgraph : l'.graph = { l.graph with edges := l.graph.listed } := by
    rw [← hjs]
    rfl
  refine ⟨l', hgraph, hgraph ▸ rfl, hgraph ▸ l.listed_perm, fun head tail => ?_⟩
  rw [hgraph]
  exact l.edgesBetween_listed head tail

/-! ## The value of a snapshot -/

lemma nodeJson_node (a : Attribute) :
    Graph.nodeJson a.node = .object (a.node.data ++ [("id", .text a.name)]) := by
  rw [Graph.nodeJson, Members.update_eq_append]
  · rfl
  · simp [Attribute.node]

lemma edgeJson_edge (l : Ledger) (j : JoinEdge × Nat) :
    l.graph.edgeJson (edge j) = .object ((edge j).data ++
      [("source", .text j.1.head), ("target", .text j.1.tail), ("key", .int j.2)]) := by
  have hends : l.graph.edgeJson (edge j) = .object (Members.update (edge j).data
      [("source", .text j.1.head), ("target", .text j.1.tail), ("key", .int j.2)]) := rfl
  rw [hends, Members.update_eq_append]
  simp [edge, JoinEdge.edge, MemoryStore.joiningData]

lemma number_lt {j : JoinEdge × Nat} (hj : j ∈ l.joins) : j.2 < l.joins.length := by
  have hmem : j.2 ∈ (l.between j.1.head j.1.tail).map Prod.snd :=
    List.mem_map_of_mem (List.mem_filter.2 ⟨hj, by simp [JoinEdge.leads]⟩)
  rw [numbers_between, List.mem_range] at hmem
  exact hmem.trans_le (List.length_filter_le _ _)

/-- **The value of a graph can be written and read**, if the numbers of its joins can. -/
theorem faithful_toJson (hfew : l.joins.length ≤ digitBound) : Json.Faithful l.graph.toJson := by
  have hnode : ∀ v ∈ l.graph.nodes.map Graph.nodeJson, Json.Faithful v := by
    intro v hv
    obtain ⟨n, hn, rfl⟩ := List.mem_map.1 hv
    obtain ⟨a, -, rfl⟩ := List.mem_map.1 hn
    rw [nodeJson_node]
    refine .object (by simp [Attribute.node]) ?_
    simp [Attribute.node, Json.Faithful.text, Json.Faithful.bool]
  have hedge : ∀ v ∈ l.graph.listed.map l.graph.edgeJson, Json.Faithful v := by
    intro v hv
    obtain ⟨e, he, rfl⟩ := List.mem_map.1 hv
    obtain ⟨j, hj, rfl⟩ := List.mem_map.1 (mem_edges_of_mem_listed he)
    rw [edgeJson_edge]
    have hnumber : Json.Faithful (.int j.2) := .int ((number_lt hj).trans_le hfew)
    refine .object (by simp [edge, JoinEdge.edge, MemoryStore.joiningData]) ?_
    simp [edge, JoinEdge.edge, MemoryStore.joiningData, Json.Faithful.text, Json.Faithful.bool,
      hnumber]
  have hdata : Json.Faithful l.graph.data := .object .nil fun m hm => absurd hm List.not_mem_nil
  refine .object (by simp) ?_
  simp [Json.Faithful.bool, hdata, Json.Faithful.list hnode, Json.Faithful.list hedge]

/-- The nodes of attributes are read behind others. -/
lemma readNodes_nodeJson (g : Graph) (i : Nat) (done todo : List Attribute)
    (hd : ((done ++ todo).map Attribute.name).Nodup) :
    Graph.readNodes { g with nodes := done.map Attribute.node } i
        (todo.map fun a => Graph.nodeJson a.node)
      = .ok { g with nodes := (done ++ todo).map Attribute.node } := by
  induction todo generalizing done i with
  | nil => rw [List.append_nil, List.map_nil, Graph.readNodes]
  | cons a todo ih =>
      have hnew : ∀ n ∈ done.map Attribute.node, n.id ≠ .text a.name := by
        intro n hn hname
        obtain ⟨b, hb, rfl⟩ := List.mem_map.1 hn
        rw [List.map_append, List.nodup_append] at hd
        exact hd.2.2 b.name (List.mem_map_of_mem hb) a.name (by simp) (Json.text.inj hname)
      have hadd :
          Graph.addNode { g with nodes := done.map Attribute.node } (.text a.name) a.node.data
          = { g with nodes := (done ++ [a]).map Attribute.node } := by
        rw [Graph.addNode, Graph.putNode_of_notMem hnew,
          Members.update_nil (by simp [Attribute.node])]
        simp [Attribute.node]
      have hstep : Graph.readNodes { g with nodes := done.map Attribute.node } i
            (Graph.nodeJson a.node :: todo.map fun a => Graph.nodeJson a.node)
          = Graph.readNodes { g with nodes := (done ++ [a]).map Attribute.node } (i + 1)
            (todo.map fun a => Graph.nodeJson a.node) := by
        rw [← hadd, nodeJson_node]
        rfl
      rw [List.map_cons, hstep, ih, List.append_assoc, List.singleton_append]
      rwa [List.append_assoc, List.singleton_append]

lemma number_ne {i j : JoinEdge × Nat} {before behind : List (JoinEdge × Nat)}
    (h : l.joins = before ++ j :: behind) (hi : i ∈ before) (hends : i.1.leads j.1.head j.1.tail) :
    i.2 ≠ j.2 := by
  have hnodup : ((l.between j.1.head j.1.tail).map Prod.snd).Nodup := by
    rw [numbers_between]
    exact List.nodup_range
  rw [between, h, List.filter_append, List.map_append, List.nodup_append] at hnodup
  refine hnodup.2.2 i.2 (List.mem_map_of_mem (List.mem_filter.2 ⟨hi, hends⟩)) j.2 ?_
  simp [JoinEdge.leads]

/-- The edges of joins are read behind others. -/
lemma readEdges_edgeJson (done todo : List (JoinEdge × Nat)) (h : l.joins = done ++ todo) :
    Graph.readEdges { l.graph with edges := done.map edge }
        (todo.map fun j => l.graph.edgeJson (edge j))
      = .ok l.graph := by
  induction todo generalizing done with
  | nil =>
      rw [List.append_nil] at h
      rw [List.map_nil, Graph.readEdges, ← h]
      rfl
  | cons j todo ih =>
      let g : Graph := { l.graph with edges := done.map edge }
      have hj : j ∈ l.joins := by simp [h]
      have hhead : g.hasNode (.text j.1.head) := hasNode_graph.2 (l.ends j hj).1
      have htail : g.hasNode (.text j.1.tail) := hasNode_graph.2 (l.ends j hj).2
      have hnew : ∀ e ∈ g.edgesBetween (.text j.1.head) (.text j.1.tail),
          ¬ e.key.equals (.int j.2) := by
        intro e he hkey
        obtain ⟨he, hjoins⟩ := List.mem_filter.1 he
        obtain ⟨i, hi, rfl⟩ := List.mem_map.1 he
        have hends : i.1.leads j.1.head j.1.tail := by
          have hsame := (joins_graph (l := l) (edge i)).1 hjoins
          simpa [JoinEdge.leads, edge, JoinEdge.edge] using hsame
        -- among joins with the same ends no number comes twice
        exact number_ne h hi hends (by simpa [edge, JoinEdge.edge] using hkey)
      have hadd : g.addEdge (.text j.1.head) (.text j.1.tail) (some (.int j.2)) (edge j).data
          = { l.graph with edges := (done ++ [j]).map edge } := by
        rw [Graph.addEdge_of_fresh rfl hhead htail hnew
          (by simp [edge, JoinEdge.edge, MemoryStore.joiningData])]
        simp [g, edge, JoinEdge.edge]
      have hstep : Graph.readEdges g
            (l.graph.edgeJson (edge j) :: todo.map fun j => l.graph.edgeJson (edge j))
          = Graph.readEdges { l.graph with edges := (done ++ [j]).map edge }
            (todo.map fun j => l.graph.edgeJson (edge j)) := by
        rw [← hadd, edgeJson_edge]
        rfl
      rw [List.map_cons, hstep, ih]
      rw [h, List.append_assoc, List.singleton_append]

/-- **The nodes and edges of a graph come back**, edges as they were listed. -/
theorem ofJson_toJson (l : Ledger) :
    Graph.ofJson l.graph.toJson = .ok { l.graph with edges := l.graph.listed } := by
  obtain ⟨l', hl', -⟩ := l.exists_listed
  have hnodes : Graph.readNodes .empty 0 (l.graph.nodes.map Graph.nodeJson)
      = .ok { l.graph with edges := [] } := by
    rw [graph, List.map_map]
    exact readNodes_nodeJson .empty 0 [] l.attributes l.distinct
  have hedges : Graph.readEdges { l.graph with edges := [] } (l.graph.listed.map l.graph.edgeJson)
      = .ok { l.graph with edges := l.graph.listed } := by
    have hread := readEdges_edgeJson (l := l') [] l'.joins rfl
    have hlisted : l.graph.listed = l'.joins.map edge := by
      rw [graph] at hl'
      exact (congrArg Graph.edges hl').symm
    have hframe : { l'.graph with edges := [] } = { l.graph with edges := [] } := by rw [hl']
    rw [List.map_nil, hframe, hl'] at hread
    rw [hlisted, List.map_map, ← hlisted, ← hread]
    rfl
  have hstep : Graph.ofJson l.graph.toJson
      = (do
          let g ← Graph.readNodes .empty 0 (l.graph.nodes.map Graph.nodeJson)
          Graph.readEdges g (l.graph.listed.map l.graph.edgeJson)) := rfl
  rw [hstep, hnodes, ok_bind, hedges]

/-- **The snapshot of a graph is read as the same graph.** -/
theorem readGraph_of_holds {files : Files} {path : Path} (hfew : l.joins.length ≤ digitBound)
    (h : files.Holds path l.graph.toJson.indented.toUTF8.toList) :
    ∃ l' : Ledger, MemoryStore.readGraph files path = .ok l'.graph ∧ l.graph.Same l'.graph := by
  obtain ⟨l', hl', hsame⟩ := l.exists_listed
  refine ⟨l', ?_, hsame⟩
  have hchars : l.graph.toJson.indented.toList = l.graph.toJson.indentedChars 0 :=
    String.toList_ofList
  rw [MemoryStore.readGraph, h.readBytes, ok_bind, Utf8.text?_toUTF8]
  simp only [hchars, (faithful_toJson hfew).ofChars, ok_bind]
  rw [ofJson_toJson, hl']

end Ledger

end Crosswalk
