import Crosswalk.Engine.Visit
import Crosswalk.Proofs.Engine.Chains
import Crosswalk.Proofs.Query.Shape

/-!
# Paths from leaves to the top

A path leads from a leaf of a query tree up to its top.  Each of its steps has pairs, those of all
joins from a node to the node above it, and the rows of a path are the rows of the chains of these
pairs.

* `World.pairsBetween` — the pairs of all joins from a node to the node above it.
* `World.ReadsAll` — nothing that a tree asks for fails.  `edgePairs_result` says what is read
  then.
* `QueryTree.leafPaths` — **the paths from the leaves to the top.**
* `World.pathRows` — **the rows of a path**: one for every chain.
* **`joinRows_pathRows`** — joining the rows of a path gives those of the path with one step more.
-/

namespace Crosswalk

open QueryTree

namespace World

/-! ## Pairs -/

/-- The pairs that are found for a join. -/
def pairsOf (w : World) (e : JoinEdge) : List Pair :=
  match (w.sources.find? e.datasource).map fun source => (w.read source e.key e.value).result with
  | some (.ok stream) => stream.collect.1.filterMap Except.toOption
  | _ => []

/-- **The pairs of all joins** from a node to the node above it, join by join. -/
def pairsBetween (w : World) (child parent : QueryNode) : List Pair :=
  match w.joins child.name parent.name with
  | .ok edges => edges.flatMap w.pairsOf
  | .error _ => []

/-- The source of a join is known and can be opened, and no record of it is bad. -/
def Readable (w : World) (e : JoinEdge) : Prop :=
  ∃ source stream, w.sources.find? e.datasource = some source ∧
    (w.read source e.key e.value).result = .ok stream ∧
    ∀ item ∈ stream.collect.1, ∃ p, item = .ok p

/-- **Nothing fails** that is read for a node and the node above it. -/
def Reads (w : World) (child parent : QueryNode) : Prop :=
  ∃ edges, w.joins child.name parent.name = .ok edges ∧ ∀ e ∈ edges, w.Readable e

/-- **Nothing fails** that is read for a tree. -/
def ReadsAll (w : World) (tree : QueryTree) : Prop :=
  ∀ t ∈ tree.postorder, ∀ c ∈ t.children, w.Reads c.own t.own

end World

lemma mapM_id_eq {items : List Item} (h : ∀ item ∈ items, ∃ p, item = .ok p) :
    items.mapM id = .ok (items.filterMap Except.toOption) := by
  induction items with
  | nil => rfl
  | cons item items ih =>
      obtain ⟨p, rfl⟩ := h item List.mem_cons_self
      rw [List.mapM_cons, ih fun i hi => h i (List.mem_cons_of_mem _ hi)]
      rfl

lemma readJoins_result {w : World} {child parent : QueryNode} {edges : List JoinEdge}
    (h : ∀ e ∈ edges, w.Readable e) (pairs : List Pair) :
    (readJoins w child parent pairs edges).result = .ok (pairs ++ edges.flatMap w.pairsOf) := by
  induction edges generalizing pairs with
  | nil =>
      rw [List.flatMap_nil, List.append_nil]
      rfl
  | cons e edges ih =>
      obtain ⟨source, stream, hsource, hstream, hitems⟩ := h e List.mem_cons_self
      have hpairs : w.pairsOf e = stream.collect.1.filterMap Except.toOption := by
        rw [World.pairsOf, hsource, Option.map_some, hstream]
      have hrest := ih fun e he => h e (List.mem_cons_of_mem _ he)
      simp only [readJoins, hsource, Traced.result_bind, hstream, Traced.result_of,
        mapM_id_eq hitems, Traced.result_note, ok_bind, hrest, hpairs, List.flatMap_cons,
        List.append_assoc]

/-- **What is read for a node** when nothing fails: its pairs, unless there is no join. -/
lemma edgePairs_result {w : World} {child parent : QueryNode} (h : w.Reads child parent) :
    ((edgePairs w child parent).result = .ok none ∧ w.pairsBetween child parent = []) ∨
      (edgePairs w child parent).result = .ok (some (w.pairsBetween child parent)) := by
  obtain ⟨edges, hedges, hread⟩ := h
  have hpairs : w.pairsBetween child parent = edges.flatMap w.pairsOf := by
    rw [World.pairsBetween, hedges]
  cases edges with
  | nil =>
      left
      refine ⟨?_, hpairs⟩
      simp only [edgePairs, Traced.result_bind, hedges, Traced.result_of, Traced.result_note,
        ok_bind, List.isEmpty_nil, if_true]
      rfl
  | cons e edges =>
      right
      simp only [edgePairs, Traced.result_bind, hedges, Traced.result_of, Traced.result_note,
        ok_bind, List.isEmpty_cons, Bool.false_eq_true, if_false, readJoins_result hread, hpairs,
        List.nil_append]
      rfl

/-! ## Paths -/

namespace QueryTree

mutual

/-- The paths from the leaves of a tree up to its top. -/
def pathsUp : QueryTree → List (List QueryNode)
  | node own ts => if ts.isEmpty then [[own]] else (pathsUpAll ts).map fun path => path ++ [own]

/-- The paths of several trees, tree by tree. -/
def pathsUpAll : List QueryTree → List (List QueryNode)
  | [] => []
  | t :: ts => t.pathsUp ++ pathsUpAll ts

end

/-- **The paths from the leaves to the top**, leaves in document order.  The top itself is no leaf
here, even if nothing is below it. -/
def leafPaths (tree : QueryTree) : List (List QueryNode) :=
  (pathsUpAll tree.children).map fun path => path ++ [tree.own]

lemma pathsUpAll_eq (ts : List QueryTree) : pathsUpAll ts = ts.flatMap pathsUp := by
  induction ts with
  | nil => rfl
  | cons t ts ih => rw [pathsUpAll, ih, List.flatMap_cons]

lemma pathsUp_of_leaf (own : QueryNode) : (node own []).pathsUp = [[own]] := rfl

lemma pathsUp_of_ne_nil {own : QueryNode} {ts : List QueryTree} (h : ts ≠ []) :
    (node own ts).pathsUp = (node own ts).leafPaths := by
  rw [pathsUp, if_neg (by simpa using h)]
  rfl

lemma mem_leafPaths {tree : QueryTree} {path : List QueryNode} :
    path ∈ tree.leafPaths
      ↔ ∃ c ∈ tree.children, ∃ below ∈ c.pathsUp, path = below ++ [tree.own] := by
  simp only [leafPaths, pathsUpAll_eq, List.mem_map, List.mem_flatMap, eq_comm]
  constructor
  · rintro ⟨below, ⟨c, hc, hbelow⟩, heq⟩
    exact ⟨c, hc, below, hbelow, heq⟩
  · rintro ⟨c, hc, below, hbelow, heq⟩
    exact ⟨below, ⟨c, hc, hbelow⟩, heq⟩

/-- The labels of a path, from the top downwards, come in document order. -/
lemma labels_pathsUp {t : QueryTree} :
    ∀ path ∈ t.pathsUp, ((path.map QueryNode.label).reverse).Sublist t.labels := by
  induction t using QueryTree.induction with
  | node own ts ih =>
      intro path hpath
      rw [labels_node]
      cases ts with
      | nil =>
          rw [pathsUp_of_leaf, List.mem_singleton] at hpath
          subst hpath
          exact List.Sublist.refl _
      | cons t ts =>
          rw [pathsUp_of_ne_nil (List.cons_ne_nil _ _)] at hpath
          obtain ⟨c, hc, below, hbelow, rfl⟩ := mem_leafPaths.1 hpath
          rw [List.map_append, List.reverse_append]
          refine List.Sublist.cons_cons _ ((ih c hc below hbelow).trans ?_)
          exact List.sublist_flatten_of_mem (List.mem_map_of_mem hc)

lemma eq_concat_of_mem_pathsUp {t : QueryTree} {path : List QueryNode} (h : path ∈ t.pathsUp) :
    ∃ front, path = front ++ [t.own] := by
  cases t with
  | node own ts =>
      cases ts with
      | nil => exact ⟨[], List.mem_singleton.1 h⟩
      | cons t ts =>
          rw [pathsUp_of_ne_nil (List.cons_ne_nil _ _)] at h
          obtain ⟨-, -, front, -, rfl⟩ := mem_leafPaths.1 h
          exact ⟨front, rfl⟩

/-- Paths to the top begin where the paths to its children do. -/
lemma map_head?_leafPaths {tree : QueryTree} (h : ∀ c ∈ tree.children,
      c.pathsUp.map List.head? = (c.postorder.filter isLeaf).map fun s => some s.own) :
    tree.leafPaths.map List.head?
      = ((tree.children.flatMap postorder).filter isLeaf).map fun s => some s.own := by
  have hhead : ∀ below ∈ pathsUpAll tree.children,
      (below ++ [tree.own]).head? = below.head? := by
    intro below hbelow
    rw [pathsUpAll_eq, List.mem_flatMap] at hbelow
    obtain ⟨c, -, hc⟩ := hbelow
    obtain ⟨front, rfl⟩ := eq_concat_of_mem_pathsUp hc
    simp
  have hmap : tree.leafPaths.map List.head? = (pathsUpAll tree.children).map List.head? := by
    rw [leafPaths, List.map_map]
    exact List.map_congr_left hhead
  rw [hmap, pathsUpAll_eq, List.map_flatMap, List.filter_flatMap, List.map_flatMap]
  exact List.flatMap_congr h

lemma map_head?_pathsUp (t : QueryTree) :
    t.pathsUp.map List.head? = (t.postorder.filter isLeaf).map fun s => some s.own := by
  induction t using QueryTree.induction with
  | node own ts ih =>
      cases ts with
      | nil => rfl
      | cons t ts =>
          have hleaf : ([node own (t :: ts)].filter isLeaf) = [] := rfl
          have hhead := @map_head?_leafPaths (node own (t :: ts)) ih
          rw [pathsUp_of_ne_nil (List.cons_ne_nil _ _), hhead, postorder_node, List.filter_append,
            hleaf, List.append_nil, children_node]

/-- On a path every node is followed by the node above it. -/
lemma isChain_pathsUp {t : QueryTree} : ∀ path ∈ t.pathsUp,
    path.IsChain fun child parent =>
      ∃ s ∈ t.postorder, s.own = parent ∧ ∃ c ∈ s.children, c.own = child := by
  induction t using QueryTree.induction with
  | node own ts ih =>
      intro path hpath
      cases ts with
      | nil =>
          rw [pathsUp_of_leaf, List.mem_singleton] at hpath
          subst hpath
          exact List.IsChain.singleton _
      | cons t ts =>
          rw [pathsUp_of_ne_nil (List.cons_ne_nil _ _)] at hpath
          obtain ⟨c, hc, below, hbelow, rfl⟩ := mem_leafPaths.1 hpath
          refine List.isChain_append.2 ⟨?_, List.IsChain.singleton _, ?_⟩
          · refine (ih c hc below hbelow).imp fun child parent h => ?_
            obtain ⟨s, hs, hrest⟩ := h
            exact ⟨s, mem_postorder_of_child hc hs, hrest⟩
          · obtain ⟨front, rfl⟩ := eq_concat_of_mem_pathsUp hbelow
            intro child hchild parent hparent
            rw [List.getLast?_concat, Option.mem_some_iff] at hchild
            rw [List.head?_cons, Option.mem_some_iff] at hparent
            exact ⟨_, self_mem_postorder _, hparent, c, hc, hchild⟩

/-- **What the paths to the top are**: one from every leaf below it, in document order, on which
every node is followed by the node above it. -/
theorem leafPaths_spec (tree : QueryTree) :
    tree.leafPaths.map List.head?
        = ((tree.children.flatMap postorder).filter isLeaf).map (fun t => some t.own) ∧
      ∀ path ∈ tree.leafPaths, path.getLast? = some tree.own ∧
        path.IsChain fun child parent => ∃ t ∈ tree.postorder, t.own = parent ∧
          ∃ c ∈ t.children, c.own = child := by
  refine ⟨map_head?_leafPaths fun c _ => map_head?_pathsUp c, fun path hpath => ?_⟩
  cases tree with
  | node own ts =>
      obtain ⟨c, hc, below, -, rfl⟩ := mem_leafPaths.1 hpath
      refine ⟨List.getLast?_concat, isChain_pathsUp _ ?_⟩
      rw [children_node] at hc
      rw [pathsUp_of_ne_nil (List.ne_nil_of_mem hc)]
      exact hpath

end QueryTree

/-! ## Rows of paths -/

namespace World

/-- The pairs of every step of a path. -/
def links (w : World) : List QueryNode → List (List Pair)
  | child :: parent :: path => w.pairsBetween child parent :: w.links (parent :: path)
  | _ => []

/-- **The rows of a path**: one for every chain of the pairs of its steps. -/
def pathRows (w : World) (path : List QueryNode) : List Row :=
  (chainsOf (w.links path)).map (chainRow (path.map QueryNode.label))

lemma links_concat (w : World) (path : List QueryNode) (own parent : QueryNode) :
    w.links (path ++ [own] ++ [parent])
      = w.links (path ++ [own]) ++ [w.pairsBetween own parent] := by
  induction path with
  | nil => rfl
  | cons n path ih =>
      cases path with
      | nil => rfl
      | cons m path =>
          simp only [List.cons_append, links, List.nil_append, List.append_assoc] at ih ⊢
          rw [ih]

lemma length_links (w : World) (path : List QueryNode) :
    (w.links path).length = path.length - 1 := by
  induction path with
  | nil => rfl
  | cons n path ih =>
      cases path with
      | nil => rfl
      | cons m path => simp [links, ih]

lemma pathRows_pair (w : World) {own parent : QueryNode} (h : own.label ≠ parent.label) :
    w.pathRows [own, parent]
      = (w.pairsBetween own parent).map (rowOfPair own.label parent.label) := by
  have hrow : ∀ p : Pair, rowOfPair own.label parent.label p
      = ⟨[(own.label, p.key), (parent.label, p.value)]⟩ := by
    intro p
    simp [rowOfPair, Row.set, Row.empty, Row.setCells, h]
  have hchains : chainsOf [w.pairsBetween own parent]
      = (w.pairsBetween own parent).zipIdx.map fun o => [o] := by
    rw [← List.nil_append [w.pairsBetween own parent], chainsOf_concat]
    have hfollows : (w.pairsBetween own parent).zipIdx.filter (follows [])
        = (w.pairsBetween own parent).zipIdx := List.filter_eq_self.2 fun o _ => rfl
    simp [chainsOf, choices, Linked, hfollows]
  have hlinks : w.links [own, parent] = [w.pairsBetween own parent] := rfl
  rw [pathRows, hlinks, hchains, List.map_map]
  conv_rhs => rw [← List.zipIdx_map_fst 0 (w.pairsBetween own parent), List.map_map]
  refine List.map_congr_left fun o _ => ?_
  simp [hrow, chainRow, chainTexts]

/-- **One step up**: joining the rows of a path gives those of the longer path. -/
theorem joinRows_pathRows (w : World) {path : List QueryNode} {own parent : QueryNode}
    (hpath : path ≠ [])
    (hd : ((path ++ [own] ++ [parent]).map QueryNode.label).Nodup) :
    joinRows (w.pathRows (path ++ [own])) (w.pairsBetween own parent) own.label parent.label
      = w.pathRows (path ++ [own] ++ [parent]) := by
  have hlength : ∀ chain ∈ chainsOf (w.links (path ++ [own])), chain.length = path.length := by
    intro chain hchain
    rw [length_of_mem_chainsOf hchain, length_links]
    simp
  rw [List.map_append, List.map_singleton] at hd
  rw [joinRows, pathRows, pathRows, links_concat, chainsOf_concat, List.flatMap_map,
    List.map_flatMap]
  refine List.flatMap_congr fun chain hchain => ?_
  have hlen := hlength chain hchain
  have hne : chain ≠ [] := by
    rintro rfl
    exact hpath (List.length_eq_zero_iff.1 hlen.symm)
  -- what may follow a chain, and what its row has under the label, both depend on its last pair
  obtain ⟨front, last, rfl⟩ := (List.eq_nil_or_concat' chain).resolve_left hne
  have hlabels : ((path ++ [own]).map QueryNode.label).length = (front ++ [last]).length + 1 := by
    rw [hlen, List.length_map, List.length_append, List.length_singleton]
  have hget : (chainRow ((path ++ [own]).map QueryNode.label) (front ++ [last])).get? own.label
      = some last.1.value := by
    rw [List.map_append, List.map_singleton] at hd hlabels ⊢
    exact chainRow_get?_last hd.of_append_left (by simpa using hlabels)
  have hfresh : parent.label ∉ (path ++ [own]).map QueryNode.label := fun hmem =>
    (List.nodup_append.1 hd).2.2 _ hmem _ (List.mem_singleton_self _) rfl
  have hfollows : follows (front ++ [last])
      = (fun p : Pair => decide (p.key = last.1.value)) ∘ Prod.fst := by
    funext o
    simp [follows, eq_comm]
  rw [joinRow_ofPairs hget, List.map_map, hfollows]
  conv_lhs => rw [← List.zipIdx_map_fst 0 (w.pairsBetween own parent)]
  rw [List.filter_map, List.map_map]
  refine List.map_congr_left fun o _ => ?_
  have hmap : (path ++ [own] ++ [parent]).map QueryNode.label
      = (path ++ [own]).map QueryNode.label ++ [parent.label] := List.map_append
  rw [Function.comp_apply, Function.comp_apply, ← chainRow_concat hne hlabels hfresh o, hmap]

end World

end Crosswalk
