import Crosswalk.Proofs.Engine.Modes
import Crosswalk.Proofs.Engine.Paths
import Crosswalk.Proofs.Source.Stream

/-!
# What a query means

Apart from the steps of its nodes a query says which rows its top has: one for every chain of pairs
along a path from a leaf to the top.  No order of evaluation is mentioned, and no table.

* `handedOn_eq_pathRows` — what comes to a node from below.
* `outcome_eq_pathRows` — **what a node hands on**, by induction on the tree.
* **`rowsOf_top_eq_pathRows`** — the rows of the top.
-/

namespace Crosswalk

open QueryTree

lemma pipeline_nil (focus : String) (group : Option String) (rows : List Row) :
    pipeline focus group [] rows = .ok rows := rfl

lemma joinRows_flatMap {α : Type} (xs : List α) (f : α → List Row) (pairs : List Pair)
    (label parent : String) :
    joinRows (xs.flatMap f) pairs label parent
      = xs.flatMap fun x => joinRows (f x) pairs label parent := List.flatMap_assoc

lemma nodup_path {t : QueryTree} {p : QueryNode} (hd : (p.label :: t.labels).Nodup)
    {path : List QueryNode} (h : path ∈ t.pathsUp) :
    ((path ++ [p]).map QueryNode.label).Nodup := by
  have hsub := labels_pathsUp path h
  rw [← List.nodup_reverse, List.map_append, List.reverse_append]
  exact (List.Sublist.cons_cons p.label hsub).nodup hd

/-- What a node hands on if its children do what they should. -/
lemma handedOn_eq_pathRows {w : World} {own : QueryNode} {ts : List QueryTree}
    (h : ∀ c ∈ ts, ∃ r, c.outcome w (some own) = .ok r ∧
      r.contribution = c.pathsUp.flatMap fun path => w.pathRows (path ++ [own])) :
    handedOn w own ts = .ok ((node own ts).leafPaths.flatMap w.pathRows) := by
  rw [leafPaths, children_node, own_node, List.flatMap_map]
  induction ts with
  | nil => rfl
  | cons c ts ih =>
      obtain ⟨r, hr, hrows⟩ := h c List.mem_cons_self
      rw [handedOn, hr, ok_bind, ih fun u hu => h u (List.mem_cons_of_mem _ hu), ok_bind, hrows,
        pathsUpAll, List.flatMap_append]

lemma startRows_eq_pathRows {w : World} {t : QueryTree} {p : QueryNode}
    (hd : (p.label :: t.labels).Nodup) :
    startRows t p.label (t.leafPaths.flatMap w.pathRows) (w.pairsBetween t.own p)
      = t.pathsUp.flatMap fun path => w.pathRows (path ++ [p]) := by
  cases t with
  | node own ts =>
      cases ts with
      | nil =>
          have hne : own.label ≠ p.label := fun heq =>
            (List.nodup_cons.1 hd).1 (heq ▸ List.mem_cons_self)
          rw [pathsUp_of_leaf, List.flatMap_singleton, List.singleton_append,
            World.pathRows_pair w hne]
          rfl
      | cons c ts =>
          rw [startRows, if_neg (by simp [isLeaf]), joinRows_flatMap,
            pathsUp_of_ne_nil (List.cons_ne_nil _ _)]
          refine List.flatMap_congr fun path hpath => ?_
          have hlabels := nodup_path hd (pathsUp_of_ne_nil (List.cons_ne_nil _ _) ▸ hpath)
          obtain ⟨u, -, below, hbelow, rfl⟩ := mem_leafPaths.1 hpath
          obtain ⟨front, rfl⟩ := eq_concat_of_mem_pathsUp hbelow
          exact World.joinRows_pathRows w (by simp) hlabels

/-- Without a join to the node above it there is nothing along the paths to it. -/
lemma pathRows_eq_nil {w : World} {t : QueryTree} {p : QueryNode}
    (hnil : w.pairsBetween t.own p = []) :
    (t.pathsUp.flatMap fun path => w.pathRows (path ++ [p])) = [] := by
  refine List.flatMap_eq_nil_iff.2 fun path hpath => ?_
  obtain ⟨front, rfl⟩ := eq_concat_of_mem_pathsUp hpath
  rw [World.pathRows, World.links_concat, hnil, chainsOf_eq_nil (by simp), List.map_nil]

/-- **What a node hands on**: the rows of the paths through it to the node above it. -/
theorem outcome_eq_pathRows {w : World} {t : QueryTree}
    (hsteps : ∀ s ∈ t.postorder, s.own.steps = []) (hreads : w.ReadsAll t) {p : QueryNode}
    (hp : w.Reads t.own p) (hd : (p.label :: t.labels).Nodup) :
    ∃ r, t.outcome w (some p) = .ok r ∧
      r.contribution = t.pathsUp.flatMap fun path => w.pathRows (path ++ [p]) := by
  induction t using QueryTree.induction generalizing p with
  | node own ts ih =>
      have hdown : (own.label :: ts.flatMap labels).Nodup := by
        rw [← labels_node]
        exact (List.nodup_cons.1 hd).2
      have hhanded : handedOn w own ts = .ok ((node own ts).leafPaths.flatMap w.pathRows) := by
        refine handedOn_eq_pathRows fun c hc => ih c hc ?_ ?_ ?_ ?_
        · exact fun s hs => hsteps s (mem_postorder_of_child hc hs)
        · exact fun s hs => hreads s (mem_postorder_of_child hc hs)
        · exact hreads _ (self_mem_postorder _) c hc
        · exact hdown.sublist
            (List.Sublist.cons_cons _ (List.sublist_flatten_of_mem (List.mem_map_of_mem hc)))
      have hown : own.steps = [] := hsteps _ (self_mem_postorder _)
      rw [outcome, hhanded, ok_bind, visit_result, nodePairs]
      -- without a join nothing is handed on, and no chain gets across the step
      rcases edgePairs_result hp with ⟨hnone, hnil⟩ | hsome
      · rw [hnone, ok_bind, resultOf_apart, own_node, hown, pipeline_nil, ok_bind]
        exact ⟨_, rfl, (pathRows_eq_nil hnil).symm⟩
      · rw [hsome, ok_bind, resultOf_joined, own_node, hown, pipeline_nil, ok_bind]
        exact ⟨_, rfl, startRows_eq_pathRows hd⟩

/-! ## The top -/

section Distinct

variable {w : World} {tree : QueryTree} {completion : Completion} (hd : tree.labels.Nodup)
  (hsteps : ∀ t ∈ tree.postorder, t.own.steps = []) (hreads : w.ReadsAll tree)
include hd hsteps hreads

lemma outcome_child {t c : QueryTree} (ht : t ∈ tree.postorder) (hc : c ∈ t.children) :
    ∃ r, c.outcome w (some t.own) = .ok r ∧
      r.contribution = c.pathsUp.flatMap fun path => w.pathRows (path ++ [t.own]) := by
  have hct : c ∈ tree.postorder := child_mem_postorder ht hc
  refine outcome_eq_pathRows (fun s hs => hsteps s ?_) (fun s hs => hreads s ?_)
    (hreads t ht c hc) (List.nodup_cons.2 ⟨label_notMem_of_child hd ht hc, nodup_labels hd hct⟩)
  · exact postorder_subset hct hs
  · exact postorder_subset hct hs

lemma outcome_top :
    ∃ r, tree.outcome w none = .ok r ∧ r.rows = tree.leafPaths.flatMap w.pathRows := by
  have htop := self_mem_postorder tree
  have hchild := fun c hc => outcome_child hd hsteps hreads (c := c) htop hc
  cases tree with
  | node own ts =>
      have hown : own.steps = [] := hsteps _ htop
      have hhanded : handedOn w own ts = .ok ((node own ts).leafPaths.flatMap w.pathRows) :=
        handedOn_eq_pathRows hchild
      rw [outcome, hhanded, ok_bind, visit_result, nodePairs, ok_bind, resultOf_top, own_node, hown,
        pipeline_nil, ok_bind]
      exact ⟨_, rfl, rfl⟩

lemma outcomeIn_isOk {t : QueryTree} (ht : t ∈ tree.postorder) :
    ∃ r, outcomeIn w tree t = .ok r := by
  rcases eq_or_exists_parent ht with rfl | ⟨p, hp, htp⟩
  · rw [outcomeIn_top hd]
    exact (outcome_top hd hsteps hreads).imp fun r hr => hr.1
  · rw [outcomeIn_child hd hp htp]
    exact (outcome_child hd hsteps hreads hp htp).imp fun r hr => hr.1

variable (hc : ∀ attempts, (completion attempts).Perm attempts)
include hc

/-- **What a query without steps means.**  If nothing fails that is read, an evaluation succeeds in
either way, and the rows of the top are, from leaf to leaf below it in document order, one for every
chain of pairs along the path from the leaf to the top.  The chains are all those that are linked,
each of them once and in lexicographic order of the positions of their pairs; along a path with a
step that has no pairs there is none. -/
theorem rowsOf_top_eq_pathRows :
    (∀ mode, ∃ rs, (resultsIn mode w completion tree.walk).result = .ok rs ∧
        rs.rowsOf tree.label = tree.leafPaths.flatMap fun path =>
          (chainsOf (w.links path)).map (chainRow (path.map QueryNode.label))) ∧
      tree.leafPaths.map List.head?
        = ((tree.children.flatMap postorder).filter isLeaf).map (fun t => some t.own) ∧
      ∀ path ∈ tree.leafPaths,
        (path.getLast? = some tree.own ∧ path.IsChain fun child parent =>
          ∃ t ∈ tree.postorder, t.own = parent ∧ ∃ c ∈ t.children, c.own = child) ∧
        (∀ chain, chain ∈ chainsOf (w.links path) ↔
          List.Forall₂ (fun o pairs => pairs[o.2]? = some o.1) chain (w.links path) ∧
            Linked chain) ∧
        ((chainsOf (w.links path)).Pairwise fun s t => s.map Prod.snd < t.map Prod.snd) ∧
        ([] ∈ w.links path → chainsOf (w.links path) = []) := by
  have hpaths := leafPaths_spec tree
  refine ⟨fun mode => ?_, hpaths.1, fun path hpath =>
    ⟨hpaths.2 path hpath, fun chain => ?_, ?_, ?_⟩⟩
  · have hrun := resultsIn_settled (w := w) hd hc mode
    obtain ⟨rs, hrs⟩ := hrun.exists_ok fun t ht => outcomeIn_isOk hd hsteps hreads ht
    rw [hrs] at hrun
    obtain ⟨r, hr, hlookup⟩ := hrun tree (self_mem_postorder tree)
    obtain ⟨r', hr', hrows⟩ := outcome_top hd hsteps hreads
    rw [outcomeIn_top hd, hr', Except.ok.injEq] at hr
    refine ⟨rs, hrs, ?_⟩
    rw [rowsOf_of_lookup hlookup, ← hr]
    exact hrows
  · exact mem_chainsOf
  · exact pairwise_chainsOf _
  · exact chainsOf_eq_nil

end Distinct

lemma steps_shopTree : ∀ t ∈ shopTree.postorder, t.own.steps = [] := by
  decide

lemma readsAll_shopTree : shopWorld.ReadsAll shopTree := by
  intro t _ c _
  refine ⟨_, rfl, fun e he => ?_⟩
  rw [List.mem_singleton] at he
  subst he
  refine ⟨_, _, rfl, rfl, fun item hitem => ?_⟩
  rw [Stream.collect_ofItems] at hitem
  obtain ⟨p, -, rfl⟩ := List.mem_map.1 hitem
  exact ⟨p, rfl⟩

/-- The shops have no steps, and nothing about them fails to be read. -/
theorem rowsOf_top_shopTree :
    shopTree.labels.Nodup ∧ (∀ t ∈ shopTree.postorder, t.own.steps = []) ∧
      shopWorld.ReadsAll shopTree ∧
      ∀ mode, ∃ rs, (resultsIn mode shopWorld byWaiting shopTree.walk).result = .ok rs ∧
        rs.rowsOf "R" = shopTree.leafPaths.flatMap fun path =>
          (chainsOf (shopWorld.links path)).map (chainRow (path.map QueryNode.label)) :=
  have hd : shopTree.labels.Nodup := by decide
  ⟨hd, steps_shopTree, readsAll_shopTree,
    (rowsOf_top_eq_pathRows hd steps_shopTree readsAll_shopTree byWaiting_perm).1⟩

end Crosswalk
