import Crosswalk.Proofs.Engine.Growth

/-!
# Nodes that hand nothing on

A node without a join to its parent hands nothing on, so nothing above it depends on it.  When its
subtree is taken out of a query, all other nodes come to the rows that they came to before.  The
parent must have another child, since a leaf starts from its own pairs.

* `QueryTree.without` — **a tree without the subtrees of a label.**  `postorder_without` says
  which nodes are left.
* `contribution_of_unjoined` — what a node without a join hands on.
* `outcome_without`, `records_without` — what is left comes to the same, by induction on the tree.
* **`evaluateWith_without`** — the report of what is left.
-/

namespace Crosswalk

namespace QueryTree

mutual

/-- **A tree without the subtrees of a label** below its top. -/
def without (label : String) : QueryTree → QueryTree
  | node own ts => node own (withoutAll label ts)

/-- Trees without those of a label, and without the subtrees of the label in the others. -/
def withoutAll (label : String) : List QueryTree → List QueryTree
  | [] => []
  | t :: ts =>
    if t.label = label then withoutAll label ts else t.without label :: withoutAll label ts

end

lemma without_node (l : String) (own : QueryNode) (ts : List QueryTree) :
    (node own ts).without l = node own (withoutAll l ts) := by
  rw [without]

@[simp] lemma own_without (l : String) (t : QueryTree) : (t.without l).own = t.own := by
  cases t with
  | node own ts => rw [without_node, own_node, own_node]

lemma withoutAll_eq_nil {l : String} {ts : List QueryTree} :
    withoutAll l ts = [] ↔ ∀ t ∈ ts, t.label = l := by
  induction ts with
  | nil => simp [withoutAll]
  | cons t ts ih =>
      rw [withoutAll, List.forall_mem_cons]
      by_cases h : t.label = l <;> simp [h, ih]

/-! ## What is left -/

section Left

variable {tree x c : QueryTree} (hd : tree.labels.Nodup)
include hd

/-- **A node has one parent.** -/
lemma parent_unique {s t : QueryTree} (hs : s ∈ tree.postorder) (ht : t ∈ tree.postorder)
    (hcs : c ∈ s.children) (hct : c ∈ t.children) : s = t := by
  have hown : some s.own = some t.own := by
    rw [← lookup_parentsOf hd hs hcs, lookup_parentsOf hd ht hct]
  exact eq_of_label_eq hd hs ht (congrArg QueryNode.label (Option.some.inj hown))

/-- One of several children has another label than a given one. -/
lemma exists_other_child (hx : x ∈ tree.postorder) (htwo : 2 ≤ x.children.length) :
    ∃ u ∈ x.children, u.label ≠ c.label := by
  by_contra hall
  push Not at hall
  cases x with
  | node own ts =>
      match ts, htwo with
      | a :: b :: rest, _ =>
          have h := nodup_labels hd hx
          rw [labels_node, List.nodup_cons, List.nodup_flatMap, List.pairwise_cons] at h
          have hdisjoint := h.2.2.1 b List.mem_cons_self
          have heq : a.label = b.label :=
            (hall a List.mem_cons_self).trans
              (hall b (List.mem_cons_of_mem _ List.mem_cons_self)).symm
          exact hdisjoint (label_mem_own a) (heq ▸ label_mem_own b)

variable (hx : x ∈ tree.postorder) (hc : c ∈ x.children)
include hx hc

/-- The top is not below a child. -/
lemma top_notMem_child : tree ∉ c.postorder := by
  intro htop
  have hct : c ∈ tree.postorder := child_mem_postorder hx hc
  have hnone := lookup_parentsOf_top hd
  rcases eq_or_exists_parent htop with rfl | ⟨p, hp, htp⟩
  · rw [lookup_parentsOf hd hx hc] at hnone
    cases hnone
  · rw [lookup_parentsOf hd (postorder_subset hct hp) htp] at hnone
    cases hnone

variable {t : QueryTree} (ht : t ∈ tree.postorder)
include ht

lemma label_notMem_of_outside (hout : t ∉ c.postorder) : t.label ∉ c.labels := by
  intro h
  obtain ⟨s, hs, hlabel⟩ := List.mem_map.1 ((map_label_postorder c).mem_iff.2 h)
  have hst := eq_of_label_eq hd (postorder_subset (child_mem_postorder hx hc) hs) ht hlabel
  exact hout (hst ▸ hs)

/-- **A child of a node outside of a subtree** is the top of the subtree, or also outside of it. -/
lemma child_outside (hout : t ∉ c.postorder) {u : QueryTree} (hu : u ∈ t.children) :
    u = c ∨ u.label ≠ c.label ∧ u ∉ c.postorder := by
  have hut := child_mem_postorder ht hu
  by_cases hmem : u ∈ c.postorder
  · left
    rcases eq_or_exists_parent hmem with rfl | ⟨p, hp, hup⟩
    · rfl
    · have hpt := postorder_subset (child_mem_postorder hx hc) hp
      exact absurd (parent_unique hd hpt ht hup hu ▸ hp) hout
  · refine Or.inr ⟨fun hlabel => hmem ?_, hmem⟩
    rw [eq_of_label_eq hd hut (child_mem_postorder hx hc) hlabel]
    exact self_mem_postorder c

/-- **The nodes that are left** are those outside of the subtree, in the same order. -/
theorem postorder_without (hout : t ∉ c.postorder) :
    (t.without c.label).postorder.map own
      = (t.postorder.map own).filter fun n => n.label ∉ c.labels := by
  induction t using QueryTree.induction with
  | node own ts ih =>
      have hbelow : ∀ us ⊆ ts, (postorderAll (withoutAll c.label us)).map QueryTree.own
          = ((postorderAll us).map QueryTree.own).filter fun n => n.label ∉ c.labels := by
        intro us
        induction us with
        | nil => exact fun _ => rfl
        | cons u us ihus =>
            intro hsub
            have hu := hsub List.mem_cons_self
            have hrest := ihus fun v hv => hsub (List.mem_cons_of_mem _ hv)
            rw [withoutAll, postorderAll, List.map_append, List.filter_append, ← hrest]
            rcases child_outside hd hx hc ht hout hu with rfl | ⟨hlabel, hu'⟩
            · have hnone : ((u.postorder.map QueryTree.own).filter fun n => n.label ∉ u.labels)
                  = [] := by
                refine List.filter_eq_nil_iff.2 fun n hn => ?_
                obtain ⟨s, hs, rfl⟩ := List.mem_map.1 hn
                have hmem : s.own.label ∈ u.labels := label_mem_labels hs
                simpa using hmem
              rw [if_pos rfl, hnone, List.nil_append]
            · rw [if_neg hlabel, postorderAll, List.map_append,
                ih u hu (child_mem_postorder ht hu) hu']
      have hown : own.label ∉ c.labels := label_notMem_of_outside hd hx hc ht hout
      rw [without_node, postorder, postorder, List.map_append, List.map_append, List.filter_append,
        hbelow ts (List.Subset.refl ts)]
      simp [hown]

/-- What is left has distinct labels. -/
lemma nodup_labels_without (hout : t ∉ c.postorder) : (t.without c.label).labels.Nodup := by
  have hlabels (s : QueryTree) :
      s.postorder.map label = (s.postorder.map own).map QueryNode.label := by
    rw [List.map_map]
    rfl
  refine (map_label_postorder _).nodup_iff.1 ?_
  rw [hlabels, postorder_without hd hx hc ht hout]
  refine List.Nodup.sublist (List.filter_sublist.map _) ?_
  rw [← hlabels]
  exact (map_label_postorder t).nodup_iff.2 (nodup_labels hd ht)

end Left

end QueryTree

open QueryTree

/-! ## Results -/

/-- **A node without a join to its parent** hands nothing on. -/
theorem contribution_of_unjoined {w : World} {t : QueryTree} {p : QueryNode}
    (hjoins : w.joins t.own.name p.name = .ok []) {r : NodeResult}
    (h : t.outcome w (some p) = .ok r) : r.contribution = [] := by
  have hpairs : nodePairs w (some p) t = .ok none := by
    rw [nodePairs, edgePairs, Traced.result_bind, Traced.result_of, hjoins]
    rfl
  cases t with
  | node own ts =>
      obtain ⟨incoming, -, h⟩ := bind_eq_ok.1 h
      rw [visit_result, hpairs, ok_bind, resultOf_apart] at h
      obtain ⟨rows, -, h⟩ := bind_eq_ok.1 h
      cases h
      rfl

/-- The node at the top, its parent, and whether there are children: nothing else of a tree counts
when its top is visited. -/
lemma visit_congr (w : World) (parent : Option QueryNode) {t u : QueryTree} (hown : u.own = t.own)
    (hleaf : u.isLeaf = t.isLeaf) (incoming : List Row) :
    (visit w parent u incoming).result = (visit w parent t incoming).result := by
  have hlabel : u.label = t.label := congrArg QueryNode.label hown
  have hpairs : nodePairs w parent u = nodePairs w parent t := by
    unfold nodePairs
    rw [hown]
  have hresult : resultOf u parent incoming = resultOf t parent incoming := by
    funext pairs
    unfold resultOf startRows
    rw [hown, hleaf, hlabel]
  rw [visit_result, visit_result, hpairs, hresult]

section Results

variable {tree x c : QueryTree} (hd : tree.labels.Nodup) (hx : x ∈ tree.postorder)
  (hc : c ∈ x.children)
include hd hx hc

variable (htwo : 2 ≤ x.children.length) {t : QueryTree} (ht : t ∈ tree.postorder)
  (hout : t ∉ c.postorder)
include htwo ht hout

/-- A child has a sibling, so its parent does not become a leaf. -/
lemma isLeaf_without : (t.without c.label).isLeaf = t.isLeaf := by
  have hnil : withoutAll c.label t.children = [] ↔ t.children = [] := by
    rw [withoutAll_eq_nil]
    refine ⟨fun hall => ?_, fun hnone => by simp [hnone]⟩
    by_contra hsome
    obtain ⟨u, hu⟩ := List.exists_mem_of_ne_nil _ hsome
    rcases child_outside hd hx hc ht hout hu with rfl | ⟨hlabel, -⟩
    · obtain rfl := parent_unique hd ht hx hu hc
      obtain ⟨v, hv, hother⟩ := exists_other_child (c := u) hd hx htwo
      exact hother (hall v hv)
    · exact hlabel (hall u hu)
  cases t with
  | node own ts =>
      rw [without_node, Bool.eq_iff_iff, isLeaf, isLeaf, List.isEmpty_iff, List.isEmpty_iff]
      exact hnil

variable {w : World} (hjoins : w.joins c.own.name x.own.name = .ok [])
include hjoins

/-- **The nodes that are left come to the same**, since nothing was handed on by what is not. -/
theorem outcome_without {parent : Option QueryNode} {r : NodeResult}
    (h : t.outcome w parent = .ok r) : (t.without c.label).outcome w parent = .ok r := by
  induction t using QueryTree.induction generalizing parent r with
  | node own ts ih =>
      have hchildren : ∀ us ⊆ ts, ∀ rows, handedOn w own us = .ok rows →
          handedOn w own (withoutAll c.label us) = .ok rows := by
        intro us
        induction us with
        | nil => exact fun _ rows hrows => hrows
        | cons u us ihus =>
            intro hsub rows hrows
            have hu : u ∈ (node own ts).children := hsub List.mem_cons_self
            obtain ⟨r, hr, hrows⟩ := bind_eq_ok.1 hrows
            obtain ⟨rest, hrest, hrows⟩ := bind_eq_ok.1 hrows
            cases hrows
            have hrest' := ihus (fun v hv => hsub (List.mem_cons_of_mem _ hv)) rest hrest
            rw [withoutAll]
            rcases child_outside hd hx hc ht hout hu with rfl | ⟨hlabel, hu'⟩
            · obtain rfl := parent_unique hd ht hx hu hc
              rw [if_pos rfl, hrest', contribution_of_unjoined hjoins hr, List.nil_append]
            · rw [if_neg hlabel, handedOn, ih u hu (child_mem_postorder ht hu) hu' hr, ok_bind,
                hrest', ok_bind]
      obtain ⟨incoming, hincoming, h⟩ := bind_eq_ok.1 h
      have hvisit := visit_congr w parent (own_without c.label (node own ts))
        (isLeaf_without hd hx hc htwo ht hout) incoming
      rw [without_node] at hvisit ⊢
      rw [outcome, hchildren ts (List.Subset.refl ts) incoming hincoming, ok_bind, hvisit, h]

end Results

/-! ## Reports -/

section Labels

variable {w : World}

lemma map_label_ownRecord (own : QueryNode) (rows : List Row) :
    ∀ r ∈ ownRecord own rows, r.label = own.label := by
  intro r hr
  unfold ownRecord at hr
  split at hr
  · rw [List.mem_singleton.1 hr]
  · cases hr

/-- **What is reported of a tree** is about its own nodes. -/
lemma label_mem_of_records {t : QueryTree} {parent : Option QueryNode}
    {records : List OutputRecord} (h : t.records w parent = .ok records) :
    ∀ r ∈ records, r.label ∈ t.labels := by
  induction t using QueryTree.induction generalizing parent records with
  | node own ts ih =>
      have hbelow : ∀ us ⊆ ts, ∀ below, recordsAll w own us = .ok below →
          ∀ r ∈ below, r.label ∈ us.flatMap labels := by
        intro us
        induction us with
        | nil =>
            intro _ below hbelow r hr
            cases hbelow
            cases hr
        | cons u us ihus =>
            intro hsub below hbelow r hr
            obtain ⟨first, hfirst, hbelow⟩ := bind_eq_ok.1 hbelow
            obtain ⟨others, hothers, hbelow⟩ := bind_eq_ok.1 hbelow
            cases hbelow
            rw [List.flatMap_cons, List.mem_append]
            exact (List.mem_append.1 hr).imp
              (ih u (hsub List.mem_cons_self) hfirst r)
              (ihus (fun v hv => hsub (List.mem_cons_of_mem _ hv)) others hothers r)
      obtain ⟨below, hrec, h⟩ := bind_eq_ok.1 h
      obtain ⟨result, -, h⟩ := bind_eq_ok.1 h
      cases h
      intro r hr
      rw [labels_node]
      rcases List.mem_append.1 hr with hr | hr
      · exact List.mem_cons_of_mem _ (hbelow ts (List.Subset.refl ts) below hrec r hr)
      · rw [map_label_ownRecord own _ r hr]
        exact List.mem_cons_self

end Labels

section Reports

variable {w : World} {tree x c : QueryTree} (hd : tree.labels.Nodup) (hx : x ∈ tree.postorder)
  (hc : c ∈ x.children) (htwo : 2 ≤ x.children.length)
  (hjoins : w.joins c.own.name x.own.name = .ok [])
include hd hx hc htwo hjoins

/-- **The report by recursion of what is left.** -/
lemma records_without {t : QueryTree} (ht : t ∈ tree.postorder) (hout : t ∉ c.postorder)
    {parent : Option QueryNode} {records : List OutputRecord}
    (h : t.records w parent = .ok records) :
    (t.without c.label).records w parent = .ok (records.filter fun r => r.label ∉ c.labels) := by
  induction t using QueryTree.induction generalizing parent records with
  | node own ts ih =>
      have hbelow : ∀ us ⊆ ts, ∀ below, recordsAll w own us = .ok below →
          recordsAll w own (withoutAll c.label us)
            = .ok (below.filter fun r => r.label ∉ c.labels) := by
        intro us
        induction us with
        | nil =>
            intro _ below hbelow
            cases hbelow
            rfl
        | cons u us ihus =>
            intro hsub below hbelow
            have hu : u ∈ (node own ts).children := hsub List.mem_cons_self
            obtain ⟨first, hfirst, hbelow⟩ := bind_eq_ok.1 hbelow
            obtain ⟨others, hothers, hbelow⟩ := bind_eq_ok.1 hbelow
            cases hbelow
            have hothers' := ihus (fun v hv => hsub (List.mem_cons_of_mem _ hv)) others hothers
            rw [withoutAll, List.filter_append]
            rcases child_outside hd hx hc ht hout hu with rfl | ⟨hlabel, hu'⟩
            · have hnone : (first.filter fun r => r.label ∉ u.labels) = [] :=
                List.filter_eq_nil_iff.2 fun r hr => by simpa using label_mem_of_records hfirst r hr
              rw [if_pos rfl, hnone, List.nil_append, hothers']
            · rw [if_neg hlabel, recordsAll, ih u hu (child_mem_postorder ht hu) hu' hfirst,
                ok_bind, hothers', ok_bind]
      obtain ⟨below, hrec, h⟩ := bind_eq_ok.1 h
      obtain ⟨result, hresult, h⟩ := bind_eq_ok.1 h
      cases h
      have hown : (ownRecord own result.rows).filter (fun r => r.label ∉ c.labels)
          = ownRecord own result.rows := by
        refine List.filter_eq_self.2 fun r hr => ?_
        rw [map_label_ownRecord own _ r hr]
        simpa using label_notMem_of_outside hd hx hc ht hout
      have hresult' := outcome_without hd hx hc htwo ht hout hjoins hresult
      rw [without_node] at hresult' ⊢
      rw [QueryTree.records, hbelow ts (List.Subset.refl ts) below hrec, ok_bind, hresult', ok_bind,
        List.filter_append, hown]

/-- **A child without a join is neutral.**  If a query can be evaluated, and one of the several
children of a node has no join to it, then the query without the subtree of the child can be
evaluated, in either way and in whatever order visits come to an end.  Its nodes are all others, and
so are its records. -/
theorem evaluateWith_without {completion completion' : Completion}
    (hcompletion : ∀ attempts, (completion attempts).Perm attempts)
    (hcompletion' : ∀ attempts, (completion' attempts).Perm attempts) (mode mode' : EvaluationMode)
    {records : List OutputRecord}
    (h : (evaluateWith completion mode w tree).result = .ok records) :
    (tree.without c.label).postorder.map own
        = (tree.postorder.map own).filter (fun n => n.label ∉ c.labels) ∧
      (evaluateWith completion' mode' w (tree.without c.label)).result
        = .ok (records.filter fun r => r.label ∉ c.labels) := by
  have ht := self_mem_postorder tree
  have hout := top_notMem_child hd hx hc
  refine ⟨postorder_without hd hx hc ht hout, ?_⟩
  have hrec := (evaluateWith_eq_ok hd hcompletion).1 h
  exact (evaluateWith_eq_ok (nodup_labels_without hd hx hc ht hout) hcompletion').2
    (records_without hd hx hc htwo hjoins ht hout hrec)

end Reports

/-- The item of a shop. -/
def itemTree : QueryTree :=
  .node { name := "Shop", label := "S", output := true }
    [.node { name := "Item", label := "I", output := true } []]

/-- A region with its cities and its shops. -/
def marketTree : QueryTree :=
  .node { name := "Region", label := "R", output := true, steps := [.aggregate .count] }
    [itemTree, .node { name := "City", label := "C", output := true } []]

/-- No join leads from shops to regions. -/
def marketWorld : World :=
  .ofPairs
    (fun head tail => .ok (if head = "Shop" then [] else
      [{ datasource := "shops", key := head, value := tail, head, tail }]))
    ⟨[.xml ⟨0, "shops", "shops.xml", ""⟩]⟩ fun _ key _ => shopPairs key

lemma edgePairs_marketWorld (child parent : QueryNode) :
    (edgePairs marketWorld child parent).result
      = .ok (if child.name = "Shop" then none else some (shopPairs child.name)) := by
  by_cases hshop : child.name = "Shop"
  · refine edgePairs_eq_ok.2 ⟨[], congrArg Except.ok (if_pos hshop), by simp, ?_⟩
    rw [if_pos hshop, List.isEmpty_nil, if_pos rfl]
  · refine edgePairs_eq_ok.2 ⟨_, congrArg Except.ok (if_neg hshop), fun e he => ?_, ?_⟩
    · rw [List.mem_singleton.1 he]
      exact readable_ofPairs.2 rfl
    · rw [if_neg hshop, List.flatMap_singleton, marketWorld, pairsOf_ofPairs]
      rfl

/-- What the region with its cities and its shops comes to: the shops do not count. -/
def marketRecords : List OutputRecord :=
  [⟨"I", "Item", ["pen", "ink", "pen"]⟩, ⟨"S", "Shop", ["s1", "s2", "s1"]⟩,
    ⟨"C", "City", ["rome", "oslo"]⟩, ⟨"R", "Region", ["2"]⟩]

lemma records_marketTree : marketTree.records marketWorld none = .ok marketRecords := by
  simp only [marketTree, itemTree, records, recordsAll, outcome, handedOn, visit_result, nodePairs,
    edgePairs_marketWorld, ok_bind]
  exact ok_of_toOption (by decide +kernel)

/-- The shops taken out, with another way of evaluating. -/
theorem evaluateWith_without_marketTree :
    marketTree.labels.Nodup ∧ marketTree ∈ marketTree.postorder ∧
      itemTree ∈ marketTree.children ∧
      2 ≤ marketTree.children.length ∧
      marketWorld.joins itemTree.own.name marketTree.own.name = .ok [] ∧
      (∀ attempts, (byWaiting attempts).Perm attempts) ∧
      (evaluateWith byWaiting .sequential marketWorld marketTree).result = .ok marketRecords ∧
      (evaluateWith byWaiting .concurrent marketWorld (marketTree.without "S")).result
        = .ok [⟨"C", "City", ["rome", "oslo"]⟩, ⟨"R", "Region", ["2"]⟩] := by
  have hd : marketTree.labels.Nodup := by decide
  have hx := self_mem_postorder marketTree
  have hc : itemTree ∈ marketTree.children := List.mem_cons_self
  have hjoins : marketWorld.joins itemTree.own.name marketTree.own.name = .ok [] := rfl
  have heval : (evaluateWith byWaiting .sequential marketWorld marketTree).result
      = .ok marketRecords := (evaluateWith_eq_ok hd byWaiting_perm).2 records_marketTree
  have hrest := (evaluateWith_without hd hx hc (by decide) hjoins byWaiting_perm byWaiting_perm
    .sequential .concurrent heval).2
  exact ⟨hd, hx, hc, by decide, hjoins, byWaiting_perm, heval, hrest⟩

end Crosswalk
