import Mathlib.Data.List.Perm.Basic
import Mathlib.Data.List.Nodup
import Crosswalk.Query.Tree

/-!
# The shape of query trees

What a tree is apart from the steps of its nodes: which nodes it has, in which order they come, and
how high they stand.  Everything here is by recursion on the tree, so that what is computed with
stacks and tables elsewhere has something to be compared with.

* `QueryTree.induction` — induction on trees.
* `QueryTree.postorder` — the nodes, those below a node in front of it.
  **`walk_eq_postorder`** says that the walk with a stack finds them in this order.
* `QueryTree.labels` — the labels in document order; `map_label_postorder` compares them with the
  post-order.
* `QueryTree.height` — the distance of a node to the deepest leaf below it.
-/

namespace Crosswalk

namespace QueryTree

/-- **Induction on trees.** -/
@[elab_as_elim]
theorem induction {P : QueryTree → Prop}
    (node : ∀ own ts, (∀ t ∈ ts, P t) → P (.node own ts)) : ∀ t, P t
  | .node own ts => node own ts fun t _ht => induction node t
termination_by t => sizeOf t
decreasing_by
  have := List.sizeOf_lt_of_mem _ht
  simp only [QueryTree.node.sizeOf_spec]
  omega

@[simp] lemma own_node (own : QueryNode) (ts : List QueryTree) : (node own ts).own = own := rfl

@[simp] lemma children_node (own : QueryNode) (ts : List QueryTree) :
    (node own ts).children = ts := rfl

@[simp] lemma label_node (own : QueryNode) (ts : List QueryTree) :
    (node own ts).label = own.label := rfl

/-! ## Post-order -/

mutual

/-- **The nodes of a tree**, those below a node in front of it. -/
def postorder : QueryTree → List QueryTree
  | node own ts => postorderAll ts ++ [node own ts]

/-- The nodes of several trees, tree by tree. -/
def postorderAll : List QueryTree → List QueryTree
  | [] => []
  | t :: ts => t.postorder ++ postorderAll ts

end

lemma postorderAll_eq (ts : List QueryTree) : postorderAll ts = ts.flatMap postorder := by
  induction ts with
  | nil => rfl
  | cons t ts ih => rw [postorderAll, ih, List.flatMap_cons]

lemma postorder_node (own : QueryNode) (ts : List QueryTree) :
    (node own ts).postorder = ts.flatMap postorder ++ [node own ts] := by
  rw [postorder, postorderAll_eq]

lemma postorder_eq (t : QueryTree) : t.postorder = t.children.flatMap postorder ++ [t] := by
  cases t with
  | node own ts => rw [postorder_node, children_node]

mutual

/-- A tree on the stack is walked in post-order before the rest of the stack. -/
lemma walkStack_postorder (stack : List (Bool × QueryTree)) :
    ∀ t : QueryTree, walkStack ((false, t) :: stack) = t.postorder ++ walkStack stack
  | node own ts => by
      rw [walkStack, walkStack_postorderAll, walkStack, postorder, List.append_assoc]
      rfl

/-- So are several trees, from the first to the last. -/
lemma walkStack_postorderAll (stack : List (Bool × QueryTree)) :
    ∀ ts : List QueryTree, walkStack (unmarked ts ++ stack) = postorderAll ts ++ walkStack stack
  | [] => rfl
  | t :: ts => by
      show walkStack ((false, t) :: (unmarked ts ++ stack)) = _
      rw [walkStack_postorder _ t, walkStack_postorderAll stack ts, postorderAll,
        List.append_assoc]

end

/-- **The walk with a stack is the post-order.** -/
theorem walk_eq_postorder (t : QueryTree) : t.walk = t.postorder := by
  rw [walk, walkStack_postorder, walkStack, List.append_nil]

lemma self_mem_postorder (t : QueryTree) : t ∈ t.postorder := by
  cases t with
  | node own ts => simp [postorder_node]

lemma mem_postorder_of_child {s c t : QueryTree} (hc : c ∈ t.children) (hs : s ∈ c.postorder) :
    s ∈ t.postorder := by
  cases t with
  | node own ts =>
      rw [postorder_node]
      exact List.mem_append_left _ (List.mem_flatMap.2 ⟨c, hc, hs⟩)

/-- A node is the top of a tree, or stands below one of the children of the top. -/
lemma mem_postorder_node {s : QueryTree} {own : QueryNode} {ts : List QueryTree} :
    s ∈ (node own ts).postorder ↔ (∃ c ∈ ts, s ∈ c.postorder) ∨ s = node own ts := by
  simp [postorder_node]

/-- **The nodes of a tree are closed under children.** -/
lemma child_mem_postorder {c s t : QueryTree} (hs : s ∈ t.postorder) (hc : c ∈ s.children) :
    c ∈ t.postorder := by
  induction t using QueryTree.induction with
  | node own ts ih =>
      rcases mem_postorder_node.1 hs with ⟨u, hu, hsu⟩ | rfl
      · exact mem_postorder_of_child hu (ih u hu hsu)
      · exact mem_postorder_of_child hc (self_mem_postorder c)

lemma postorder_subset {s t : QueryTree} (hs : s ∈ t.postorder) :
    s.postorder ⊆ t.postorder := by
  induction t using QueryTree.induction with
  | node own ts ih =>
      rcases mem_postorder_node.1 hs with ⟨u, hu, hsu⟩ | rfl
      · exact fun r hr => mem_postorder_of_child hu (ih u hu hsu hr)
      · exact List.Subset.refl _

/-! ## Labels -/

mutual

/-- **The labels of a tree** in document order. -/
def labels : QueryTree → List String
  | node own ts => own.label :: labelsAll ts

/-- The labels of several trees. -/
def labelsAll : List QueryTree → List String
  | [] => []
  | t :: ts => t.labels ++ labelsAll ts

end

lemma labelsAll_eq (ts : List QueryTree) : labelsAll ts = ts.flatMap labels := by
  induction ts with
  | nil => rfl
  | cons t ts ih => rw [labelsAll, ih, List.flatMap_cons]

lemma labels_node (own : QueryNode) (ts : List QueryTree) :
    (node own ts).labels = own.label :: ts.flatMap labels := by
  rw [labels, labelsAll_eq]

/-- Post-order and document order have the same labels. -/
theorem map_label_postorder (t : QueryTree) : (t.postorder.map label).Perm t.labels := by
  induction t using QueryTree.induction with
  | node own ts ih =>
      have hts : (ts.flatMap fun t => t.postorder.map label).Perm (ts.flatMap labels) :=
        List.Perm.flatMap_left ts ih
      rw [postorder_node, labels_node, List.map_append, List.map_flatMap]
      exact (hts.append_right _).trans (List.perm_append_singleton _ _)

lemma nodeCount_eq (t : QueryTree) : t.nodeCount = t.labels.length := by
  rw [nodeCount, walk_eq_postorder, ← (map_label_postorder t).length_eq, List.length_map]

lemma label_mem_labels {s t : QueryTree} (hs : s ∈ t.postorder) : s.label ∈ t.labels :=
  (map_label_postorder t).mem_iff.1 (List.mem_map_of_mem hs)

lemma label_mem_own (t : QueryTree) : t.label ∈ t.labels :=
  label_mem_labels (self_mem_postorder t)

/-- **In a tree with distinct labels a node is known by its label.** -/
lemma eq_of_label_eq {s t tree : QueryTree} (hd : tree.labels.Nodup) (hs : s ∈ tree.postorder)
    (ht : t ∈ tree.postorder) (h : s.label = t.label) : s = t :=
  List.inj_on_of_nodup_map ((map_label_postorder tree).nodup_iff.2 hd) hs ht h

lemma nodup_labels {s t : QueryTree} (hd : t.labels.Nodup) (hs : s ∈ t.postorder) :
    s.labels.Nodup := by
  induction t using QueryTree.induction with
  | node own ts ih =>
      rcases mem_postorder_node.1 hs with ⟨c, hc, hsc⟩ | rfl
      · rw [labels_node, List.nodup_cons, List.nodup_flatMap] at hd
        exact ih c hc (hd.2.1 c hc) hsc
      · exact hd

/-- The label of a node is not below its children. -/
lemma label_notMem_of_child {c t tree : QueryTree} (hd : tree.labels.Nodup)
    (ht : t ∈ tree.postorder) (hc : c ∈ t.children) : t.label ∉ c.labels := by
  cases t with
  | node own ts =>
      have h := nodup_labels hd ht
      rw [labels_node, List.nodup_cons, List.mem_flatMap] at h
      exact fun hl => h.1 ⟨c, hc, hl⟩

/-! ## Heights -/

mutual

/-- **The distance of the top to the deepest leaf below it.** -/
def height : QueryTree → Nat
  | node _ ts => heightAll ts

/-- One more than the greatest height of several trees; zero without trees. -/
def heightAll : List QueryTree → Nat
  | [] => 0
  | t :: ts => max (t.height + 1) (heightAll ts)

end

lemma heightAll_le_iff {ts : List QueryTree} {n : Nat} :
    heightAll ts ≤ n ↔ ∀ t ∈ ts, t.height < n := by
  induction ts with
  | nil => simp [heightAll]
  | cons t ts ih => rw [heightAll, Nat.max_le, ih, Nat.succ_le_iff, List.forall_mem_cons]

lemma height_eq (t : QueryTree) : t.height = heightAll t.children := by
  cases t with
  | node own ts => rw [height, children_node]

lemma height_lt_of_child {c t : QueryTree} (hc : c ∈ t.children) : c.height < t.height := by
  rw [height_eq t]
  exact heightAll_le_iff.1 (Nat.le_refl _) c hc

lemma height_le {t : QueryTree} {n : Nat} (h : ∀ c ∈ t.children, c.height < n) :
    t.height ≤ n := by
  rw [height_eq t]
  exact heightAll_le_iff.2 h

end QueryTree

end Crosswalk
