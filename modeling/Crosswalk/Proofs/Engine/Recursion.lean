import Crosswalk.Engine.Evaluate
import Crosswalk.Proofs.Query.Shape
import Crosswalk.Proofs.Sequence

/-!
# Results by recursion

What a query means without a schedule: the result of a node is computed from what its children hand
on, and theirs from what is below them.

* `QueryTree.outcome` — **the result of a node by recursion.**
* `QueryTree.records` — **the report of a tree by recursion.**
* `lookup_parentsOf` — the table of parents that an evaluation builds says of every node what the
  tree says.
-/

namespace Crosswalk

/-- The pairs of the joins from a node to the node above it, if there are any. -/
def nodePairs (w : World) (parent : Option QueryNode) (t : QueryTree) :
    Except Error (Option (List Pair)) :=
  match parent with
  | some p => (edgePairs w t.own p).result
  | none => .ok none

lemma visit_result (w : World) (parent : Option QueryNode) (t : QueryTree) (incoming : List Row) :
    (visit w parent t incoming).result
      = nodePairs w parent t >>= resultOf t parent incoming := by
  cases parent with
  | none => rfl
  | some p => simp [visit, nodePairs]

section Result

variable (t : QueryTree) (incoming : List Row)

lemma resultOf_top (pairs : Option (List Pair)) :
    resultOf t none incoming pairs
      = pipeline t.label none t.own.steps incoming >>= fun rows => .ok ⟨rows, []⟩ := rfl

lemma resultOf_apart (p : QueryNode) :
    resultOf t (some p) incoming none
      = pipeline t.label none t.own.steps incoming >>= fun rows => .ok ⟨rows, []⟩ := rfl

lemma resultOf_joined (p : QueryNode) (pairs : List Pair) :
    resultOf t (some p) incoming (some pairs)
      = pipeline t.label (some p.label) t.own.steps (startRows t p.label incoming pairs)
          >>= fun rows => .ok ⟨rows, rows⟩ := rfl

end Result

namespace QueryTree

mutual

/-- **The result of a node by recursion**, from what its children hand on. -/
def outcome (w : World) (parent : Option QueryNode) : QueryTree → Except Error NodeResult
  | node own ts => do
    let incoming ← handedOn w own ts
    (visit w parent (node own ts) incoming).result

/-- What several children hand on, child by child. -/
def handedOn (w : World) (parent : QueryNode) : List QueryTree → Except Error (List Row)
  | [] => .ok []
  | t :: ts => do
    let r ← outcome w (some parent) t
    let rows ← handedOn w parent ts
    .ok (r.contribution ++ rows)

end

/-- The record of a node with its rows, if the node is reported. -/
def ownRecord (own : QueryNode) (rows : List Row) : List OutputRecord :=
  if own.output then [⟨own.label, own.name, valuesOf own.label rows⟩] else []

mutual

/-- **The report of a tree by recursion**: what is below a node is reported in front of it. -/
def records (w : World) (parent : Option QueryNode) : QueryTree → Except Error (List OutputRecord)
  | node own ts => do
    let below ← recordsAll w own ts
    let r ← outcome w parent (node own ts)
    .ok (below ++ ownRecord own r.rows)

/-- The reports of several trees, tree by tree. -/
def recordsAll (w : World) (parent : QueryNode) :
    List QueryTree → Except Error (List OutputRecord)
  | [] => .ok []
  | t :: ts => do
    let first ← records w (some parent) t
    let others ← recordsAll w parent ts
    .ok (first ++ others)

end

end QueryTree

/-! ## Parents -/

lemma parentsOf_append (front back : List QueryTree) :
    parentsOf (front ++ back) = parentsOf front ++ parentsOf back :=
  List.flatMap_append

/-- **Every label but that of the top has a parent**, and only one. -/
lemma keys_parentsOf (t : QueryTree) :
    ((parentsOf t.postorder).map Prod.fst ++ [t.label]).Perm t.labels := by
  induction t using QueryTree.induction with
  | node own ts ih =>
      have hkeys : (parentsOf (QueryTree.node own ts).postorder).map Prod.fst
          = (ts.flatMap fun t => (parentsOf t.postorder).map Prod.fst)
            ++ ts.flatMap fun t => [t.label] := by
        rw [QueryTree.postorder_node, parentsOf_append, List.map_append]
        congr 1
        · simp only [parentsOf, List.flatMap_assoc, List.map_flatMap]
        · rw [← List.map_eq_flatMap]
          simp [parentsOf, Function.comp_def]
      have hbelow : (ts.flatMap fun t => (parentsOf t.postorder).map Prod.fst ++ [t.label]).Perm
          (ts.flatMap QueryTree.labels) := List.Perm.flatMap_left ts ih
      rw [hkeys, QueryTree.labels_node, QueryTree.label_node]
      exact ((((List.flatMap_append_perm ts _ _).trans hbelow).append_right _).trans
        (List.perm_append_singleton _ _))

section Distinct

variable {tree : QueryTree} (hd : tree.labels.Nodup)
include hd

lemma lookup_parentsOf {c t : QueryTree} (ht : t ∈ tree.postorder) (hc : c ∈ t.children) :
    (parentsOf tree.walk).lookup c.label = some t.own := by
  have hnodup := ((keys_parentsOf tree).nodup_iff.2 hd).of_append_left
  rw [QueryTree.walk_eq_postorder]
  refine lookup_of_mem hnodup ?_
  exact List.mem_flatMap.2 ⟨t, ht, List.mem_map.2 ⟨c, hc, rfl⟩⟩

lemma lookup_parentsOf_top : (parentsOf tree.walk).lookup tree.label = none := by
  have hnodup := (keys_parentsOf tree).nodup_iff.2 hd
  rw [QueryTree.walk_eq_postorder]
  refine lookup_eq_none_of_notMem fun hmem => ?_
  exact (List.nodup_append.1 hnodup).2.2 _ hmem _ (List.mem_singleton_self _) rfl

end Distinct

/-- A node below the top is a child. -/
lemma QueryTree.eq_or_exists_parent {t tree : QueryTree} (ht : t ∈ tree.postorder) :
    t = tree ∨ ∃ p ∈ tree.postorder, t ∈ p.children := by
  induction tree using QueryTree.induction with
  | node own ts ih =>
      rcases QueryTree.mem_postorder_node.1 ht with ⟨c, hc, htc⟩ | rfl
      · right
        rcases ih c hc htc with rfl | ⟨p, hp, htp⟩
        · exact ⟨_, QueryTree.self_mem_postorder _, hc⟩
        · exact ⟨p, QueryTree.mem_postorder_of_child hc hp, htp⟩
      · exact Or.inl rfl

end Crosswalk
