import Crosswalk.Proofs.Engine.Meaning
import Crosswalk.Proofs.Engine.Visits
import Crosswalk.Proofs.Pipeline

/-!
# The columns of an evaluation

What a node hands on has a column for the node and one for the node above it, and no column for any
node that is not below.  That makes joins meaningful: the rows that come to a node from below have
the column that they are joined on, and do not have the one that the join adds.

* `World.Joined` — there is a join from a node to the node above it.
* `contribution_columns` — **the columns of what a node hands on**, by induction on the tree.
* **`visits_columns`** — the columns before a visit, in its pipeline, and behind it.
-/

namespace Crosswalk

open QueryTree

/-- There is a join from a node to the node above it. -/
def World.Joined (w : World) (child parent : QueryNode) : Prop :=
  ∃ e es, w.joins child.name parent.name = .ok (e :: es)

/-- Pairs are read if there is a join, and only then. -/
lemma joined_iff_of_edgePairs {w : World} {child parent : QueryNode} {pairs : Option (List Pair)}
    (h : (edgePairs w child parent).result = .ok pairs) :
    w.Joined child parent ↔ pairs.isSome := by
  rw [edgePairs, Traced.result_bind, Traced.result_of] at h
  obtain ⟨edges, hedges, h⟩ := bind_eq_ok.1 h
  rw [Traced.result_bind, Traced.result_note, ok_bind] at h
  rw [World.Joined, hedges]
  cases edges with
  | nil =>
      cases h
      simp
  | cons e es =>
      rw [List.isEmpty_cons, if_neg (by simp), Traced.result_bind] at h
      obtain ⟨read, -, h⟩ := bind_eq_ok.1 h
      cases h
      simp

/-- The label by which the rows of a node are grouped: that of the node above it, if there is a
join. -/
def groupOf (parent : Option QueryNode) (pairs : Option (List Pair)) : Option String :=
  match parent, pairs with
  | some p, some _ => some p.label
  | _, _ => none

/-- The rows that go into the pipeline of a node. -/
def enteringRows (t : QueryTree) (parent : Option QueryNode) (incoming : List Row)
    (pairs : Option (List Pair)) : List Row :=
  match parent, pairs with
  | some p, some pairs => startRows t p.label incoming pairs
  | _, _ => incoming

/-- The rows of a node are what its pipeline makes of the rows that go into it. -/
lemma map_rows_resultOf (t : QueryTree) (parent : Option QueryNode) (incoming : List Row)
    (pairs : Option (List Pair)) :
    (resultOf t parent incoming pairs).map NodeResult.rows
      = pipeline t.label (groupOf parent pairs) t.own.steps
          (enteringRows t parent incoming pairs) := by
  have hmap : ∀ (x : Except Error (List Row)) (f : List Row → NodeResult),
      (∀ rows, (f rows).rows = rows) →
        (x >>= fun rows => .ok (f rows)).map NodeResult.rows = x := by
    intro x f hf
    cases x with
    | ok rows => exact congrArg Except.ok (hf rows)
    | error e => rfl
  cases parent with
  | none =>
      rw [resultOf_top]
      exact hmap _ _ fun _ => rfl
  | some p =>
      cases pairs with
      | none =>
          rw [resultOf_apart]
          exact hmap _ _ fun _ => rfl
      | some pairs =>
          rw [resultOf_joined]
          exact hmap _ _ fun _ => rfl

lemma resultOf_contribution {t : QueryTree} {parent : Option QueryNode} {incoming : List Row}
    {pairs : Option (List Pair)} {r : NodeResult} (h : resultOf t parent incoming pairs = .ok r) :
    r.contribution = match groupOf parent pairs with
      | some _ => r.rows
      | none => [] := by
  cases parent with
  | none =>
      rw [resultOf_top] at h
      obtain ⟨rows, -, h⟩ := bind_eq_ok.1 h
      cases h
      rfl
  | some p =>
      cases pairs with
      | none =>
          rw [resultOf_apart] at h
          obtain ⟨rows, -, h⟩ := bind_eq_ok.1 h
          cases h
          rfl
      | some pairs =>
          rw [resultOf_joined] at h
          obtain ⟨rows, -, h⟩ := bind_eq_ok.1 h
          cases h
          rfl

/-! ## Columns -/

lemma HasColumns.set {required allowed : List String} {row : Row} {l text : String}
    (h : HasColumns required allowed row) :
    HasColumns (required ++ [l]) (allowed ++ [l]) (row.set l text) := by
  refine ⟨fun k hk => Row.has_set.2 ?_, fun k hk => ?_⟩
  · rcases List.mem_append.1 hk with hk | hk
    · exact Or.inr (h.has k hk)
    · exact Or.inl (List.mem_singleton.1 hk)
  · rcases Row.has_set.1 hk with rfl | hk
    · exact List.mem_append_right _ (List.mem_singleton_self _)
    · exact List.mem_append_left _ (h.mem k hk)

lemma HasColumns.mono {required allowed more : List String} {row : Row}
    (h : HasColumns required allowed row) (hsub : allowed ⊆ more) :
    HasColumns required more row :=
  ⟨h.has, fun l hl => hsub (h.mem l hl)⟩

/-- **The columns of the rows that go into a pipeline.** -/
lemma enteringRows_columns {t : QueryTree} {parent : Option QueryNode} {incoming : List Row}
    {pairs : Option (List Pair)} (hin : ∀ row ∈ incoming, HasColumns [t.label] t.labels row) :
    ∀ row ∈ enteringRows t parent incoming pairs,
      HasColumns (t.label :: (groupOf parent pairs).toList)
        (t.labels ++ (groupOf parent pairs).toList) row := by
  have hno : ∀ row ∈ incoming, HasColumns (t.label :: (none : Option String).toList)
      (t.labels ++ (none : Option String).toList) row := by
    intro row hrow
    exact (hin row hrow).mono (List.subset_append_left _ _)
  cases parent with
  | none => exact hno
  | some p =>
      cases pairs with
      | none => exact hno
      | some pairs =>
          intro row hrow
          rw [enteringRows, startRows] at hrow
          split at hrow
          · obtain ⟨pair, -, rfl⟩ := List.mem_map.1 hrow
            have hown : HasColumns [t.label] t.labels (Row.empty.set t.label pair.key) := by
              refine ⟨fun l hl => Row.has_set.2 (Or.inl (List.mem_singleton.1 hl)),
                fun l hl => ?_⟩
              rcases Row.has_set.1 hl with rfl | hl
              · exact label_mem_own t
              · simp [Row.has, Row.get?, Row.empty] at hl
            exact hown.set
          · obtain ⟨source, hsource, hrow⟩ := List.mem_flatMap.1 hrow
            rw [joinRow] at hrow
            split at hrow
            · obtain ⟨value, -, rfl⟩ := List.mem_map.1 hrow
              exact (hin source hsource).set
            · exact absurd hrow List.not_mem_nil

/-- **The columns of the rows of a node**, or why there are none. -/
lemma resultOf_columns {t : QueryTree} {incoming : List Row} (parent : Option QueryNode)
    (pairs : Option (List Pair)) (hin : ∀ row ∈ incoming, HasColumns [t.label] t.labels row) :
    KeepsColumns (t.label :: (groupOf parent pairs).toList)
      (t.labels ++ (groupOf parent pairs).toList)
      ((resultOf t parent incoming pairs).map NodeResult.rows) := by
  rw [map_rows_resultOf]
  refine pipeline_columns _ ?_ (enteringRows_columns hin)
  exact List.cons_subset.2 ⟨List.mem_append_left _ (label_mem_own t),
    List.subset_append_right _ _⟩

/-- What comes to a node has its column, and only columns of nodes below it. -/
lemma handedOn_columns {w : World} {own : QueryNode} {ts : List QueryTree} {rows : List Row}
    (h : handedOn w own ts = .ok rows)
    (hts : ∀ c ∈ ts, ∀ r, c.outcome w (some own) = .ok r →
      ∀ row ∈ r.contribution, HasColumns [c.label, own.label] (c.labels ++ [own.label]) row) :
    ∀ row ∈ rows, HasColumns [own.label] (node own ts).labels row := by
  rw [labels_node]
  induction ts generalizing rows with
  | nil =>
      cases h
      exact fun row hrow => absurd hrow List.not_mem_nil
  | cons c ts ih =>
      obtain ⟨r, hr, h⟩ := bind_eq_ok.1 h
      obtain ⟨others, hothers, h⟩ := bind_eq_ok.1 h
      cases h
      intro row hrow
      rw [List.flatMap_cons]
      rcases List.mem_append.1 hrow with hrow | hrow
      · have hcols := hts c List.mem_cons_self r hr row hrow
        refine ⟨fun l hl => hcols.has l (List.mem_cons_of_mem _ hl), fun l hl => ?_⟩
        rcases List.mem_append.1 (hcols.mem l hl) with hl | hl
        · exact List.mem_cons_of_mem _ (List.mem_append_left _ hl)
        · exact List.mem_cons.2 (Or.inl (List.mem_singleton.1 hl))
      · have hcols := ih hothers (fun u hu => hts u (List.mem_cons_of_mem _ hu)) row hrow
        exact hcols.mono (List.cons_subset_cons _ (List.subset_append_right _ _))

/-- The columns of a node whose children hand on what they should. -/
lemma outcome_columns_of {w : World} {own : QueryNode} {ts : List QueryTree}
    {parent : Option QueryNode} {r : NodeResult}
    (h : (node own ts).outcome w parent = .ok r)
    (hts : ∀ c ∈ ts, ∀ r, c.outcome w (some own) = .ok r →
      ∀ row ∈ r.contribution, HasColumns [c.label, own.label] (c.labels ++ [own.label]) row) :
    ∃ pairs, nodePairs w parent (node own ts) = .ok pairs ∧
      (∀ row ∈ r.rows, HasColumns (own.label :: (groupOf parent pairs).toList)
        ((node own ts).labels ++ (groupOf parent pairs).toList) row) ∧
      r.contribution = match groupOf parent pairs with
        | some _ => r.rows
        | none => [] := by
  obtain ⟨incoming, hincoming, h⟩ := bind_eq_ok.1 h
  rw [visit_result] at h
  obtain ⟨pairs, hpairs, h⟩ := bind_eq_ok.1 h
  have hin : ∀ row ∈ incoming, HasColumns [(node own ts).label] (node own ts).labels row :=
    handedOn_columns hincoming hts
  have hcols := resultOf_columns parent pairs hin
  rw [h] at hcols
  exact ⟨pairs, hpairs, hcols, resultOf_contribution h⟩

/-- **The columns of what a node hands on.** -/
theorem contribution_columns {w : World} {t : QueryTree} {p : QueryNode} {r : NodeResult}
    (h : t.outcome w (some p) = .ok r) :
    ∀ row ∈ r.contribution, HasColumns [t.label, p.label] (t.labels ++ [p.label]) row := by
  induction t using QueryTree.induction generalizing p r with
  | node own ts ih =>
      obtain ⟨pairs, -, hcols, hcontribution⟩ := outcome_columns_of h fun c hc r hr =>
        ih c hc hr
      rw [hcontribution]
      cases pairs with
      | none => exact fun row hrow => absurd hrow List.not_mem_nil
      | some pairs => exact hcols

/-- **The columns of the rows of a node.** -/
theorem outcome_columns {w : World} {t : QueryTree} {parent : Option QueryNode} {r : NodeResult}
    (h : t.outcome w parent = .ok r) :
    ∃ pairs, nodePairs w parent t = .ok pairs ∧
      ∀ row ∈ r.rows, HasColumns (t.label :: (groupOf parent pairs).toList)
        (t.labels ++ (groupOf parent pairs).toList) row := by
  cases t with
  | node own ts =>
      obtain ⟨pairs, hpairs, hcols, -⟩ :=
        outcome_columns_of h fun c _ r hr => contribution_columns hr
      exact ⟨pairs, hpairs, hcols⟩

/-! ## Visits -/

lemma length_valuesOf {label : String} {rows : List Row} (h : ∀ row ∈ rows, row.has label) :
    (valuesOf label rows).length = rows.length := by
  induction rows with
  | nil => rfl
  | cons row rows ih =>
      obtain ⟨text, hget⟩ := Row.has_iff.1 (h row List.mem_cons_self)
      have hrest := ih fun r hr => h r (List.mem_cons_of_mem _ hr)
      rw [valuesOf] at hrest ⊢
      rw [List.filterMap_cons, hget, List.length_cons, hrest, List.length_cons]

/-- **The columns of a row of a node**: one for the node, one for the node above it if there is a
join to that, and no others than for nodes below. -/
structure NodeColumns (w : World) (tree t : QueryTree) (row : Row) : Prop where
  own : row.has t.label
  above : ∀ p ∈ tree.postorder, t ∈ p.children → w.Joined t.own p.own → row.has p.label
  only : ∀ l, row.has l →
    l ∈ t.labels ∨
      ∃ p ∈ tree.postorder, t ∈ p.children ∧ w.Joined t.own p.own ∧ l = p.label

section Distinct

variable {w : World} {tree : QueryTree} {completion : Completion} (hd : tree.labels.Nodup)
include hd

/-- **Rows are grouped by the node above** if there is a join to it, and else not at all. -/
lemma groupOf_eq_some_iff {t : QueryTree} {pairs : Option (List Pair)} {l : String}
    (ht : t ∈ tree.postorder)
    (hpairs : nodePairs w ((parentsOf tree.walk).lookup t.label) t = .ok pairs) :
    groupOf ((parentsOf tree.walk).lookup t.label) pairs = some l ↔
      ∃ p ∈ tree.postorder, t ∈ p.children ∧ w.Joined t.own p.own ∧ l = p.label := by
  constructor
  · intro hgroup
    rcases eq_or_exists_parent ht with rfl | ⟨p, hp, htp⟩
    · rw [lookup_parentsOf_top hd] at hgroup
      cases hgroup
    · rw [lookup_parentsOf hd hp htp] at hgroup hpairs
      cases pairs with
      | none => cases hgroup
      | some pairs =>
          cases hgroup
          exact ⟨p, hp, htp, (joined_iff_of_edgePairs hpairs).2 rfl, rfl⟩
  · rintro ⟨p, hp, htp, hjoined, rfl⟩
    rw [lookup_parentsOf hd hp htp] at hpairs ⊢
    cases pairs with
    | none => exact absurd ((joined_iff_of_edgePairs hpairs).1 hjoined) (by simp)
    | some pairs => rfl

lemma outcomeIn_columns {t : QueryTree} {r : NodeResult} (ht : t ∈ tree.postorder)
    (h : outcomeIn w tree t = .ok r) : ∀ row ∈ r.rows, NodeColumns w tree t row := by
  obtain ⟨pairs, hpairs, hcols⟩ := outcome_columns h
  have hgroup := fun l => groupOf_eq_some_iff hd ht hpairs (l := l)
  intro row hrow
  refine ⟨(hcols row hrow).has _ List.mem_cons_self, fun p hp htp hjoined => ?_, fun l hl => ?_⟩
  · refine (hcols row hrow).has _ (List.mem_cons_of_mem _ (Option.mem_toList.2 ?_))
    exact (hgroup _).2 ⟨p, hp, htp, hjoined, rfl⟩
  · refine (List.mem_append.1 ((hcols row hrow).mem l hl)).imp_right fun hl => ?_
    exact (hgroup _).1 (Option.mem_toList.1 hl)

variable (hc : ∀ attempts, (completion attempts).Perm attempts)
include hc

lemma Visits.incoming_columns {mode : EvaluationMode} {rs : Results} {t : QueryTree}
    (h : Visits w completion tree mode rs t) :
    ∀ row ∈ rs.incoming t, HasColumns [t.label] t.labels row := by
  have hhanded := h.handedOn_eq hd hc
  cases t with
  | node own ts => exact handedOn_columns hhanded fun c _ r hr => contribution_columns hr

/-- **The columns of an evaluation.**  Whatever is filtered, computed and aggregated, the rows that
come to a visit have the column of the node, so that a join leaves none of them out for the lack of
it, and have no column for the node above, so that a join overwrites none.  While the pipeline runs,
a formula finds the column of the node, and if there is a join, that of the node above.  The rows of
the node have these columns too, and no others than those of nodes below.  In the end one value is
reported for every row. -/
theorem visits_columns (mode : EvaluationMode) :
    (∀ rs t, Visits w completion tree mode rs t →
      (∀ row ∈ rs.incoming t, row.has t.label ∧
        ∀ p ∈ tree.postorder, t ∈ p.children → ¬ row.has p.label) ∧
      (∀ r, (visitNext w (parentsOf tree.walk) rs t).result = .ok r →
        ∀ row ∈ r.rows, NodeColumns w tree t row) ∧
      ∀ pairs e, nodePairs w ((parentsOf tree.walk).lookup t.label) t = .ok pairs →
        resultOf t ((parentsOf tree.walk).lookup t.label) (rs.incoming t) pairs = .error e →
        ¬ e.AsksFor t.label ∧
          ∀ p ∈ tree.postorder, t ∈ p.children → w.Joined t.own p.own →
            ¬ e.AsksFor p.label) ∧
    ∀ rs, (resultsIn mode w completion tree.walk).result = .ok rs → ∀ t ∈ tree.postorder,
      (valuesOf t.label (rs.rowsOf t.label)).length = (rs.rowsOf t.label).length := by
  refine ⟨fun rs t h => ?_, fun rs hrun t ht => ?_⟩
  · obtain ⟨ht, done, hagrees, hbelow⟩ := h.agrees hd hc
    have hin := h.incoming_columns hd hc
    refine
      ⟨fun row hrow => ⟨(hin row hrow).has _ List.mem_cons_self, fun p hp htp hhas => ?_⟩,
        fun r hr => ?_,
        fun pairs e hpairs he => ⟨fun hasks => ?_, fun p hp htp hjoined hasks => ?_⟩⟩
    · exact label_notMem_of_child hd hp htp ((hin row hrow).mem _ hhas)
    · rw [visitNext_result hd hagrees ht hbelow] at hr
      exact outcomeIn_columns hd ht hr
    · have hkeeps := resultOf_columns ((parentsOf tree.walk).lookup t.label) pairs hin
      rw [he] at hkeeps
      exact hkeeps _ List.mem_cons_self hasks
    · have hkeeps := resultOf_columns ((parentsOf tree.walk).lookup t.label) pairs hin
      rw [he] at hkeeps
      refine hkeeps _ (List.mem_cons_of_mem _ (Option.mem_toList.2 ?_)) hasks
      exact (groupOf_eq_some_iff hd ht hpairs).2 ⟨p, hp, htp, hjoined, rfl⟩
  · have hsettled := resultsIn_settled (w := w) hd hc mode
    rw [hrun] at hsettled
    obtain ⟨r, hr, hlookup⟩ := hsettled t ht
    rw [rowsOf_of_lookup hlookup]
    exact length_valuesOf fun row hrow => (outcomeIn_columns hd ht hr row hrow).own

end Distinct

/-- The top of the shops is visited in either way, and so are all nodes below it. -/
theorem visits_columns_shopTree :
    shopTree.labels.Nodup ∧ (∀ attempts, (byWaiting attempts).Perm attempts) ∧
      ∀ mode, ∃ rs, Visits shopWorld byWaiting shopTree mode rs shopTree ∧
        ∀ r, (visitNext shopWorld (parentsOf shopTree.walk) rs shopTree).result = .ok r →
          ∀ row ∈ r.rows, NodeColumns shopWorld shopTree shopTree row := by
  have hd : shopTree.labels.Nodup := by decide
  refine ⟨hd, byWaiting_perm, fun mode => ?_⟩
  have hok : ∀ t ∈ shopTree.postorder, ∃ r, outcomeIn shopWorld shopTree t = .ok r :=
    fun t ht => outcomeIn_isOk hd steps_shopTree readsAll_shopTree ht
  obtain ⟨rs, hvisit⟩ := exists_visits hd byWaiting_perm hok mode (self_mem_postorder shopTree)
  exact ⟨rs, hvisit, ((visits_columns hd byWaiting_perm mode).1 rs shopTree hvisit).2.1⟩

end Crosswalk
