import Crosswalk.Proofs.Pipeline.Extremes
import Crosswalk.Proofs.Pipeline.Partition

/-!
# Aggregations that select rows, made twice

A least, a greatest or a first row is a row that was given, so it can be selected from again; and
among itself it is the one that is selected.  Over groups there is at most one row for each text of
the label, and it has got this text, also where the group was that of the rows without the label.
So a second aggregation meets groups of one row each, in the order in which they stand, and changes
nothing.

* `groupRows_of_nodup` — rows with different texts are groups of one row each.
* `Aggregation.nodup_groupText` — what an aggregation over groups returns are such rows.
* `Aggregation.reduce_alone` — **a row that was selected is selected again**, alone and with a
  group noted.
* **`Aggregation.apply_again`** — an aggregation that selects rows leaves its own result as it is.
-/

namespace Crosswalk

/-! ## Groups of one row -/

section Groups

variable {label text : String} {rows : List Row}

lemma addToGroup_of_notMem {row : Row} {groups : List (String × List Row)}
    (h : text ∉ groups.map Prod.fst) :
    addToGroup text row groups = groups ++ [(text, [row])] := by
  induction groups with
  | nil => rfl
  | cons group groups ih =>
      obtain ⟨t, members⟩ := group
      rw [List.map_cons, List.mem_cons, not_or] at h
      rw [addToGroup, if_neg (Ne.symm h.1), ih h.2, List.cons_append]

/-- **Rows with different texts are groups of one row each**, in the same order. -/
lemma groupRows_of_nodup (h : (rows.map (·.groupText label)).Nodup) :
    groupRows label rows = rows.map fun row => (row.groupText label, [row]) := by
  induction rows using List.reverseRecOn with
  | nil => rfl
  | append_singleton rows row ih =>
      rw [List.map_append, List.map_singleton, List.nodup_append] at h
      obtain ⟨hd, -, hnew⟩ := h
      have hnew : row.groupText label ∉ (groupRows label rows).map Prod.fst := by
        rw [ih hd, List.map_map]
        exact fun hmem => hnew _ hmem _ (List.mem_singleton_self _) rfl
      rw [groupRows_concat, addToGroup_of_notMem hnew, ih hd, List.map_append, List.map_singleton]

lemma Row.noteGroup_of_has {row : Row} (h : row.has label) : row.noteGroup label text = row :=
  if_pos h

end Groups

namespace Aggregation

variable {a : Aggregation} {focus label : String} {rows out : List Row} {wanted : Ordering}

/-- The rows that an aggregation over groups returns have different texts. -/
lemma nodup_groupText (hne : focus ≠ label) (h : a.apply focus (some label) rows = .ok out) :
    (out.map (·.groupText label)).Nodup := by
  obtain ⟨hall, rfl⟩ := (apply_some_eq_ok hne).1 h
  rw [List.map_flatMap, List.flatMap_congr fun text htext =>
    map_groupText_reduced (hall text htext) label text, List.nodup_flatMap]
  refine ⟨fun text _ => ?_, nodup_textsOf.imp fun {t u} htu => ?_⟩
  · split <;> simp
  · simp only [Function.onFun]
    split <;> split <;> simp [htu.symm]

/-- Groups of one row each are left as they are, if their rows are. -/
lemma apply_apart (hd : (rows.map (·.groupText label)).Nodup)
    (hrows : ∀ row ∈ rows, row.has label ∧ a.reduce focus [row] = .ok [row]) :
    a.apply focus (some label) rows = .ok rows := by
  rw [apply, groupRows_of_nodup hd]
  clear hd
  induction rows with
  | nil => rfl
  | cons row rows ih =>
      obtain ⟨⟨hhas, hreduce⟩, hrows⟩ := List.forall_mem_cons.1 hrows
      rw [List.map_cons, reduceGroups, hreduce, ok_bind, ih hrows, ok_bind, List.map_singleton,
        Row.noteGroup_of_has hhas, List.singleton_append]

/-! ## Rows that were selected -/

/-- An extreme row is found only if all texts under the focus can be read. -/
lemma readableFocus_of_extreme (h : extreme wanted focus rows = .ok out) :
    ReadableFocus focus rows := by
  obtain ⟨ks, hkeys, -⟩ := bind_eq_ok.1 (uncaught_ok h)
  obtain ⟨values, hvalues, -⟩ := bind_eq_ok.1 hkeys
  intro row hrow raw hget
  have hraw : raw ∈ (candidates focus rows).map Prod.fst :=
    List.mem_map_of_mem (mem_candidates.2 ⟨hrow, hget⟩)
  obtain ⟨v, -, hv⟩ := exists_ok_of_mapM hvalues raw hraw
  exact ⟨v, hv⟩

lemma extreme_singleton {row : Row} (hhas : row.has focus) (hread : ReadableFocus focus [row]) :
    extreme wanted focus [row] = .ok [row] := by
  obtain ⟨raw, hget⟩ := Row.has_iff.1 hhas
  have hfound : candidates focus [row] = [(raw, row)] := by simp [candidates, hget]
  rw [extreme_eq hread, hfound]
  rfl

/-- **A row that was selected is selected again** when it is alone, also if it has changed
elsewhere. -/
lemma reduce_alone (ha : a ∈ [min, max, any]) (h : a.reduce focus rows = .ok out) {row row' : Row}
    (hrow : row ∈ out) (hfocus : row'.get? focus = row.get? focus) :
    a.reduce focus [row'] = .ok [row'] := by
  have hextreme : ∀ wanted, extreme wanted focus rows = .ok out →
      extreme wanted focus [row'] = .ok [row'] := by
    intro wanted h
    obtain ⟨hgiven, hhas⟩ : row ∈ rows ∧ row.has focus := by
      rcases extreme_cases h with rfl | ⟨found, hfound, hhas, rfl⟩
      · cases hrow
      · rw [List.mem_singleton.1 hrow]
        exact ⟨hfound, hhas⟩
    refine extreme_singleton (by rwa [Row.has, hfocus]) ?_
    rw [ReadableFocus, List.forall_mem_singleton, hfocus]
    exact readableFocus_of_extreme h row hgiven
  simp only [List.mem_cons, List.not_mem_nil, or_false] at ha
  rcases ha with rfl | rfl | rfl
  · exact hextreme .lt h
  · exact hextreme .gt h
  · rfl

/-- **An aggregation that selects rows leaves its own result as it is**: the same rows in the same
order, over all rows or over groups. -/
theorem apply_again {group : Option String} (ha : a ∈ [min, max, any])
    (hgroup : ∀ label ∈ group, focus ≠ label) (h : a.apply focus group rows = .ok out) :
    a.apply focus group out = .ok out := by
  cases group with
  | none =>
      have h : a.reduce focus rows = .ok out := h
      rcases reduce_cases h with rfl | ⟨row, rfl, -⟩
      · simp only [List.mem_cons, List.not_mem_nil, or_false] at ha
        rcases ha with rfl | rfl | rfl <;> rfl
      · exact reduce_alone ha h (List.mem_singleton_self row) rfl
  | some label =>
      have hne : focus ≠ label := hgroup label rfl
      refine apply_apart (nodup_groupText hne h) ?_
      obtain ⟨hall, rfl⟩ := (apply_some_eq_ok hne).1 h
      intro row hrow
      obtain ⟨text, htext, hrow⟩ := List.mem_flatMap.1 hrow
      obtain ⟨source, hsource, rfl⟩ := List.mem_map.1 hrow
      exact ⟨Row.has_set.2 (Or.inl rfl),
        reduce_alone ha (hall text htext) hsource (Row.get?_set_ne hne)⟩

end Aggregation

/-- The least price of each shop, where one row has no shop and the prices of the south are no
numbers. -/
theorem apply_again_shops :
    let rows : List Row :=
      [⟨[("price", "7"), ("shop", "north")]⟩, ⟨[("price", "4")]⟩,
        ⟨[("price", "3"), ("shop", "north")]⟩, ⟨[("price", "soon"), ("shop", "south")]⟩,
        ⟨[("price", "10"), ("shop", "south")]⟩]
    let least : List Row :=
      [⟨[("price", "3"), ("shop", "north")]⟩, ⟨[("price", "4"), ("shop", "")]⟩,
        ⟨[("price", "10"), ("shop", "south")]⟩]
    Aggregation.min ∈ [Aggregation.min, .max, .any] ∧
      (∀ label ∈ some "shop", "price" ≠ label) ∧
      Aggregation.min.apply "price" (some "shop") rows = .ok least ∧
      Aggregation.min.apply "price" (some "shop") least = .ok least := by
  intro rows least
  have hmin : Aggregation.min ∈ [Aggregation.min, .max, .any] := by decide
  have hgroup : ∀ label ∈ some "shop", "price" ≠ label := by decide
  have hleast : Aggregation.min.apply "price" (some "shop") rows = .ok least :=
    ok_of_toOption (by decide +kernel)
  exact ⟨hmin, hgroup, hleast, Aggregation.apply_again hmin hgroup hleast⟩

end Crosswalk
