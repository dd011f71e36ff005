import Crosswalk.Proofs.Pipeline

/-!
# Groups do not interfere

A pipeline whose aggregations go over groups treats each group by itself: what it makes of the rows
of one group does not depend on the rows of the others.  So it may be run on the rows of one group
alone, and then gives the rows of that group out of all that it would have given, in the same order.

The argument is one commutation for each kind of step.  A filter and a computation look at one row
at a time and leave the label of the groups as it is; an aggregation takes the groups one by one,
and the groups of a selection of rows are a selection of the groups.

* `Row.inGroup` — the rows of a group.
* `groupRows_inGroup` — **selecting rows selects groups.**
* `Step.apply_inGroup` — one step commutes with the selection of a group.
* **`pipeline_inGroup`** — so do all steps.
-/

namespace Crosswalk

/-- Whether a row has a given text under the label of the groups. -/
def Row.inGroup (label text : String) (row : Row) : Bool := row.get? label == some text

lemma Row.inGroup_iff {label text : String} {row : Row} :
    row.inGroup label text = true ↔ row.get? label = some text := by
  simp [Row.inGroup]

lemma Row.get?_groupText {label : String} {row : Row} (h : row.has label) :
    row.get? label = some (row.groupText label) := by
  obtain ⟨text, htext⟩ := Row.has_iff.1 h
  simp [Row.groupText, htext]

lemma Row.inGroup_eq {label text : String} {row : Row} (h : row.has label) :
    row.inGroup label text = (row.groupText label == text) := by
  simp [Row.inGroup, Row.get?_groupText h]

/-- Texts under other labels do not count. -/
lemma Row.inGroup_set {label text focus value : String} {row : Row} (hne : focus ≠ label) :
    (row.set focus value).inGroup label text = row.inGroup label text := by
  rw [Row.inGroup, Row.get?_set_ne (Ne.symm hne), Row.inGroup]

/-! ## Groups of a selection -/

section Groups

variable {label : String} {rows : List Row} {groups : List (String × List Row)}

lemma filter_addToGroup {text g : String} {row : Row} :
    (addToGroup text row groups).filter (·.1 == g) =
      if text = g then addToGroup text row (groups.filter (·.1 == g))
      else groups.filter (·.1 == g) := by
  induction groups with
  | nil => by_cases h : text = g <;> simp [addToGroup, h]
  | cons group groups ih =>
      obtain ⟨t, members⟩ := group
      rw [addToGroup]
      by_cases ht : t = text
      · subst ht
        by_cases h : t = g <;> simp [addToGroup, h]
      · by_cases h : text = g
        · subst h
          simp [ht, ih]
        · by_cases hg : t = g
          · subst hg
            simp [ht, h, ih]
          · simp [ht, h, hg, ih]

/-- **Selecting rows selects groups**: the groups of the rows with one text are that group alone. -/
lemma groupRows_inGroup (hrows : ∀ row ∈ rows, row.has label) (g : String) :
    groupRows label (rows.filter (·.inGroup label g)) =
      (groupRows label rows).filter (·.1 == g) := by
  induction rows using List.reverseRecOn with
  | nil => rfl
  | append_singleton rows row ih =>
      obtain ⟨hfront, hlast⟩ := List.forall_mem_append.1 hrows
      have hrow : row.inGroup label g = (row.groupText label == g) :=
        Row.inGroup_eq (hlast row (List.mem_singleton_self row))
      rw [groupRows_concat, filter_addToGroup, ← ih hfront, List.filter_append]
      by_cases h : row.groupText label = g
      · rw [if_pos h, List.filter_singleton, hrow, h, beq_self_eq_true, cond_true,
          groupRows_concat, h]
      · rw [if_neg h, List.filter_singleton, hrow, beq_false_of_ne h, cond_false, List.append_nil]

/-- Groups of rows that have their texts. -/
def Grouped (label : String) (groups : List (String × List Row)) : Prop :=
  ∀ group ∈ groups, ∀ row ∈ group.2, row.groupText label = group.1

lemma Grouped.addToGroup (h : Grouped label groups) (row : Row) :
    Grouped label (addToGroup (row.groupText label) row groups) := by
  induction groups with
  | nil => simp [Grouped, Crosswalk.addToGroup]
  | cons group groups ih =>
      obtain ⟨t, members⟩ := group
      obtain ⟨hgroup, hgroups⟩ := List.forall_mem_cons.1 h
      rw [Crosswalk.addToGroup]
      split
      · next heq =>
          refine List.forall_mem_cons.2 ⟨fun r hr => ?_, hgroups⟩
          rcases List.mem_append.1 hr with hr | hr
          · exact hgroup r hr
          · rw [List.mem_singleton.1 hr, heq]
      · exact List.forall_mem_cons.2 ⟨hgroup, ih hgroups⟩

lemma grouped_groupRows : Grouped label (groupRows label rows) := by
  induction rows using List.reverseRecOn with
  | nil => exact List.forall_mem_nil _
  | append_singleton rows row ih =>
      rw [groupRows_concat]
      exact ih.addToGroup row

end Groups

/-! ## Aggregations -/

namespace Aggregation

variable {a : Aggregation} {focus label : String}

/-- Behind a reduction of a group, every row has the text of the group. -/
lemma inGroup_noteGroup {text : String} {members reduced : List Row} (hne : focus ≠ label)
    (hmembers : ∀ row ∈ members, row.get? label = some text)
    (h : a.reduce focus members = .ok reduced) :
    ∀ row ∈ reduced.map (·.noteGroup label text), row.get? label = some text := by
  intro row hrow
  obtain ⟨source, hsource, rfl⟩ := List.mem_map.1 hrow
  rcases reduce_rows h source hsource with hmem | ⟨value, rfl⟩
  · have hget := hmembers source hmem
    rw [Row.noteGroup, if_pos (Row.has_iff.2 ⟨text, hget⟩), hget]
  · have hlacks : ¬ (rowOf focus value).has label := by
      rw [Row.has_rowOf]
      exact Ne.symm hne
    rw [Row.noteGroup, if_neg hlacks, Row.get?_set_self]

lemma reduceGroups_filter {groups : List (String × List Row)} {out : List Row}
    (hne : focus ≠ label)
    (hgroups : ∀ group ∈ groups, ∀ row ∈ group.2, row.get? label = some group.1)
    (h : a.reduceGroups focus label groups = .ok out) (g : String) :
    a.reduceGroups focus label (groups.filter (·.1 == g)) =
      .ok (out.filter (·.inGroup label g)) := by
  induction groups generalizing out with
  | nil =>
      cases h
      rfl
  | cons group groups ih =>
      obtain ⟨text, members⟩ := group
      obtain ⟨reduced, others, hreduced, hothers, rfl⟩ := reduceGroups_cons_eq_ok.1 h
      have hnoted := inGroup_noteGroup hne (hgroups _ List.mem_cons_self) hreduced
      have hrest := ih (fun group hg => hgroups group (List.mem_cons_of_mem _ hg)) hothers
      rw [List.filter_append]
      by_cases ht : text = g
      · subst ht
        have hall : (reduced.map (·.noteGroup label text)).filter (·.inGroup label text) =
            reduced.map (·.noteGroup label text) :=
          List.filter_eq_self.2 fun row hrow => Row.inGroup_iff.2 (hnoted row hrow)
        rw [hall, List.filter_cons_of_pos (by simp), reduceGroups, hreduced, ok_bind, hrest]
        rfl
      · have hnone : (reduced.map (·.noteGroup label text)).filter (·.inGroup label g) = [] := by
          refine List.filter_eq_nil_iff.2 fun row hrow => ?_
          simp [Row.inGroup_iff, hnoted row hrow, ht]
        rw [hnone, List.nil_append, List.filter_cons_of_neg (by simpa using ht), hrest]

end Aggregation

/-! ## Steps -/

section Steps

variable {focus label : String} {rows out : List Row}

namespace Step

lemma keep_filter {f : Formula} (p : Row → Bool) (h : keep f rows = .ok out) :
    keep f (rows.filter p) = .ok (out.filter p) := by
  induction rows generalizing out with
  | nil =>
      cases h
      rfl
  | cons row rows ih =>
      obtain ⟨v, hv, h⟩ := bind_eq_ok.1 h
      obtain ⟨kept, hkept, h⟩ := bind_eq_ok.1 h
      cases h
      have hrest := ih hkept
      by_cases hp : p row
      · rw [List.filter_cons_of_pos hp, keep, hv, ok_bind, hrest, ok_bind]
        by_cases htrue : v.isTrue <;> simp [htrue, hp]
      · rw [List.filter_cons_of_neg hp, hrest]
        by_cases htrue : v.isTrue <;> simp [htrue, hp]

/-- Every row still has the label behind a step. -/
lemma apply_has {step : Step} (hrows : ∀ row ∈ rows, row.has label)
    (h : step.apply focus (some label) rows = .ok out) : ∀ row ∈ out, row.has label := by
  intro row hrow
  cases step with
  | filter source =>
      obtain ⟨f, -, h⟩ := bind_eq_ok.1 h
      exact hrows row (keep_subset h hrow)
  | map source =>
      obtain ⟨f, -, h⟩ := bind_eq_ok.1 h
      obtain ⟨source, hsource, hcompute⟩ := exists_of_mapM_ok h row hrow
      obtain ⟨text, rfl⟩ := computeRow_ok hcompute
      exact Row.has_set.2 (Or.inr (hrows source hsource))
  | aggregate a =>
      have h : a.apply focus (some label) rows = .ok out := h
      obtain ⟨source, -, hlabels⟩ := Aggregation.apply_rows h row hrow
      exact (hlabels label).2 (Or.inl rfl)

/-- **One step commutes with the selection of a group.** -/
lemma apply_inGroup {step : Step} (hne : focus ≠ label) (hrows : ∀ row ∈ rows, row.has label)
    (h : step.apply focus (some label) rows = .ok out) (g : String) :
    step.apply focus (some label) (rows.filter (·.inGroup label g)) =
      .ok (out.filter (·.inGroup label g)) := by
  cases step with
  | filter source =>
      obtain ⟨f, hf, h⟩ := bind_eq_ok.1 h
      rw [apply, hf, ok_bind, keep_filter _ h]
  | map source =>
      obtain ⟨f, hf, h⟩ := bind_eq_ok.1 h
      rw [apply, hf, ok_bind]
      refine mapM_filter (fun row computed hcompute => ?_) h
      obtain ⟨text, rfl⟩ := computeRow_ok hcompute
      exact Row.inGroup_set hne
  | aggregate a =>
      have hmembers : ∀ group ∈ groupRows label rows, ∀ row ∈ group.2,
          row.get? label = some group.1 := by
        intro group hgroup row hrow
        rw [Row.get?_groupText (hrows row (groupRows_subset group hgroup hrow)),
          grouped_groupRows group hgroup row hrow]
      rw [apply, Aggregation.apply, groupRows_inGroup hrows]
      exact Aggregation.reduceGroups_filter hne hmembers h g

end Step

/-- Several steps commute with the selection of a group. -/
lemma applySteps_inGroup {steps : List Step} (hne : focus ≠ label)
    (hrows : ∀ row ∈ rows, row.has label)
    (h : applySteps focus (some label) steps rows = .ok out) (g : String) :
    applySteps focus (some label) steps (rows.filter (·.inGroup label g)) =
      .ok (out.filter (·.inGroup label g)) := by
  induction steps generalizing rows with
  | nil =>
      cases h
      rfl
  | cons step steps ih =>
      obtain ⟨between, hstep, h⟩ := bind_eq_ok.1 h
      rw [applySteps, Step.apply_inGroup hne hrows hstep, ok_bind]
      exact ih (Step.apply_has hrows hstep) h

lemma pipeline_eq_ok {group : Option String} {steps : List Step} :
    pipeline focus group steps rows = .ok out ↔ applySteps focus group steps rows = .ok out := by
  unfold pipeline
  cases applySteps focus group steps rows <;> simp [Except.mapError]

/-- **Groups do not interfere**: the steps on the rows of one group return, in order, what they
return of that group on all rows. -/
theorem pipeline_inGroup {steps : List Step} (hne : focus ≠ label)
    (hrows : ∀ row ∈ rows, row.has label)
    (h : pipeline focus (some label) steps rows = .ok out) (g : String) :
    pipeline focus (some label) steps (rows.filter (·.inGroup label g)) =
      .ok (out.filter (·.inGroup label g)) :=
  pipeline_eq_ok.2 (applySteps_inGroup hne hrows (pipeline_eq_ok.1 h) g)

end Steps

/-- Offers of two shops. -/
def offerRows : List Row :=
  [⟨[("price", "30"), ("shop", "north")]⟩, ⟨[("price", "4"), ("shop", "south")]⟩,
    ⟨[("price", "7"), ("shop", "south")]⟩, ⟨[("price", "6.5"), ("shop", "north")]⟩]

/-- What the dear offers cost in pairs. -/
def offerSteps : List Step := [.filter "$price$ > 5", .map "$price$ * 2", .aggregate .sum]

/-- The offers of the north are summed up without those of the south. -/
theorem pipeline_inGroup_offers :
    "price" ≠ "shop" ∧ (∀ row ∈ offerRows, row.has "shop") ∧
      pipeline "price" (some "shop") offerSteps offerRows =
        .ok [⟨[("price", "73"), ("shop", "north")]⟩,
          ⟨[("price", "14"), ("shop", "south")]⟩] ∧
      pipeline "price" (some "shop") offerSteps (offerRows.filter (·.inGroup "shop" "north")) =
        .ok [⟨[("price", "73"), ("shop", "north")]⟩] :=
  have hne : "price" ≠ "shop" := by decide
  have hrows : ∀ row ∈ offerRows, row.has "shop" := by decide
  have hrun : pipeline "price" (some "shop") offerSteps offerRows =
      .ok [⟨[("price", "73"), ("shop", "north")]⟩,
        ⟨[("price", "14"), ("shop", "south")]⟩] :=
    ok_of_toOption (by decide +kernel)
  ⟨hne, hrows, hrun, pipeline_inGroup hne hrows hrun "north"⟩

end Crosswalk
