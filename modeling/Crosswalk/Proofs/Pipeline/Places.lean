import Crosswalk.Proofs.Pipeline.Partition
import Mathlib.Data.List.GetD

/-!
# Pipelines over stored rows

Rows are kept in a store, and a pipeline goes over places of it.  Of rows that it only selects, it
hands on the places; a row that differs from the one it came from is stored as a new row, behind
all others.  Nothing is ever stored in a place that is taken.  Read off their places, the rows are
those of the pipeline over rows as values, and the rows that were there before are there as they
were.

* `Placed` — **rows at places of a store.**
* `applyStepsAt` — the steps of a pipeline over places.
* `SameOutcome` — the same outcome, in a store that has the old one in front.
* `Step.applyAt_outcome` — one step.
* **`applyStepsAt_outcome`** — all steps.
-/

namespace Crosswalk

/-! ## Rows at places -/

/-- **Rows at places of a store.** -/
structure Placed where
  /-- All rows that are stored. -/
  store : List Row
  /-- The places of the rows that are meant, in their order. -/
  places : List Nat

/-- The row at a place. -/
def rowAt (store : List Row) (place : Nat) : Row := store.getD place Row.empty

namespace Placed

/-- The rows that are meant. -/
def rows (x : Placed) : List Row := x.places.map (rowAt x.store)

/-- Something is stored at all places. -/
def Valid (x : Placed) : Prop := ∀ p ∈ x.places, p < x.store.length

/-- Rows in a store of their own. -/
def ofRows (rows : List Row) : Placed := ⟨rows, List.range rows.length⟩

/-- **New rows**, behind all that are stored. -/
def added (store new : List Row) : Placed := ⟨store ++ new, List.range' store.length new.length⟩

end Placed

section Places

variable {store store' : List Row} {p : Nat}

/-- A row stays where it is in a store that grows. -/
lemma rowAt_of_grown (h : store <+: store') (hp : p < store.length) :
    rowAt store' p = rowAt store p := by
  obtain ⟨new, rfl⟩ := h
  exact List.getD_append _ _ _ _ hp

lemma map_rowAt_of_grown {places : List Nat} (h : store <+: store')
    (hplaces : ∀ p ∈ places, p < store.length) :
    places.map (rowAt store') = places.map (rowAt store) :=
  List.map_congr_left fun p hp => rowAt_of_grown h (hplaces p hp)

lemma Placed.added_valid (store new : List Row) : (Placed.added store new).Valid := by
  intro p hp
  have hp := (List.mem_range'_1.1 hp).2
  rwa [Placed.added, List.length_append]

lemma Placed.rows_added (store new : List Row) : (Placed.added store new).rows = new := by
  refine List.ext_getElem (by simp [Placed.added, Placed.rows]) fun i hi hi' => ?_
  simp [Placed.added, Placed.rows, rowAt, hi']

lemma Placed.ofRows_valid (rows : List Row) : (Placed.ofRows rows).Valid :=
  fun _ => List.mem_range.1

lemma Placed.rows_ofRows (rows : List Row) : (Placed.ofRows rows).rows = rows := by
  have h := Placed.rows_added [] rows
  rwa [Placed.added, List.nil_append, List.length_nil, ← List.range_eq_range'] at h

end Places

/-! ## Steps over places -/

namespace Aggregation

/-- **An aggregation over all rows** at places.  A row that is computed is stored. -/
def reduceAt (a : Aggregation) (focus : String) (store : List Row) (places : List Nat) :
    Except Error Placed :=
  match a with
  | any => .ok ⟨store, places.take 1⟩
  | min => do .ok ⟨store, ← extremeOf .lt (fun p => (rowAt store p).get? focus) places⟩
  | max => do .ok ⟨store, ← extremeOf .gt (fun p => (rowAt store p).get? focus) places⟩
  | a => do .ok (.added store (← a.reduce focus (places.map (rowAt store))))

/-- Rows with their group noted on them; a row on which it has to be noted is stored anew. -/
def noteAt (label text : String) : List Row → List Nat → Placed
  | store, [] => ⟨store, []⟩
  | store, p :: places =>
    if (rowAt store p).has label then
      let rest := noteAt label text store places
      ⟨rest.store, p :: rest.places⟩
    else
      let rest := noteAt label text (store ++ [(rowAt store p).set label text]) places
      ⟨rest.store, store.length :: rest.places⟩

/-- The places of the rows of each group. -/
def groupsAt (label : String) (store : List Row) (places : List Nat) : List (String × List Nat) :=
  (textsOf label (places.map (rowAt store))).map fun text =>
    (text, places.filter fun p => (rowAt store p).groupText label = text)

/-- An aggregation over each of some groups of places. -/
def reduceGroupsAt (a : Aggregation) (focus label : String) :
    List Row → List (String × List Nat) → Except Error Placed
  | store, [] => .ok ⟨store, []⟩
  | store, (text, members) :: groups => do
    let reduced ← a.reduceAt focus store members
    let noted := noteAt label text reduced.store reduced.places
    let others ← reduceGroupsAt a focus label noted.store groups
    .ok ⟨others.store, noted.places ++ others.places⟩

end Aggregation

/-- **One step of a pipeline** over places. -/
def Step.applyAt (focus : String) (group : Option String) (x : Placed) :
    Step → Except Error Placed
  | filter source =>
      do .ok ⟨x.store, ← keepOf (← Formula.compile source) (rowAt x.store) x.places⟩
  | map source => do
    let f ← Formula.compile source
    .ok (.added x.store (← x.places.mapM fun p => computeRow f focus (rowAt x.store p)))
  | aggregate a =>
    match group with
    | none => a.reduceAt focus x.store x.places
    | some label =>
        a.reduceGroupsAt focus label x.store (Aggregation.groupsAt label x.store x.places)

/-- **The steps of a pipeline** over places, in order. -/
def applyStepsAt (focus : String) (group : Option String) :
    List Step → Placed → Except Error Placed
  | [], x => .ok x
  | step :: steps, x => do applyStepsAt focus group steps (← step.applyAt focus group x)

/-! ## The same outcome -/

/-- **The same outcome**: a failure for the same reason; or the same rows, in a store that has the
old one in front. -/
inductive SameOutcome (store : List Row) : Except Error Placed → Except Error (List Row) → Prop
  | ok {x : Placed} {rows : List Row} (hstore : store <+: x.store) (hvalid : x.Valid)
      (hrows : x.rows = rows) : SameOutcome store (.ok x) (.ok rows)
  | error (e : Error) : SameOutcome store (.error e) (.error e)

section SameOutcome

variable {store store' : List Row} {rx : Except Error Placed} {ry : Except Error (List Row)}

lemma SameOutcome.of_grown (hstore : store <+: store') (h : SameOutcome store' rx ry) :
    SameOutcome store rx ry := by
  cases h with
  | ok hstore' hvalid hrows => exact .ok (hstore.trans hstore') hvalid hrows
  | error e => exact .error e

/-- Two steps agree with two steps. -/
lemma SameOutcome.bind {f : Placed → Except Error Placed}
    {g : List Row → Except Error (List Row)} (h : SameOutcome store rx ry)
    (hnext : ∀ x : Placed, store <+: x.store → x.Valid →
      SameOutcome x.store (f x) (g x.rows)) :
    SameOutcome store (rx >>= f) (ry >>= g) := by
  cases h with
  | ok hstore hvalid hrows =>
      subst hrows
      exact (hnext _ hstore hvalid).of_grown hstore
  | error e => exact .error e

/-- Places that were found agree with the rows at them. -/
lemma sameOutcome_of_places {x : Except Error (List Nat)}
    (hplaces : ∀ ps, x = .ok ps → ∀ p ∈ ps, p < store.length) :
    SameOutcome store (x >>= fun ps => .ok ⟨store, ps⟩) (x.map (List.map (rowAt store))) := by
  cases x with
  | ok ps => exact .ok (List.prefix_refl _) (hplaces ps rfl) rfl
  | error e => exact .error e

/-- New rows agree with themselves. -/
lemma sameOutcome_added (x : Except Error (List Row)) :
    SameOutcome store (x >>= fun new => .ok (.added store new)) x := by
  cases x with
  | ok new =>
      exact .ok (List.prefix_append _ _) (Placed.added_valid store new)
        (Placed.rows_added store new)
  | error e => exact .error e

end SameOutcome

section AppliedSteps

variable {focus label text : String} {store : List Row} {places : List Nat}

/-! ## Aggregations -/

namespace Aggregation

/-- **An aggregation over all rows** has the same outcome over places. -/
lemma reduceAt_outcome (a : Aggregation) (hplaces : ∀ p ∈ places, p < store.length) :
    SameOutcome store (a.reduceAt focus store places)
      (a.reduce focus (places.map (rowAt store))) := by
  have hextreme : ∀ wanted, SameOutcome store
      (extremeOf wanted (fun p => (rowAt store p).get? focus) places >>= fun found =>
        .ok ⟨store, found⟩)
      (extreme wanted focus (places.map (rowAt store))) := by
    intro wanted
    rw [extreme_map]
    refine sameOutcome_of_places fun found h => ?_
    rcases extremeOf_cases h with rfl | ⟨p, hp, -, rfl⟩
    · exact List.forall_mem_nil _
    · exact List.forall_mem_singleton.2 (hplaces p hp)
  cases a with
  | min => exact hextreme .lt
  | max => exact hextreme .gt
  | sum => exact sameOutcome_added _
  | average => exact sameOutcome_added _
  | count => exact sameOutcome_added _
  | any =>
      refine .ok (List.prefix_refl _) (fun p hp => hplaces p (List.mem_of_mem_take hp)) ?_
      rw [Placed.rows, List.map_take]

/-- Noting a group has the same outcome over places. -/
lemma noteAt_outcome (label text : String) (hplaces : ∀ p ∈ places, p < store.length) :
    SameOutcome store (.ok (noteAt label text store places))
      (.ok ((places.map (rowAt store)).map (·.noteGroup label text))) := by
  induction places generalizing store with
  | nil => exact .ok (List.prefix_refl _) (fun _ hp => absurd hp List.not_mem_nil) rfl
  | cons p places ih =>
      obtain ⟨hp, hplaces⟩ := List.forall_mem_cons.1 hplaces
      rw [noteAt, List.map_cons, List.map_cons, Row.noteGroup]
      by_cases hhas : (rowAt store p).has label
      · cases ih hplaces with
        | ok hstore hvalid hrows =>
            rw [if_pos hhas, if_pos hhas, ← hrows]
            refine .ok hstore
              (List.forall_mem_cons.2 ⟨Nat.lt_of_lt_of_le hp hstore.length_le, hvalid⟩) ?_
            rw [Placed.rows, List.map_cons, rowAt_of_grown hstore hp]
            rfl
      · -- the new row is the first one behind the store, and stays there
        have hnew := List.prefix_append store [(rowAt store p).set label text]
        have hplace : store.length < (store ++ [(rowAt store p).set label text]).length := by
          rw [List.length_append]
          exact Nat.lt_succ_self _
        have hold := map_rowAt_of_grown hnew hplaces
        cases ih fun q hq => Nat.lt_trans (hplaces q hq) hplace with
        | ok hstore hvalid hrows =>
            rw [hold] at hrows
            rw [if_neg hhas, if_neg hhas, ← hrows]
            refine .ok (hnew.trans hstore)
              (List.forall_mem_cons.2 ⟨Nat.lt_of_lt_of_le hplace hstore.length_le, hvalid⟩) ?_
            rw [Placed.rows, List.map_cons, rowAt_of_grown hstore hplace]
            simp [rowAt, Placed.rows]

lemma groupsAt_rows : (groupsAt label store places).map (fun g => (g.1, g.2.map (rowAt store)))
    = groupRows label (places.map (rowAt store)) := by
  rw [groupRows_eq, groupsAt, List.map_map]
  refine List.map_congr_left fun text _ => ?_
  simp only [Function.comp_apply, rowsWith, List.filter_map]
  rfl

/-- **An aggregation over groups** has the same outcome over places. -/
lemma reduceGroupsAt_outcome (a : Aggregation) {groups : List (String × List Nat)}
    (hgroups : ∀ g ∈ groups, ∀ p ∈ g.2, p < store.length) :
    SameOutcome store (a.reduceGroupsAt focus label store groups)
      (a.reduceGroups focus label (groups.map fun g => (g.1, g.2.map (rowAt store)))) := by
  induction groups generalizing store with
  | nil => exact .ok (List.prefix_refl _) (fun _ hp => absurd hp List.not_mem_nil) rfl
  | cons group groups ih =>
      obtain ⟨text, members⟩ := group
      obtain ⟨hmembers, hgroups⟩ := List.forall_mem_cons.1 hgroups
      rw [reduceGroupsAt, List.map_cons, reduceGroups]
      refine (reduceAt_outcome a hmembers).bind fun reduced hreduced hvalid => ?_
      have hnoted := noteAt_outcome label text hvalid
      generalize noteAt label text reduced.store reduced.places = noted at hnoted ⊢
      cases hnoted with
      | ok hnoted hnotedValid hnotedRows =>
          -- the groups that are left are read in the store as it is by now
          have hgrown : store <+: noted.store := hreduced.trans hnoted
          have hrest : (groups.map fun g => (g.1, g.2.map (rowAt store)))
              = groups.map fun g => (g.1, g.2.map (rowAt noted.store)) :=
            List.map_congr_left fun g hg => by rw [map_rowAt_of_grown hgrown (hgroups g hg)]
          rw [hrest]
          have hrestValid : ∀ g ∈ groups, ∀ p ∈ g.2, p < noted.store.length :=
            fun g hg p hp => Nat.lt_of_lt_of_le (hgroups g hg p hp) hgrown.length_le
          refine SameOutcome.of_grown hnoted ((ih hrestValid).bind fun others hothers hvalid => ?_)
          have hnotedValid' : ∀ p ∈ noted.places, p < others.store.length :=
            fun p hp => Nat.lt_of_lt_of_le (hnotedValid p hp) hothers.length_le
          refine .ok (List.prefix_refl _) (List.forall_mem_append.2 ⟨hnotedValid', hvalid⟩) ?_
          rw [Placed.rows, List.map_append, map_rowAt_of_grown hothers hnotedValid]
          exact congrArg (· ++ others.rows) hnotedRows

end Aggregation

end AppliedSteps

/-! ## Pipelines -/

section Pipelines

variable {focus : String} {group : Option String} {x : Placed}

/-- **One step** has the same outcome over places. -/
theorem Step.applyAt_outcome (step : Step) (hvalid : x.Valid) :
    SameOutcome x.store (step.applyAt focus group x) (step.apply focus group x.rows) := by
  cases step with
  | filter source =>
      rw [applyAt, apply]
      cases Formula.compile source with
      | error e => exact .error e
      | ok f =>
          simp only [ok_bind]
          rw [Placed.rows, keep_map]
          exact sameOutcome_of_places fun kept h p hp => hvalid p ((keepOf_sublist h).subset hp)
  | map source =>
      rw [applyAt, apply]
      cases Formula.compile source with
      | error e => exact .error e
      | ok f =>
          simp only [ok_bind]
          rw [Placed.rows, List.mapM_map]
          exact sameOutcome_added _
  | aggregate a =>
      cases group with
      | none => exact Aggregation.reduceAt_outcome a hvalid
      | some label =>
          rw [applyAt, apply, Aggregation.apply, Placed.rows, ← Aggregation.groupsAt_rows]
          refine Aggregation.reduceGroupsAt_outcome a fun g hg p hp => ?_
          obtain ⟨text, -, rfl⟩ := List.mem_map.1 hg
          exact hvalid p (List.mem_of_mem_filter hp)

/-- **A pipeline has the same outcome over places**, and the rows that were stored before stay as
they were. -/
theorem applyStepsAt_outcome (steps : List Step) (hvalid : x.Valid) :
    SameOutcome x.store (applyStepsAt focus group steps x)
      (applySteps focus group steps x.rows) := by
  induction steps generalizing x with
  | nil => exact .ok (List.prefix_refl _) hvalid rfl
  | cons step steps ih =>
      rw [applyStepsAt, applySteps]
      exact (step.applyAt_outcome hvalid).bind fun y _ hy => ih hy

end Pipelines

end Crosswalk
