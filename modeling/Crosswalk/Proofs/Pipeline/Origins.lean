import Crosswalk.Proofs.Pipeline.Places
import Crosswalk.Proofs.Pipeline.Repeated
import Mathlib.Data.List.NodupEquivFin

/-!
# Where the rows of a pipeline come from

Filters and computations, and the aggregations that select rows, invent no row.  Each row that such
a pipeline returns comes from a row that was given, and has its texts but under the focus; and rows
at different positions come from different positions.  A filter keeps the order of the positions
and a computation the positions themselves.  Over groups, what is selected are different rows,
since they have different texts under the label.

* `Row.IsFrom` — a row that comes from a row.
* `ComesFrom` — **rows that come from rows**, each from another position.
* `Step.apply_comesFrom` — one step.
* **`pipeline_origins`** — all steps, over rows as values and over stored rows.
-/

namespace Crosswalk

/-! ## Rows that come from rows -/

/-- **A row that comes from a row**: it is that row, but if the focus was computed it has this
label, with any text. -/
structure Row.IsFrom (focus : String) (computed : Prop) (source row : Row) : Prop where
  get?_eq : ∀ l, l ≠ focus → row.get? l = source.get? l
  has_iff : ∀ l, row.has l ↔ source.has l ∨ (l = focus ∧ computed)
  eq_of_not : ¬ computed → row = source

/-- **Rows that come from rows**, each from another position. -/
def ComesFrom (focus : String) (computed : Prop) (rows out : List Row) : Prop :=
  ∃ origin : Fin out.length → Fin rows.length, Function.Injective origin ∧
    ∀ i, Row.IsFrom focus computed rows[origin i] out[i]

section ComesFrom

variable {focus : String} {computed computed' : Prop} {rows between out : List Row}

lemma Row.isFrom_self (row : Row) (hnot : ¬ computed) : row.IsFrom focus computed row :=
  ⟨fun _ _ => rfl, fun _ => by simp [hnot], fun _ => rfl⟩

lemma Row.isFrom_set (row : Row) (text : String) (h : computed) :
    row.IsFrom focus computed (row.set focus text) :=
  ⟨fun _ hl => Row.get?_set_ne hl, fun l => by simp [Row.has_set, h, or_comm],
    fun hnot => absurd h hnot⟩

lemma Row.IsFrom.trans {source middle row : Row} (h : source.IsFrom focus computed middle)
    (h' : middle.IsFrom focus computed' row) :
    source.IsFrom focus (computed ∨ computed') row where
  get?_eq l hl := (h'.get?_eq l hl).trans (h.get?_eq l hl)
  has_iff l := by rw [h'.has_iff, h.has_iff, or_assoc, and_or_left]
  eq_of_not hnot := by
    rw [not_or] at hnot
    rw [h'.eq_of_not hnot.2, h.eq_of_not hnot.1]

lemma ComesFrom.trans (h : ComesFrom focus computed rows between)
    (h' : ComesFrom focus computed' between out) :
    ComesFrom focus (computed ∨ computed') rows out := by
  obtain ⟨first, hfirst, hrows⟩ := h
  obtain ⟨second, hsecond, hout⟩ := h'
  exact ⟨first ∘ second, hfirst.comp hsecond, fun i => (hrows (second i)).trans (hout i)⟩

/-- Rows that were kept come from where they were. -/
lemma comesFrom_of_sublist (hnot : ¬ computed) (h : out.Sublist rows) :
    ComesFrom focus computed rows out := by
  obtain ⟨origin, horigin⟩ := List.sublist_iff_exists_fin_orderEmbedding_get_eq.1 h
  refine ⟨origin, origin.injective, fun i => ?_⟩
  have hi : out[i] = rows[origin i] := horigin i
  rw [hi]
  exact Row.isFrom_self _ hnot

/-- Different rows come from the positions where they are found first. -/
lemma comesFrom_of_nodup (hnot : ¬ computed) (hd : out.Nodup) (hsub : out ⊆ rows) :
    ComesFrom focus computed rows out := by
  have hmem : ∀ i : Fin out.length, out[i] ∈ rows := fun i => hsub (List.getElem_mem _)
  have hlt : ∀ i : Fin out.length, rows.idxOf out[i] < rows.length :=
    fun i => List.idxOf_lt_length_of_mem (hmem i)
  refine ⟨fun i => ⟨rows.idxOf out[i], hlt i⟩, fun i j hij => ?_, fun i => ?_⟩
  · exact List.nodup_iff_injective_get.1 hd ((List.idxOf_inj (hmem i)).1 (Fin.mk.inj hij))
  · have hi : rows.get ⟨rows.idxOf out[i], hlt i⟩ = out[i] := List.getElem_idxOf (hlt i)
    exact hi ▸ Row.isFrom_self _ hnot

/-- Rows that were computed one by one come from where they are. -/
lemma comesFrom_of_forall₂ (h : List.Forall₂ (Row.IsFrom focus computed) rows out) :
    ComesFrom focus computed rows out := by
  refine ⟨Fin.cast h.length_eq.symm, Fin.cast_injective _, fun i => ?_⟩
  exact List.forall₂_iff_get.1 h |>.2 i _ i.2

end ComesFrom

/-! ## Steps -/

/-- A step that makes no row of several ones: all but sums, means and counts. -/
def Step.KeepsRows : Step → Prop
  | aggregate a => a ∈ [Aggregation.min, .max, .any]
  | _ => True

section Steps

variable {focus : String} {group : Option String} {rows out : List Row}

namespace Aggregation

variable {a : Aggregation} {label : String}

/-- A least, a greatest or a first row is one of the rows. -/
lemma reduce_sublist (ha : a ∈ [min, max, any]) (h : a.reduce focus rows = .ok out) :
    out.Sublist rows := by
  have hextreme : ∀ wanted, extreme wanted focus rows = .ok out → out.Sublist rows := by
    intro wanted h
    rcases extreme_cases h with rfl | ⟨row, hrow, -, rfl⟩
    · exact List.nil_sublist _
    · exact List.singleton_sublist.2 hrow
  simp only [List.mem_cons, List.not_mem_nil, or_false] at ha
  rcases ha with rfl | rfl | rfl
  · exact hextreme .lt h
  · exact hextreme .gt h
  · cases h
    exact List.take_sublist _ _

/-- Over groups that all rows note, what is selected are rows that were given. -/
lemma apply_subset (ha : a ∈ [min, max, any]) (hne : focus ≠ label)
    (hrows : ∀ row ∈ rows, row.has label) (h : a.apply focus (some label) rows = .ok out) :
    out ⊆ rows := by
  obtain ⟨hall, rfl⟩ := (apply_some_eq_ok hne).1 h
  intro row hrow
  obtain ⟨text, htext, hrow⟩ := List.mem_flatMap.1 hrow
  obtain ⟨source, hsource, rfl⟩ := List.mem_map.1 hrow
  obtain ⟨hgiven, hgroup⟩ :=
    List.mem_filter.1 ((reduce_sublist ha (hall text htext)).subset hsource)
  -- the text of the group is on the row already
  have hget := Row.get?_groupText (hrows source hgiven)
  rw [of_decide_eq_true hgroup] at hget
  rwa [Row.set_of_get? hget]

end Aggregation

/-- **One step** invents no row. -/
lemma Step.apply_comesFrom {step : Step} (hstep : step.KeepsRows)
    (hgroup : ∀ label ∈ group, focus ≠ label ∧ ∀ row ∈ rows, row.has label)
    (h : step.apply focus group rows = .ok out) :
    ComesFrom focus (∃ source, step = .map source) rows out := by
  cases step with
  | filter source =>
      obtain ⟨f, -, h⟩ := bind_eq_ok.1 h
      exact comesFrom_of_sublist (by simp) (keep_sublist_self h)
  | map source =>
      obtain ⟨f, -, h⟩ := bind_eq_ok.1 h
      refine comesFrom_of_forall₂ ((mapM_eq_ok.1 h).imp fun row row' hcompute => ?_)
      obtain ⟨text, rfl⟩ := computeRow_ok hcompute
      exact Row.isFrom_set row text ⟨source, rfl⟩
  | aggregate a =>
      have ha : a ∈ [Aggregation.min, .max, .any] := hstep
      cases group with
      | none => exact comesFrom_of_sublist (by simp) (Aggregation.reduce_sublist ha h)
      | some label =>
          obtain ⟨hne, hrows⟩ := hgroup label rfl
          have hd := Aggregation.nodup_groupText hne h
          exact comesFrom_of_nodup (by simp) hd.of_map (Aggregation.apply_subset ha hne hrows h)

/-- **Several steps** invent no row. -/
lemma applySteps_comesFrom {steps : List Step} (hsteps : ∀ step ∈ steps, step.KeepsRows)
    (hgroup : ∀ label ∈ group, focus ≠ label ∧ ∀ row ∈ rows, row.has label)
    (h : applySteps focus group steps rows = .ok out) :
    ComesFrom focus (∃ source, Step.map source ∈ steps) rows out := by
  induction steps generalizing rows with
  | nil =>
      cases h
      exact comesFrom_of_sublist (by simp) (List.Sublist.refl _)
  | cons step steps ih =>
      obtain ⟨hstep, hsteps⟩ := List.forall_mem_cons.1 hsteps
      obtain ⟨between, hbetween, h⟩ := bind_eq_ok.1 h
      have hgroup' : ∀ label ∈ group, focus ≠ label ∧
          ∀ row ∈ between, row.has label := by
        rintro label rfl
        obtain ⟨hne, hrows⟩ := hgroup label rfl
        exact ⟨hne, Step.apply_has hrows hbetween⟩
      have hfrom := (Step.apply_comesFrom hstep hgroup hbetween).trans (ih hsteps hgroup' h)
      simpa only [List.mem_cons, exists_or, eq_comm] using hfrom

/-- **A pipeline invents no row**, if it filters, computes and selects rows, over all of them or
over groups that all of them note.  Each row comes from another position of the rows that were
given.  It has the same texts as the row there but for the focus, and the same labels, to which
only a computation adds the focus; without a computation it is that row.  Wherever the rows are
stored, the pipeline over their places finds rows that are the same, and leaves what was stored as
it was. -/
theorem pipeline_origins {steps : List Step} (hsteps : ∀ step ∈ steps, step.KeepsRows)
    (hgroup : ∀ label ∈ group, focus ≠ label ∧ ∀ row ∈ rows, row.has label)
    (h : pipeline focus group steps rows = .ok out) :
    ComesFrom focus (∃ source, Step.map source ∈ steps) rows out ∧
      ∀ x : Placed, x.Valid → x.rows = rows →
        ∃ y, applyStepsAt focus group steps x = .ok y ∧ y.rows = out ∧
          x.store <+: y.store := by
  have hrun := pipeline_eq_ok.1 h
  refine ⟨applySteps_comesFrom hsteps hgroup hrun, fun x hvalid hrows => ?_⟩
  subst hrows
  have houtcome : SameOutcome x.store (applyStepsAt focus group steps x)
      (applySteps focus group steps x.rows) := applyStepsAt_outcome steps hvalid
  rw [hrun] at houtcome
  generalize applyStepsAt focus group steps x = result at houtcome ⊢
  cases houtcome with
  | ok hstore _ hout => exact ⟨_, rfl, hout, hstore⟩

end Steps

/-- Offers, two of which are the same. -/
def sameOffers : List Row :=
  [⟨[("price", "4"), ("shop", "south")]⟩, ⟨[("price", "30"), ("shop", "north")]⟩,
    ⟨[("price", "4"), ("shop", "south")]⟩, ⟨[("price", "2"), ("shop", "east")]⟩]

/-- What a pair of the dearest offer of each shop costs. -/
def dearestSteps : List Step := [.filter "$price$ > 3", .map "$price$ * 2", .aggregate .max]

/-- The rows of two shops are left, and the offers are stored as they were. -/
theorem pipeline_origins_offers :
    (∀ step ∈ dearestSteps, step.KeepsRows) ∧
      (∀ label ∈ some "shop", "price" ≠ label ∧ ∀ row ∈ sameOffers, row.has label) ∧
      pipeline "price" (some "shop") dearestSteps sameOffers =
        .ok [⟨[("price", "8"), ("shop", "south")]⟩,
          ⟨[("price", "60"), ("shop", "north")]⟩] ∧
      ComesFrom "price" (∃ source, Step.map source ∈ dearestSteps) sameOffers
        [⟨[("price", "8"), ("shop", "south")]⟩, ⟨[("price", "60"), ("shop", "north")]⟩] ∧
      ∃ y, applyStepsAt "price" (some "shop") dearestSteps (.ofRows sameOffers) = .ok y ∧
        sameOffers <+: y.store := by
  have hsteps : ∀ step ∈ dearestSteps, step.KeepsRows := by
    simp [dearestSteps, Step.KeepsRows]
  have hgroup : ∀ label ∈ some "shop", "price" ≠ label ∧
      ∀ row ∈ sameOffers, row.has label := by
    decide
  have hrun : pipeline "price" (some "shop") dearestSteps sameOffers =
      .ok [⟨[("price", "8"), ("shop", "south")]⟩, ⟨[("price", "60"), ("shop", "north")]⟩] :=
    ok_of_toOption (by decide +kernel)
  obtain ⟨hfrom, hplaces⟩ := pipeline_origins hsteps hgroup hrun
  obtain ⟨y, hy, -, hstore⟩ :=
    hplaces (.ofRows sameOffers) (Placed.ofRows_valid _) (Placed.rows_ofRows _)
  exact ⟨hsteps, hgroup, hrun, hfrom, y, hy, hstore⟩

end Crosswalk
