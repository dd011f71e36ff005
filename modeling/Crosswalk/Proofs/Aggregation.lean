import Crosswalk.Aggregation
import Crosswalk.Proofs.Row

/-!
# What aggregations return

An aggregation returns rows that it was given and rows that it computes, and the computed ones have
nothing but the focus.  Over groups, the text of the group is moreover noted on every row.

* `Aggregation.extremeOf` — the search for an extreme row, over things that stand for rows.
* `Aggregation.reduce_cases` — **what a reduction comes to.**
* `Aggregation.reduce_error` — how a reduction can fail.
* `groupRows_subset` — the rows of a group.
* `Aggregation.apply_rows`, `Aggregation.apply_error` — the same, over all rows or over groups.
-/

namespace Crosswalk

/-! ## Rows with the focus -/

@[simp] lemma Row.has_rowOf {focus text l : String} :
    (Aggregation.rowOf focus text).has l ↔ l = focus := by
  by_cases h : l = focus
  · subst h
    simp [Aggregation.rowOf, Row.has, Row.get?]
  · simp [Aggregation.rowOf, Row.has, Row.get?, List.lookup_cons, beq_false_of_ne h, h]

/-- A group is noted without a change to the other labels. -/
lemma Row.has_noteGroup {row : Row} {label text l : String} :
    (row.noteGroup label text).has l ↔ l = label ∨ row.has l := by
  unfold Row.noteGroup
  split
  · next h =>
      constructor
      · exact Or.inr
      · rintro (rfl | hl)
        · exact h
        · exact hl
  · exact Row.has_set

namespace Aggregation

/-! ## Reductions -/

lemma uncaught_error {α : Type} {x : Outcome α} {e : Error} (h : uncaught x = .error e) :
    ∃ cause, e = .plain cause := by
  cases x with
  | ok a => cases h
  | error f =>
      cases h
      exact ⟨_, rfl⟩

lemma uncaught_ok {α : Type} {x : Outcome α} {a : α} (h : uncaught x = .ok a) : x = .ok a := by
  cases x with
  | ok b =>
      cases h
      rfl
  | error f => cases h

/-! ## The search for an extreme row

The search looks at rows for their texts under the focus alone, so it may as well go over anything
that stands for rows. -/

section Search

variable {α : Type} {wanted : Ordering} {focus : String} {text? : α → Option String}
  {xs : List α}

/-- The first of some things whose key no other key comes before, as `bestRow` is of rows. -/
def bestItem (wanted : Ordering) (best : Value × α) : List (Value × α) → Outcome α
  | [] => .ok best.2
  | candidate :: rest => do
    bestItem wanted (if ← before wanted candidate.1 best.1 then candidate else best) rest

/-- The things that have a text, and the text that they have. -/
def candidatesOf (text? : α → Option String) (xs : List α) : List (String × α) :=
  xs.filterMap fun x => (text? x).map fun raw => (raw, x)

/-- **The first thing with an extreme text**, as `extreme` is of rows. -/
def extremeOf (wanted : Ordering) (text? : α → Option String) (xs : List α) :
    Except Error (List α) :=
  let found := candidatesOf text? xs
  uncaught do
    let ks ← keys (found.map Prod.fst)
    match ks.zip (found.map Prod.snd) with
    | [] => .ok []
    | first :: rest => do .ok [← bestItem wanted first rest]

lemma bestItem_mem {best : Value × α} {rest : List (Value × α)} {x : α}
    (h : bestItem wanted best rest = .ok x) : x ∈ best.2 :: rest.map Prod.snd := by
  induction rest generalizing best with
  | nil =>
      cases h
      exact List.mem_cons_self
  | cons candidate rest ih =>
      obtain ⟨isBefore, -, hrest⟩ := bind_eq_ok.1 h
      have hmem := ih hrest
      rw [List.map_cons]
      split at hmem
      · exact List.mem_cons_of_mem _ hmem
      · rcases List.mem_cons.1 hmem with rfl | hmem
        · exact List.mem_cons_self
        · exact List.mem_cons_of_mem _ (List.mem_cons_of_mem _ hmem)

/-- The best of some rows is the row of the best of what stands for them. -/
lemma bestRow_map (f : α → Row) {best : Value × α} {rest : List (Value × α)} :
    bestRow wanted (best.map id f) (rest.map (Prod.map id f))
      = (bestItem wanted best rest).map f := by
  induction rest generalizing best with
  | nil => rfl
  | cons candidate rest ih =>
      rw [List.map_cons, bestRow, bestItem]
      simp only [Prod.map_fst, id_eq]
      cases before wanted candidate.1 best.1 with
      | error fault => rfl
      | ok isBefore => cases isBefore <;> exact ih

lemma candidates_map (f : α → Row) : candidates focus (xs.map f)
    = (candidatesOf (fun x => (f x).get? focus) xs).map (Prod.map id f) := by
  rw [candidates, candidatesOf, List.filterMap_map, List.map_filterMap]
  refine List.filterMap_congr fun x _ => ?_
  rw [Option.map_map]
  rfl

/-- **The extreme row** is the row of what is found among the things that stand for rows. -/
lemma extreme_map (f : α → Row) : extreme wanted focus (xs.map f)
    = (extremeOf wanted (fun x => (f x).get? focus) xs).map (List.map f) := by
  unfold extreme extremeOf
  rw [candidates_map f]
  generalize candidatesOf (fun x => (f x).get? focus) xs = found
  have hraws : (found.map (Prod.map id f)).map Prod.fst = found.map Prod.fst := by simp
  have hzip : ∀ ks : List Value, ks.zip ((found.map (Prod.map id f)).map Prod.snd)
      = (ks.zip (found.map Prod.snd)).map (Prod.map id f) := by
    intro ks
    rw [← List.zip_map_right, List.map_map, List.map_map]
    rfl
  simp only [hraws, hzip]
  cases keys (found.map Prod.fst) with
  | error fault => rfl
  | ok ks =>
      simp only [ok_bind]
      cases ks.zip (found.map Prod.snd) with
      | nil => rfl
      | cons first rest =>
          simp only [List.map_cons, bestRow_map]
          cases bestItem wanted first rest <;> rfl

/-- What is found is one of the things with a text, if anything is. -/
lemma extremeOf_cases {out : List α} (h : extremeOf wanted text? xs = .ok out) :
    out = [] ∨ ∃ x ∈ xs, (text? x).isSome ∧ out = [x] := by
  obtain ⟨ks, -, hbest⟩ := bind_eq_ok.1 (uncaught_ok h)
  have hzip : ∀ x ∈ (ks.zip ((candidatesOf text? xs).map Prod.snd)).map Prod.snd,
      x ∈ xs ∧ (text? x).isSome := by
    intro x hx
    obtain ⟨pair, hpair, rfl⟩ := List.mem_map.1 hx
    obtain ⟨⟨raw, y⟩, hcandidate, hy⟩ := List.mem_map.1 (List.of_mem_zip hpair).2
    obtain ⟨z, hz, hraw⟩ := List.mem_filterMap.1 hcandidate
    obtain ⟨raw', htext, heq⟩ := Option.map_eq_some_iff.1 hraw
    cases heq
    rw [← hy, htext]
    exact ⟨hz, rfl⟩
  split at hbest
  · cases hbest
    exact Or.inl rfl
  · next first rest heq =>
      obtain ⟨x, hx, hout⟩ := bind_eq_ok.1 hbest
      cases hout
      rw [heq, List.map_cons] at hzip
      obtain ⟨hmem, htext⟩ := hzip x (bestItem_mem hx)
      exact Or.inr ⟨x, hmem, htext, rfl⟩

end Search

lemma extreme_cases {wanted : Ordering} {focus : String} {rows out : List Row}
    (h : extreme wanted focus rows = .ok out) :
    out = [] ∨ ∃ row ∈ rows, row.has focus ∧ out = [row] := by
  rw [← List.map_id rows, extreme_map] at h
  obtain ⟨found, hfound, rfl⟩ := map_eq_ok.1 h
  rw [List.map_id]
  exact extremeOf_cases hfound

/-- **What a sum or a mean of numbers comes to**, and how it is written. -/
lemma computed_eq_ok {mean : Bool} {focus : String} {vs : List Value} {out : List Row}
    (h : computed mean focus vs = .ok out) :
    (vs = [] ∧ out = []) ∨ (vs ≠ [] ∧ ∃ t v text, total (.int 0) vs = .ok t ∧
      (if mean then t.div (.int vs.length) else .ok t) = .ok v ∧ v.format = .ok text ∧
        out = [rowOf focus text]) := by
  unfold computed at h
  split at h
  · next hempty =>
      cases h
      exact Or.inl ⟨List.isEmpty_iff.1 hempty, rfl⟩
  · next hempty =>
      refine Or.inr ⟨fun hnil => hempty (List.isEmpty_iff.2 hnil), ?_⟩
      obtain ⟨t, ht, h⟩ := bind_eq_ok.1 (uncaught_ok h)
      have hwritten : ∀ v : Value, (v.format >>= fun text => .ok [rowOf focus text]) = .ok out →
          ∃ text, v.format = .ok text ∧ out = [rowOf focus text] := by
        intro v hv
        obtain ⟨text, htext, hv⟩ := bind_eq_ok.1 hv
        cases hv
        exact ⟨text, htext, rfl⟩
      cases mean with
      | false =>
          obtain ⟨text, htext, hout⟩ := hwritten t h
          exact ⟨t, t, text, ht, rfl, htext, hout⟩
      | true =>
          obtain ⟨v, hv, h⟩ := bind_eq_ok.1 h
          obtain ⟨text, htext, hout⟩ := hwritten v h
          exact ⟨t, v, text, ht, hv, htext, hout⟩

lemma computed_cases {mean : Bool} {focus : String} {vs : List Value} {out : List Row}
    (h : computed mean focus vs = .ok out) : out = [] ∨ ∃ text, out = [rowOf focus text] := by
  rcases computed_eq_ok h with ⟨-, hout⟩ | ⟨-, -, -, text, -, -, -, hout⟩
  · exact Or.inl hout
  · exact Or.inr ⟨text, hout⟩

/-- **What a reduction comes to**: no row, or one that is given or has the focus alone. -/
theorem reduce_cases {a : Aggregation} {focus : String} {rows out : List Row}
    (h : a.reduce focus rows = .ok out) :
    out = [] ∨ ∃ row, out = [row] ∧ (row ∈ rows ∨ ∃ text, row = rowOf focus text) := by
  have hextreme : ∀ wanted, extreme wanted focus rows = .ok out →
      out = [] ∨ ∃ row, out = [row] ∧ (row ∈ rows ∨ ∃ text, row = rowOf focus text) :=
    fun wanted h => (extreme_cases h).imp_right fun ⟨row, hrow, _, hout⟩ =>
      ⟨row, hout, Or.inl hrow⟩
  have hcomputed : ∀ mean vs, computed mean focus vs = .ok out →
      out = [] ∨ ∃ row, out = [row] ∧ (row ∈ rows ∨ ∃ text, row = rowOf focus text) :=
    fun mean vs h => (computed_cases h).imp_right fun ⟨text, hout⟩ =>
      ⟨_, hout, Or.inr ⟨text, rfl⟩⟩
  cases a with
  | min => exact hextreme .lt h
  | max => exact hextreme .gt h
  | sum =>
      obtain ⟨vs, -, hvs⟩ := bind_eq_ok.1 h
      exact hcomputed false vs hvs
  | average =>
      obtain ⟨vs, -, hvs⟩ := bind_eq_ok.1 h
      exact hcomputed true vs hvs
  | count =>
      cases h
      exact Or.inr ⟨_, rfl, Or.inr ⟨_, rfl⟩⟩
  | any =>
      cases h
      cases rows with
      | nil => exact Or.inl rfl
      | cons row rows => exact Or.inr ⟨row, rfl, Or.inl List.mem_cons_self⟩

/-- Where the rows of a reduction come from. -/
lemma reduce_rows {a : Aggregation} {focus : String} {rows out : List Row}
    (h : a.reduce focus rows = .ok out) :
    ∀ row ∈ out, row ∈ rows ∨ ∃ text, row = rowOf focus text := by
  intro row hrow
  rcases reduce_cases h with rfl | ⟨only, rfl, hsource⟩
  · exact absurd hrow List.not_mem_nil
  · rwa [List.mem_singleton.1 hrow]

/-- A failure of an aggregation: of a computation, or because of a text that is no number. -/
def IsFailure (e : Error) : Prop :=
  (∃ cause, e = .plain cause) ∨ ∃ name raw, e = .evaluation (.nonNumeric name raw) none

lemma numbers_error {a : Aggregation} {focus : String} {rows : List Row} {e : Error}
    (h : numbers a focus rows = .error e) : IsFailure e := by
  induction rows with
  | nil => cases h
  | cons row rows ih =>
      rw [numbers] at h
      split at h
      · exact ih h
      · rcases bind_eq_error.1 h with hfault | ⟨v, -, h⟩
        · exact Or.inl (uncaught_error hfault)
        · split at h
          · rcases bind_eq_error.1 h with hrest | ⟨vs, -, h⟩
            · exact ih hrest
            · cases h
          · cases h
            exact Or.inr ⟨_, _, rfl⟩

lemma computed_error {mean : Bool} {focus : String} {vs : List Value} {e : Error}
    (h : computed mean focus vs = .error e) : IsFailure e := by
  unfold computed at h
  split at h
  · cases h
  · exact Or.inl (uncaught_error h)

/-- **Why a reduction fails**: a value cannot be read or computed with, or is no number. -/
theorem reduce_error {a : Aggregation} {focus : String} {rows : List Row} {e : Error}
    (h : a.reduce focus rows = .error e) : IsFailure e := by
  cases a with
  | min => exact Or.inl (uncaught_error h)
  | max => exact Or.inl (uncaught_error h)
  | sum =>
      rcases bind_eq_error.1 h with hnumbers | ⟨vs, -, hvs⟩
      · exact numbers_error hnumbers
      · exact computed_error hvs
  | average =>
      rcases bind_eq_error.1 h with hnumbers | ⟨vs, -, hvs⟩
      · exact numbers_error hnumbers
      · exact computed_error hvs
  | count => cases h
  | any => cases h

end Aggregation

/-! ## Groups -/

/-- A row that is added goes to one group; the others stay. -/
lemma mem_addToGroup {text : String} {row r : Row} {groups : List (String × List Row)}
    (h : ∃ g ∈ addToGroup text row groups, r ∈ g.2) :
    r = row ∨ ∃ g ∈ groups, r ∈ g.2 := by
  induction groups with
  | nil =>
      obtain ⟨g, hg, hr⟩ := h
      rw [addToGroup, List.mem_singleton] at hg
      subst hg
      exact Or.inl (List.mem_singleton.1 hr)
  | cons group groups ih =>
      obtain ⟨g, hg, hr⟩ := h
      rw [addToGroup] at hg
      split at hg
      · rcases List.mem_cons.1 hg with rfl | hg
        · rcases List.mem_append.1 hr with hr | hr
          · exact Or.inr ⟨_, List.mem_cons_self, hr⟩
          · exact Or.inl (List.mem_singleton.1 hr)
        · exact Or.inr ⟨g, List.mem_cons_of_mem _ hg, hr⟩
      · rcases List.mem_cons.1 hg with rfl | hg
        · exact Or.inr ⟨_, List.mem_cons_self, hr⟩
        · rcases ih ⟨g, hg, hr⟩ with rfl | ⟨g', hg', hr'⟩
          · exact Or.inl rfl
          · exact Or.inr ⟨g', List.mem_cons_of_mem _ hg', hr'⟩

/-- The groups are found row by row. -/
lemma groupRows_concat (label : String) (rows : List Row) (row : Row) :
    groupRows label (rows ++ [row])
      = addToGroup (row.groupText label) row (groupRows label rows) := by
  rw [groupRows, List.foldl_append]
  rfl

/-- **A group holds rows that were grouped.** -/
theorem groupRows_subset {label : String} {rows : List Row} :
    ∀ g ∈ groupRows label rows, g.2 ⊆ rows := by
  induction rows using List.reverseRecOn with
  | nil => exact List.forall_mem_nil _
  | append_singleton rows row ih =>
      intro g hg r hr
      rw [groupRows_concat] at hg
      rcases mem_addToGroup ⟨g, hg, hr⟩ with rfl | ⟨g', hg', hr'⟩
      · exact List.mem_append_right _ (List.mem_singleton_self _)
      · exact List.mem_append_left _ (ih g' hg' hr')

namespace Aggregation

/-- The rows of the first group stand in front of those of the others. -/
lemma reduceGroups_cons_eq_ok {a : Aggregation} {focus label text : String} {members out : List Row}
    {groups : List (String × List Row)} :
    a.reduceGroups focus label ((text, members) :: groups) = .ok out ↔
      ∃ reduced others, a.reduce focus members = .ok reduced ∧
        a.reduceGroups focus label groups = .ok others ∧
          reduced.map (·.noteGroup label text) ++ others = out := by
  simp [reduceGroups, bind_eq_ok]

lemma reduceGroups_rows {a : Aggregation} {focus label : String} {rows : List Row}
    {groups : List (String × List Row)} {out : List Row} (hgroups : ∀ g ∈ groups, g.2 ⊆ rows)
    (h : a.reduceGroups focus label groups = .ok out) :
    ∀ row ∈ out, ∃ source text, row = source.noteGroup label text ∧
      (source ∈ rows ∨ ∃ text, source = rowOf focus text) := by
  induction groups generalizing out with
  | nil =>
      cases h
      exact fun row hrow => absurd hrow List.not_mem_nil
  | cons group groups ih =>
      obtain ⟨text, members⟩ := group
      obtain ⟨reduced, others, hreduced, hothers, rfl⟩ := reduceGroups_cons_eq_ok.1 h
      intro row hrow
      rcases List.mem_append.1 hrow with hrow | hrow
      · obtain ⟨source, hsource, rfl⟩ := List.mem_map.1 hrow
        refine ⟨source, text, rfl,
          (reduce_rows hreduced source hsource).imp_left fun hmem => ?_⟩
        exact hgroups _ List.mem_cons_self hmem
      · exact ih (fun g hg => hgroups g (List.mem_cons_of_mem _ hg)) hothers row hrow

/-- Groups cannot be reduced because one of them cannot. -/
lemma reduceGroups_eq_error {a : Aggregation} {focus label : String}
    {groups : List (String × List Row)} {e : Error}
    (h : a.reduceGroups focus label groups = .error e) :
    ∃ part ∈ groups.map Prod.snd, a.reduce focus part = .error e := by
  induction groups with
  | nil => cases h
  | cons group groups ih =>
      rw [List.map_cons]
      rcases bind_eq_error.1 h with hreduced | ⟨reduced, -, h⟩
      · exact ⟨_, List.mem_cons_self, hreduced⟩
      · rcases bind_eq_error.1 h with hothers | ⟨others, -, h⟩
        · obtain ⟨part, hpart, herror⟩ := ih hothers
          exact ⟨part, List.mem_cons_of_mem _ hpart, herror⟩
        · cases h

/-- **Where the rows of an aggregation come from**, over all rows or over groups. -/
theorem apply_rows {a : Aggregation} {focus : String} {group : Option String} {rows out : List Row}
    (h : a.apply focus group rows = .ok out) :
    ∀ row ∈ out, ∃ source, (source ∈ rows ∨ ∃ text, source = rowOf focus text) ∧
      ∀ l, row.has l ↔ group = some l ∨ source.has l := by
  intro row hrow
  cases group with
  | none => exact ⟨row, reduce_rows h row hrow, fun l => by simp⟩
  | some label =>
      obtain ⟨source, text, rfl, hsource⟩ := reduceGroups_rows groupRows_subset h row hrow
      refine ⟨source, hsource, fun l => ?_⟩
      rw [Row.has_noteGroup, Option.some_inj, eq_comm]

/-- **An aggregation fails where a reduction does**, of all rows or of one group. -/
theorem apply_error {a : Aggregation} {focus : String} {group : Option String} {rows : List Row}
    {e : Error} (h : a.apply focus group rows = .error e) : IsFailure e := by
  cases group with
  | none => exact reduce_error h
  | some label =>
      obtain ⟨part, -, hpart⟩ := reduceGroups_eq_error h
      exact reduce_error hpart

end Aggregation

end Crosswalk
