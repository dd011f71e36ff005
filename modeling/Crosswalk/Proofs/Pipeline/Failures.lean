import Crosswalk.Proofs.Formula.Arithmetic
import Crosswalk.Proofs.Formula.Fields
import Crosswalk.Proofs.Pipeline

/-!
# How a pipeline fails

A failure of a pipeline names the node that it was run for, with one exception: numbers beyond what
can be read, written or summed.  What goes wrong inside of a formula is a failure of the formula,
and a text that is no number is a failure of the aggregation that met it.  But a field is read
before its formula begins, the value of a formula is written after it has ended, and a sum is taken
outside of any, so a fault that happens there gets out as it is.

* `Aggregation.Escapes`, `Step.Escapes` — **the ways out**: which fault can get out of a
  reduction or of a step, and why.
* `Aggregation.reduce_escapes`, `Step.apply_escapes` — there is no other way.
* **`pipeline_outcome`** — all steps: rows, a failure that names the node, or a fault that
  escaped. -/

namespace Crosswalk

/-- A row with a numeral that cannot be read, under one of some labels. -/
def Row.HasOverlong (labels : List String) (row : Row) : Prop :=
  ∃ label ∈ labels, ∃ raw, row.get? label = some raw ∧ IsOverlong raw

/-- A failure that waits for the label of a node. -/
def Error.IsUnnamed (e : Error) : Prop := ∃ problem, e = .evaluation problem none

/-! ## Formulas -/

namespace Formula

lemma bind_escapes {source : String} {row : Row} {labels : List String} {e : Error}
    (h : bind source row labels = .error e) :
    e.IsUnnamed ∨ (e = .plain (.fault .wrongValue) ∧ row.HasOverlong labels) := by
  induction labels with
  | nil => cases h
  | cons label labels ih =>
      rw [bind] at h
      split at h
      · cases h
        exact Or.inl ⟨_, rfl⟩
      · next raw hraw =>
          split at h
          · next fault hfault =>
              cases h
              obtain ⟨rfl, hoverlong⟩ := Value.ofField_eq_error.1 hfault
              exact Or.inr ⟨rfl, label, List.mem_cons_self, raw, hraw, hoverlong⟩
          · rcases bind_eq_error.1 h with hrest | ⟨values, -, h⟩
            · refine (ih hrest).imp_right ?_
              rintro ⟨rfl, label', hlabel', hfield⟩
              exact ⟨rfl, label', List.mem_cons_of_mem _ hlabel', hfield⟩
            · cases h

/-- **A formula fails by name, unless one of its fields cannot be read.** -/
lemma evaluate_escapes {f : Formula} {row : Row} {e : Error} (h : f.evaluate row = .error e) :
    e.IsUnnamed ∨ (e = .plain (.fault .wrongValue) ∧ row.HasOverlong f.labels) := by
  rcases bind_eq_error.1 h with hbind | ⟨values, -, h⟩
  · exact bind_escapes hbind
  · split at h
    · cases h
    · cases h
      exact Or.inl ⟨_, rfl⟩

end Formula

/-! ## Reductions -/

namespace Aggregation

variable {a : Aggregation} {focus : String} {rows : List Row} {e : Error}

/-- **The faults that get out of a reduction.** -/
inductive Escapes (focus : String) (rows : List Row) : Aggregation → Fault → Prop where
  /-- The focus of a row cannot be read. -/
  | unread {a : Aggregation} {row : Row} (ha : a ∈ [min, max, sum, average]) (hrow : row ∈ rows)
      (hfocus : row.HasOverlong [focus]) : Escapes focus rows a .wrongValue
  /-- On the way to the sum, a whole number would have to become a double and there is none. -/
  | unsummed {a : Aggregation} {vs : List Value} (ha : a ∈ [sum, average])
      (hvs : numbers a focus rows = .ok vs) (htotal : total (.int 0) vs = .error .outOfRange) :
      Escapes focus rows a .outOfRange
  /-- The mean is beyond the doubles. -/
  | undivided {vs : List Value} {t : Value} (hvs : numbers average focus rows = .ok vs)
      (htotal : total (.int 0) vs = .ok t) (hmean : t.div (.int vs.length) = .error .outOfRange) :
      Escapes focus rows average .outOfRange
  /-- The sum cannot be written. -/
  | unwritten {vs : List Value} {i : Int} (hvs : numbers sum focus rows = .ok vs)
      (htotal : total (.int 0) vs = .ok (.int i)) (hsize : digitBound ≤ i.natAbs) :
      Escapes focus rows sum .wrongValue

lemma uncaught_eq_error {α : Type} {x : Outcome α} (h : uncaught x = .error e) :
    ∃ fault, x = .error fault ∧ e = .plain (.fault fault) := by
  cases x with
  | ok a => cases h
  | error fault =>
      cases h
      exact ⟨fault, rfl, rfl⟩

lemma isNumber_of_numbers {vs : List Value} (h : numbers a focus rows = .ok vs) :
    ∀ v ∈ vs, v.isNumber := by
  induction rows generalizing vs with
  | nil =>
      cases h
      exact List.forall_mem_nil _
  | cons row rows ih =>
      rw [numbers] at h
      split at h
      · exact ih h
      · obtain ⟨v, -, h⟩ := bind_eq_ok.1 h
        split at h
        · next hv =>
            obtain ⟨rest, hrest, h⟩ := bind_eq_ok.1 h
            cases h
            exact List.forall_mem_cons.2 ⟨hv, ih hrest⟩
        · cases h

lemma numbers_escapes (h : numbers a focus rows = .error e) :
    e.IsUnnamed ∨
      (e = .plain (.fault .wrongValue) ∧ ∃ row ∈ rows, row.HasOverlong [focus]) := by
  have hlater : ∀ {row : Row} {rows : List Row}, (e.IsUnnamed ∨
      (e = .plain (.fault .wrongValue) ∧ ∃ row ∈ rows, row.HasOverlong [focus])) →
        e.IsUnnamed ∨
          (e = .plain (.fault .wrongValue) ∧ ∃ r ∈ row :: rows, r.HasOverlong [focus]) := by
    rintro row rows (hnamed | ⟨he, r, hr, hoverlong⟩)
    · exact Or.inl hnamed
    · exact Or.inr ⟨he, r, List.mem_cons_of_mem _ hr, hoverlong⟩
  induction rows with
  | nil => cases h
  | cons row rows ih =>
      rw [numbers] at h
      split at h
      · exact hlater (ih h)
      · next raw hraw =>
          rcases bind_eq_error.1 h with hread | ⟨v, -, h⟩
          · obtain ⟨fault, hfault, rfl⟩ := uncaught_eq_error hread
            obtain ⟨rfl, hoverlong⟩ := Value.ofField_eq_error.1 hfault
            exact Or.inr ⟨rfl, row, List.mem_cons_self, focus, List.mem_singleton_self _, raw,
              hraw, hoverlong⟩
          · split at h
            · rcases bind_eq_error.1 h with hrest | ⟨vs, -, h⟩
              · exact hlater (ih hrest)
              · cases h
            · cases h
              exact Or.inl ⟨_, rfl⟩

/-- A sum of numbers is a number, or out of range. -/
lemma total_of_numbers {acc : Value} {vs : List Value} (hacc : acc.isNumber)
    (hvs : ∀ v ∈ vs, v.isNumber) :
    (∃ t, total acc vs = .ok t ∧ t.isNumber) ∨ total acc vs = .error .outOfRange := by
  induction vs generalizing acc with
  | nil => exact Or.inl ⟨acc, rfl, hacc⟩
  | cons v vs ih =>
      obtain ⟨hv, hvs⟩ := List.forall_mem_cons.1 hvs
      rw [total]
      rcases Value.add_of_numbers hacc hv with ⟨t, ht, hnumber⟩ | herror
      · rw [ht, ok_bind]
        exact ih hnumber hvs
      · exact Or.inr (by rw [herror, error_bind])

lemma written_escapes {t : Value} {fault : Fault}
    (h : (t.format >>= fun text => .ok [rowOf focus text]) = .error fault) :
    fault = .wrongValue ∧ ∃ i, t = .int i ∧ digitBound ≤ i.natAbs := by
  rcases bind_eq_error.1 h with hformat | ⟨_, -, hok⟩
  · exact Value.format_eq_error.1 hformat
  · cases hok

/-- A mean is a double, and every double can be written. -/
lemma mean_escapes {t : Value} {count : Nat} {fault : Fault} (ht : t.isNumber)
    (hcount : count ≠ 0)
    (h : (t.div (.int count) >>= fun v => v.format >>= fun text => .ok [rowOf focus text]) =
      .error fault) :
    fault = .outOfRange ∧ t.div (.int count) = .error .outOfRange := by
  rcases Value.div_of_number ht (Nat.cast_ne_zero.2 hcount) with ⟨x, hx⟩ | hx
  · rw [hx, ok_bind] at h
    obtain ⟨-, i, hi, -⟩ := written_escapes h
    cases hi
  · rw [hx, error_bind] at h
    cases h
    exact ⟨rfl, hx⟩

/-- **What can go wrong with a sum or a mean.** -/
lemma computed_escapes {mean : Bool} {vs : List Value} (hvs : ∀ v ∈ vs, v.isNumber)
    (h : computed mean focus vs = .error e) :
    ∃ fault, e = .plain (.fault fault) ∧
      ((fault = .outOfRange ∧ total (.int 0) vs = .error .outOfRange) ∨
        ∃ t, total (.int 0) vs = .ok t ∧
          ((mean = true ∧ fault = .outOfRange ∧ t.div (.int vs.length) = .error .outOfRange) ∨
            (mean = false ∧ fault = .wrongValue ∧
              ∃ i, t = .int i ∧ digitBound ≤ i.natAbs))) := by
  unfold computed at h
  split at h
  · cases h
  · next hne =>
      obtain ⟨fault, hfault, rfl⟩ := uncaught_eq_error h
      refine ⟨fault, rfl, ?_⟩
      have hzero : (Value.int 0).isNumber := rfl
      have hlength : vs.length ≠ 0 := by
        rintro hnil
        exact hne (List.isEmpty_iff_length_eq_zero.2 hnil)
      rcases total_of_numbers hzero hvs with ⟨t, ht, hnumber⟩ | ht
      · refine Or.inr ⟨t, ht, ?_⟩
        rw [ht, ok_bind] at hfault
        cases mean with
        | true => exact Or.inl ⟨rfl, mean_escapes hnumber hlength hfault⟩
        | false => exact Or.inr ⟨rfl, written_escapes hfault⟩
      · rw [ht, error_bind] at hfault
        cases hfault
        exact Or.inl ⟨rfl, ht⟩

/-- The keys of rows are of one kind, all numbers or all texts, and can be compared. -/
lemma keys_alike {raws : List String} {ks : List Value} (h : keys raws = .ok ks) :
    ∃ Alike : Value → Prop, (∀ k ∈ ks, Alike k) ∧
      ∀ k k', Alike k → Alike k' → ∃ o, k.compare? k' = .ok o := by
  obtain ⟨values, -, h⟩ := bind_eq_ok.1 h
  cases h
  split
  · next hall =>
      exact ⟨fun k => k.isNumber, List.all_eq_true.1 hall,
        fun k k' hk hk' => Value.compare?_of_alike (Or.inl ⟨hk, hk'⟩)⟩
  · refine ⟨fun k => ∃ s, k = .text s, fun k hk => ?_, ?_⟩
    · obtain ⟨s, -, rfl⟩ := List.mem_map.1 hk
      exact ⟨s, rfl⟩
    · rintro k k' ⟨s, rfl⟩ ⟨t, rfl⟩
      exact Value.compare?_of_alike (Or.inr ⟨s, t, rfl, rfl⟩)

/-- Among keys of one kind there is a best. -/
lemma bestRow_of_alike {wanted : Ordering} {best : Value × Row} {rest : List (Value × Row)}
    {Alike : Value → Prop} (halike : ∀ k k', Alike k → Alike k' → ∃ o, k.compare? k' = .ok o)
    (hbest : Alike best.1) (hrest : ∀ candidate ∈ rest, Alike candidate.1) :
    ∃ row, bestRow wanted best rest = .ok row := by
  induction rest generalizing best with
  | nil => exact ⟨best.2, rfl⟩
  | cons candidate rest ih =>
      obtain ⟨hcandidate, hrest⟩ := List.forall_mem_cons.1 hrest
      obtain ⟨o, ho⟩ := halike _ _ hcandidate hbest
      rw [bestRow, before, ho, ok_bind, ok_bind]
      split
      · exact ih hcandidate hrest
      · exact ih hbest hrest

/-- **A least or greatest row is found, unless a focus cannot be read.** -/
lemma extreme_escapes {wanted : Ordering} (h : extreme wanted focus rows = .error e) :
    e = .plain (.fault .wrongValue) ∧ ∃ row ∈ rows, row.HasOverlong [focus] := by
  obtain ⟨fault, hfault, rfl⟩ := uncaught_eq_error h
  rcases bind_eq_error.1 hfault with hkeys | ⟨ks, hkeys, hbest⟩
  · rcases bind_eq_error.1 hkeys with hread | ⟨values, -, hok⟩
    · obtain ⟨raw, hraw, hread⟩ := exists_of_mapM_error hread
      obtain ⟨⟨raw, row⟩, hmem, rfl⟩ := List.mem_map.1 hraw
      obtain ⟨row', hrow', hget⟩ := List.mem_filterMap.1 hmem
      obtain ⟨raw', hget, heq⟩ := Option.map_eq_some_iff.1 hget
      cases heq
      obtain ⟨rfl, hoverlong⟩ := Value.ofField_eq_error.1 hread
      exact ⟨rfl, row, hrow', focus, List.mem_singleton_self _, raw, hget, hoverlong⟩
    · cases hok
  · -- once all keys are known, any two of them can be compared
    obtain ⟨Alike, hks, halike⟩ := keys_alike hkeys
    split at hbest
    · cases hbest
    · next first rest heq =>
        have hall : ∀ candidate ∈ first :: rest, Alike candidate.1 :=
          fun candidate hc => hks _ (List.of_mem_zip (heq ▸ hc)).1
        obtain ⟨hfirst, hrest⟩ := List.forall_mem_cons.1 hall
        have hfound : ∃ row, bestRow wanted first rest = .ok row :=
          bestRow_of_alike halike hfirst hrest
        obtain ⟨row, hrow⟩ := hfound
        rw [hrow] at hbest
        cases hbest

/-- **A reduction fails by name, or a fault gets out of it.** -/
lemma reduce_escapes (h : a.reduce focus rows = .error e) :
    e.IsUnnamed ∨ ∃ fault, e = .plain (.fault fault) ∧ Escapes focus rows a fault := by
  have hunread : ∀ {a : Aggregation}, a ∈ [min, max, sum, average] →
      (e = .plain (.fault .wrongValue) ∧ ∃ row ∈ rows, row.HasOverlong [focus]) →
        ∃ fault, e = .plain (.fault fault) ∧ Escapes focus rows a fault := by
    rintro a ha ⟨he, row, hrow, hfocus⟩
    exact ⟨_, he, .unread ha hrow hfocus⟩
  cases a with
  | min => exact Or.inr (hunread (by decide) (extreme_escapes h))
  | max => exact Or.inr (hunread (by decide) (extreme_escapes h))
  | sum =>
      rcases bind_eq_error.1 h with hnumbers | ⟨vs, hvs, h⟩
      · exact (numbers_escapes hnumbers).imp_right (hunread (by decide))
      · obtain ⟨fault, he, hcause⟩ := computed_escapes (isNumber_of_numbers hvs) h
        refine Or.inr ⟨fault, he, ?_⟩
        rcases hcause with
          ⟨rfl, htotal⟩ | ⟨t, htotal, ⟨hmean, -⟩ | ⟨-, rfl, i, rfl, hsize⟩⟩
        · exact .unsummed (by decide) hvs htotal
        · cases hmean
        · exact .unwritten hvs htotal hsize
  | average =>
      rcases bind_eq_error.1 h with hnumbers | ⟨vs, hvs, h⟩
      · exact (numbers_escapes hnumbers).imp_right (hunread (by decide))
      · obtain ⟨fault, he, hcause⟩ := computed_escapes (isNumber_of_numbers hvs) h
        refine Or.inr ⟨fault, he, ?_⟩
        rcases hcause with ⟨rfl, htotal⟩ | ⟨t, htotal, ⟨-, rfl, hmean⟩ | ⟨hsum, -⟩⟩
        · exact .unsummed (by decide) hvs htotal
        · exact .undivided hvs htotal hmean
        · cases hsum
  | count => cases h
  | any => cases h

/-- The rows that are reduced together: all of them, or those of one group. -/
def parts (group : Option String) (rows : List Row) : List (List Row) :=
  match group with
  | none => [rows]
  | some label => (groupRows label rows).map Prod.snd

/-- An aggregation fails because the reduction of one part does. -/
lemma apply_eq_error {group : Option String} (h : a.apply focus group rows = .error e) :
    ∃ part ∈ parts group rows, a.reduce focus part = .error e := by
  cases group with
  | none => exact ⟨rows, List.mem_singleton_self _, h⟩
  | some label => exact reduceGroups_eq_error h

end Aggregation

/-! ## Steps -/

section Steps

variable {focus : String} {group : Option String} {rows : List Row}

/-- A step whose formula, if it has one, is accepted. -/
def Step.IsAccepted : Step → Prop
  | .filter source | .map source => ∃ f, Formula.compile source = .ok f
  | .aggregate _ => True

/-- **The faults that get out of a step.** -/
inductive Step.Escapes (focus : String) (group : Option String) (rows : List Row) :
    Step → Fault → Prop where
  /-- A field that a formula asks for cannot be read. -/
  | unread {step : Step} {source : String} {f : Formula} {row : Row}
      (hstep : step ∈ [.filter source, .map source]) (hf : Formula.compile source = .ok f)
      (hrow : row ∈ rows) (hfield : row.HasOverlong f.labels) :
      Escapes focus group rows step .wrongValue
  /-- The value of a formula cannot be written. -/
  | unwritten {source : String} {f : Formula} {row : Row} {i : Int}
      (hf : Formula.compile source = .ok f) (hrow : row ∈ rows)
      (hvalue : f.evaluate row = .ok (.int i))
      (hsize : digitBound ≤ i.natAbs) : Escapes focus group rows (.map source) .wrongValue
  /-- A fault gets out of the reduction of all rows, or of those of one group. -/
  | reduced {a : Aggregation} {part : List Row} {fault : Fault}
      (hpart : part ∈ Aggregation.parts group rows) (hfault : a.Escapes focus part fault) :
      Escapes focus group rows (.aggregate a) fault

/-- **A step fails by name, or a fault gets out of it.** -/
lemma Step.apply_escapes {step : Step} {e : Error} (hstep : step.IsAccepted)
    (h : step.apply focus group rows = .error e) :
    e.IsUnnamed ∨
      ∃ fault, e = .plain (.fault fault) ∧ step.Escapes focus group rows fault := by
  cases step with
  | filter source =>
      obtain ⟨f, hf⟩ := hstep
      rw [apply, hf, ok_bind] at h
      obtain ⟨row, hrow, h⟩ := keep_error h
      refine (Formula.evaluate_escapes h).imp_right ?_
      rintro ⟨he, hfield⟩
      exact ⟨_, he, .unread (by simp) hf hrow hfield⟩
  | map source =>
      obtain ⟨f, hf⟩ := hstep
      rw [apply, hf, ok_bind] at h
      obtain ⟨row, hrow, h⟩ := exists_of_mapM_error h
      rcases bind_eq_error.1 h with hevaluate | ⟨v, hv, h⟩
      · refine (Formula.evaluate_escapes hevaluate).imp_right ?_
        rintro ⟨he, hfield⟩
        exact ⟨_, he, .unread (by simp) hf hrow hfield⟩
      · rcases bind_eq_error.1 h with hformat | ⟨text, -, h⟩
        · obtain ⟨fault, hfault, rfl⟩ := Aggregation.uncaught_eq_error hformat
          obtain ⟨rfl, i, rfl, hsize⟩ := Value.format_eq_error.1 hfault
          exact Or.inr ⟨_, rfl, .unwritten hf hrow hv hsize⟩
        · cases h
  | aggregate a =>
      obtain ⟨part, hpart, h⟩ := Aggregation.apply_eq_error h
      refine (Aggregation.reduce_escapes h).imp_right ?_
      rintro ⟨fault, he, hfault⟩
      exact ⟨fault, he, .reduced hpart hfault⟩

/-- Several steps fail because one of them does, on what those before it have left. -/
lemma applySteps_eq_error {steps : List Step} {e : Error}
    (h : applySteps focus group steps rows = .error e) :
    ∃ before step after between, steps = before ++ step :: after ∧
      applySteps focus group before rows = .ok between ∧
        step.apply focus group between = .error e := by
  induction steps generalizing rows with
  | nil => cases h
  | cons step steps ih =>
      rcases bind_eq_error.1 h with hstep | ⟨out, hout, h⟩
      · exact ⟨[], step, steps, rows, rfl, rfl, hstep⟩
      · obtain ⟨before, failing, after, between, rfl, hbefore, hfails⟩ := ih h
        refine ⟨step :: before, failing, after, between, rfl, ?_, hfails⟩
        rw [applySteps, hout, ok_bind, hbefore]

/-- **How a pipeline ends**: with rows, with a failure that names the node, or with a fault that
got out of one of its steps, on the rows that those before it have left. -/
theorem pipeline_outcome {steps : List Step} (hsteps : ∀ step ∈ steps, step.IsAccepted) :
    (∃ out, pipeline focus group steps rows = .ok out) ∨
      (∃ problem, pipeline focus group steps rows = .error (.evaluation problem (some focus))) ∨
        ∃ before step after between fault, steps = before ++ step :: after ∧
          applySteps focus group before rows = .ok between ∧
            step.Escapes focus group between fault ∧
              pipeline focus group steps rows = .error (.plain (.fault fault)) := by
  unfold pipeline
  cases h : applySteps focus group steps rows with
  | ok out => exact Or.inl ⟨out, rfl⟩
  | error e =>
      obtain ⟨before, step, after, between, hsplit, hbefore, hfails⟩ := applySteps_eq_error h
      have hstep : step ∈ steps := hsplit ▸ List.mem_append_right _ List.mem_cons_self
      rcases step.apply_escapes (hsteps step hstep) hfails with
        ⟨problem, rfl⟩ | ⟨fault, rfl, hescapes⟩
      · exact Or.inr (Or.inl ⟨problem, rfl⟩)
      · exact Or.inr
          (Or.inr ⟨before, step, after, between, fault, hsplit, hbefore, hescapes, rfl⟩)

end Steps

/-- The price of a pair of each thing, one of which has no price yet. -/
def unpricedRows : List Row := [⟨[("price", "30")]⟩, ⟨[("price", "soon")]⟩]

/-- The sum of all prices, doubled. -/
def pairSteps : List Step := [.map "$price$ * 2", .aggregate .sum]

/-- A text that is no number is a failure of the node. -/
theorem pipeline_outcome_unpriced :
    (∀ step ∈ pairSteps, step.IsAccepted) ∧
      ∃ problem, pipeline "price" none pairSteps unpricedRows =
        .error (.evaluation problem (some "price")) := by
  have hcompile : (Formula.compile "$price$ * 2").toOption.isSome := by decide +kernel
  have hsteps : ∀ step ∈ pairSteps, step.IsAccepted := by
    refine List.forall_mem_cons.2 ⟨?_, List.forall_mem_singleton.2 trivial⟩
    obtain ⟨f, hf⟩ := Option.isSome_iff_exists.1 hcompile
    exact ⟨f, ok_of_toOption hf⟩
  have hrun : pipeline "price" none pairSteps unpricedRows =
      .error (.evaluation (.nonNumeric "sum" "soonsoon") (some "price")) := by decide +kernel
  refine ⟨hsteps, ?_⟩
  rcases pipeline_outcome hsteps with ⟨out, h⟩ | hnamed | ⟨_, _, _, _, _, -, -, -, h⟩
  · rw [hrun] at h
    cases h
  · exact hnamed
  · rw [hrun] at h
    cases h

/-- A power with 4301 digits is a value of a formula, but not the text of a field; and the fault
does not name the node. -/
theorem pipeline_power_unnamed :
    (∀ step ∈ [Step.map "10 ** 4300"], step.IsAccepted) ∧
      pipeline "A" none [.map "10 ** 4300"] [⟨[("A", "x")]⟩]
        = .error (.plain (.fault .wrongValue)) ∧
        ¬ ((∃ out, pipeline "A" none [.map "10 ** 4300"] [⟨[("A", "x")]⟩] = .ok out) ∨
          ∃ problem, pipeline "A" none [.map "10 ** 4300"] [⟨[("A", "x")]⟩] =
            .error (.evaluation problem (some "A"))) := by
  have hcompile : (Formula.compile "10 ** 4300").toOption.isSome := by decide +kernel
  obtain ⟨f, hf⟩ := Option.isSome_iff_exists.1 hcompile
  have hrun : pipeline "A" none [.map "10 ** 4300"] [⟨[("A", "x")]⟩] =
      .error (.plain (.fault .wrongValue)) := by decide +kernel
  refine ⟨List.forall_mem_singleton.2 ⟨f, ok_of_toOption hf⟩, hrun, ?_⟩
  rw [hrun]
  rintro (⟨out, h⟩ | ⟨problem, h⟩)
  · cases h
  · cases h

end Crosswalk
