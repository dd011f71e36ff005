import Crosswalk.Proofs.Formula.Arithmetic
import Crosswalk.Proofs.Formula.ReadBack
import Crosswalk.Proofs.Pipeline.Failures
import Crosswalk.Proofs.Pipeline.Groups

/-!
# Computed numbers are read back

A sum or a mean is written under the focus as a text, and the step behind it reads that text again.
A finite result is read back as a number of the same exact value, however large it is and with
whatever fraction.  A result that is infinite or undefined is written as a word; the next step
takes the word for a text, and a further sum or mean refuses it.

* `Aggregation.ComesTo` — the number that a sum or a mean of rows comes to, before it is written.
* `Aggregation.partsOf` — the rows that are aggregated together.
* `Aggregation.CarriedBy` — what the next step makes of the text of a number.
* **`Aggregation.apply_carried`** — every result is carried by the text under the focus, and all
  of them are numbers for a further sum or mean if and only if all are finite. -/

namespace Crosswalk

namespace Aggregation

variable {a b : Aggregation} {focus label text : String} {part rows out : List Row} {v : Value}

/-! ## What sums and means come to -/

/-- **The number that a sum or a mean of rows comes to**, if there are numbers. -/
def ComesTo (a : Aggregation) (focus : String) (part : List Row) (v : Value) : Prop :=
  ∃ ns t, numbers a focus part = .ok ns ∧ ns ≠ [] ∧ total (.int 0) ns = .ok t ∧
    ((a = sum ∧ v = t) ∨ (a = average ∧ t.div (.int ns.length) = .ok v))

lemma ComesTo.unique {v' : Value} (h : a.ComesTo focus part v) (h' : a.ComesTo focus part v') :
    v = v' := by
  obtain ⟨ns, t, hns, -, ht, hv⟩ := h
  obtain ⟨ns', t', hns', -, ht', hv'⟩ := h'
  obtain rfl := Except.ok.inj (hns.symm.trans hns')
  obtain rfl := Except.ok.inj (ht.symm.trans ht')
  rcases hv with ⟨rfl, rfl⟩ | ⟨rfl, hv⟩
  · rcases hv' with ⟨-, rfl⟩ | ⟨hne, -⟩
    · rfl
    · cases hne
  · rcases hv' with ⟨hne, -⟩ | ⟨-, hv'⟩
    · cases hne
    · exact Except.ok.inj (hv.symm.trans hv')

/-- It is a number. -/
lemma ComesTo.isNumber (h : a.ComesTo focus part v) : v.isNumber := by
  obtain ⟨ns, t, hns, hne, ht, hv⟩ := h
  have hzero : (Value.int 0).isNumber := rfl
  have hnumber : t.isNumber := by
    rcases total_of_numbers hzero (isNumber_of_numbers hns) with ⟨t', ht', hnumber⟩ | herror
    · rw [ht] at ht'
      cases ht'
      exact hnumber
    · rw [ht] at herror
      cases herror
  rcases hv with ⟨-, rfl⟩ | ⟨-, hdiv⟩
  · exact hnumber
  · have hlength : (ns.length : Int) ≠ 0 :=
      Nat.cast_ne_zero.2 (List.length_pos_of_ne_nil hne).ne'
    rcases Value.div_of_number hnumber hlength with ⟨x, hx⟩ | herror
    · rw [hdiv] at hx
      cases hx
      rfl
    · rw [hdiv] at herror
      cases herror

/-- There are no numbers exactly if no row has the focus. -/
lemma numbers_eq_nil {ns : List Value} (h : numbers a focus part = .ok ns) :
    ns = [] ↔ part.any (·.has focus) = false := by
  induction part generalizing ns with
  | nil =>
      cases h
      simp
  | cons row part ih =>
      rw [numbers] at h
      cases hget : row.get? focus with
      | none =>
          rw [hget] at h
          have hnot : row.has focus = false := by rw [Row.has, hget]; rfl
          rw [ih h, List.any_cons, hnot, Bool.false_or]
      | some raw =>
          rw [hget] at h
          obtain ⟨v, -, h⟩ := bind_eq_ok.1 h
          have hhas : row.has focus = true := by rw [Row.has, hget]; rfl
          rw [List.any_cons, hhas]
          split at h
          · obtain ⟨rest, -, h⟩ := bind_eq_ok.1 h
            cases h
            simp
          · cases h

/-- **A sum or a mean** is the row of the number that it comes to, or there are no numbers. -/
lemma reduce_computed (ha : a = sum ∨ a = average) (h : a.reduce focus part = .ok out) :
    (out = [] ∧ part.any (·.has focus) = false) ∨ (part.any (·.has focus) = true ∧
      ∃ v t, a.ComesTo focus part v ∧ v.format = .ok t ∧ out = [rowOf focus t]) := by
  have hcomputed : ∀ mean ns, numbers a focus part = .ok ns →
      computed mean focus ns = .ok out →
      (∀ t v : Value, (if mean then t.div (.int ns.length) else .ok t) = .ok v →
        (a = sum ∧ v = t) ∨ (a = average ∧ t.div (.int ns.length) = .ok v)) →
      (out = [] ∧ part.any (·.has focus) = false) ∨ (part.any (·.has focus) = true ∧
        ∃ v t, a.ComesTo focus part v ∧ v.format = .ok t ∧ out = [rowOf focus t]) := by
    intro mean ns hns h hmean
    rcases computed_eq_ok h with ⟨hnil, rfl⟩ | ⟨hne, t, v, s, ht, hv, hs, rfl⟩
    · exact Or.inl ⟨rfl, (numbers_eq_nil hns).1 hnil⟩
    · refine Or.inr ⟨?_, v, s, ⟨ns, t, hns, hne, ht, hmean t v hv⟩, hs, rfl⟩
      exact Bool.not_eq_false _ ▸ (numbers_eq_nil hns).not.1 hne
  rcases ha with rfl | rfl
  · obtain ⟨ns, hns, h⟩ := bind_eq_ok.1 h
    refine hcomputed false ns hns h fun t v hv => Or.inl ⟨rfl, ?_⟩
    exact (Except.ok.inj hv).symm
  · obtain ⟨ns, hns, h⟩ := bind_eq_ok.1 h
    exact hcomputed true ns hns h fun t v hv => Or.inr ⟨rfl, hv⟩

/-! ## One row for each part -/

/-- **The rows that are aggregated together**: all of them, or each group. -/
def partsOf (group : Option String) (rows : List Row) : List (List Row) :=
  match group with
  | none => [rows]
  | some label => (groupRows label rows).map Prod.snd

lemma subset_of_mem_partsOf {group : Option String} (h : part ∈ partsOf group rows) :
    part ⊆ rows := by
  cases group with
  | none =>
      obtain rfl := List.mem_singleton.1 h
      exact List.Subset.refl _
  | some label =>
      obtain ⟨g, hg, rfl⟩ := List.mem_map.1 h
      exact groupRows_subset g hg

/-- A result row for a part of the rows: under the focus there is the text of what the part comes
to. -/
def IsResultOf (a : Aggregation) (focus : String) (part : List Row) (row : Row) : Prop :=
  ∃ v t, a.ComesTo focus part v ∧ v.format = .ok t ∧ row.get? focus = some t

lemma isResultOf_noteGroup {row : Row} (h : a.IsResultOf focus part row) :
    a.IsResultOf focus part (row.noteGroup label text) := by
  obtain ⟨v, t, hv, ht, hget⟩ := h
  refine ⟨v, t, hv, ht, ?_⟩
  unfold Row.noteGroup
  split
  · exact hget
  · next hnot =>
      have hne : focus ≠ label := by
        rintro rfl
        exact hnot (Row.has_iff.2 ⟨t, hget⟩)
      rw [Row.get?_set_ne hne, hget]

lemma reduce_forall₂ (ha : a = sum ∨ a = average) (h : a.reduce focus part = .ok out) :
    List.Forall₂ (a.IsResultOf focus) ([part].filter fun part =>
      part.any (·.has focus)) out := by
  rcases reduce_computed ha h with ⟨rfl, hnone⟩ | ⟨hhas, v, t, hv, ht, rfl⟩
  · rw [List.filter_singleton, hnone]
    exact .nil
  · rw [List.filter_singleton, hhas]
    exact .cons ⟨v, t, hv, ht, List.lookup_cons_self⟩ .nil

/-- **Every part with numbers has one row**, in the order of the parts. -/
lemma apply_forall₂ {group : Option String} (ha : a = sum ∨ a = average)
    (h : a.apply focus group rows = .ok out) :
    List.Forall₂ (a.IsResultOf focus)
      ((partsOf group rows).filter fun part => part.any (·.has focus)) out := by
  cases group with
  | none => exact reduce_forall₂ ha h
  | some label =>
      rw [apply] at h
      rw [partsOf]
      generalize groupRows label rows = groups at h ⊢
      induction groups generalizing out with
      | nil =>
          cases h
          exact .nil
      | cons group groups ih =>
          obtain ⟨text, members⟩ := group
          obtain ⟨reduced, others, hreduced, hothers, rfl⟩ := reduceGroups_cons_eq_ok.1 h
          have hfirst : List.Forall₂ (a.IsResultOf focus)
              ([members].filter fun part => part.any (·.has focus))
              (reduced.map (·.noteGroup label text)) :=
            List.forall₂_map_right_iff.2
              ((reduce_forall₂ ha hreduced).imp fun _ _ => isResultOf_noteGroup)
          rw [List.map_cons, ← List.singleton_append, List.filter_append]
          exact List.rel_append hfirst (ih hothers)

/-! ## What the next step reads -/

/-- **What the next step makes of a written number**: it is the same number for every comparison,
or it is no number at all. -/
def CarriedBy (v : Value) (t : String) : Prop :=
  if v.isFinite then
    ∃ w, Value.ofField t = .ok w ∧ w.IsDefined ∧ w.exact = v.exact ∧
      ∀ u : Value, u.IsDefined → w.compare? u = v.compare? u ∧ u.compare? w = u.compare? v
  else Value.ofField t = .ok (.text t)

lemma carriedBy_format {t : String} (hnumber : v.isNumber) (h : v.format = .ok t) :
    CarriedBy v t := by
  unfold CarriedBy
  split
  · next hfinite =>
      obtain ⟨w, hw, hdefined, hexact⟩ := Value.ofField_format hfinite h
      refine ⟨w, hw, hdefined, hexact, fun u hu => ?_⟩
      exact Value.compare?_eq_of_exact hdefined (Value.isDefined_of_isFinite hfinite) hu hexact
  · next hnot => exact Value.ofField_format_not_finite hnumber (Bool.not_eq_true _ ▸ hnot) h

/-- The text of a finite number looks like one, and no other text does. -/
lemma CarriedBy.looksNumeric {t : String} (h : CarriedBy v t) :
    Value.LooksNumeric t = v.isFinite := by
  unfold CarriedBy at h
  split at h
  · next hfinite =>
      obtain ⟨w, hw, hdefined, -⟩ := h
      rcases Value.exists_of_ofField hw with ⟨hlooks, -⟩ | ⟨-, rfl⟩
      · rw [hlooks, hfinite]
      · cases hdefined.1
  · next hnot =>
      rcases Value.exists_of_ofField h with ⟨-, hdefined⟩ | ⟨hlooks, -⟩
      · cases hdefined.1
      · rw [hlooks, (Bool.not_eq_true _).mp hnot]

/-- Numbers are found under the focus if every text there is read as one. -/
lemma exists_numbers_iff : (∃ ns, numbers b focus rows = .ok ns) ↔
    ∀ row ∈ rows, ∀ raw, row.get? focus = some raw →
      ∃ v, Value.ofField raw = .ok v ∧ v.isNumber := by
  induction rows with
  | nil => exact iff_of_true ⟨[], rfl⟩ (List.forall_mem_nil _)
  | cons row rows ih =>
      rw [List.forall_mem_cons, ← ih, numbers]
      cases row.get? focus with
      | none => simp
      | some raw =>
          cases hraw : Value.ofField raw with
          | error fault => simp [uncaught, hraw]
          | ok v =>
              cases hv : v.isNumber with
              | false => simp [uncaught, hraw, hv]
              | true => simp [uncaught, hraw, hv, bind_eq_ok]

/-- **Every result of a sum or a mean is carried by the text under the focus**, with or without
groups: each part of the rows that has numbers has one row, whose text the next step reads as the
number that the part comes to if this is finite, and as a text if it is not.  So a further sum or
mean finds numbers only, of whatever name, if and only if every part comes to a finite number. -/
theorem apply_carried {group : Option String} (ha : a = sum ∨ a = average)
    (h : a.apply focus group rows = .ok out) :
    List.Forall₂ (fun part row => ∃ v t, a.ComesTo focus part v ∧ row.get? focus = some t ∧
        CarriedBy v t) ((partsOf group rows).filter fun part => part.any (·.has focus)) out ∧
      ((∃ ns, numbers b focus out = .ok ns) ↔
        ∀ part ∈ partsOf group rows, ∀ v, a.ComesTo focus part v → v.isFinite = true) := by
  have hrows : List.Forall₂ (fun part row => ∃ v t, a.ComesTo focus part v ∧
      row.get? focus = some t ∧
      CarriedBy v t) ((partsOf group rows).filter fun part => part.any (·.has focus)) out :=
    (apply_forall₂ ha h).imp fun part row ⟨v, t, hv, ht, hget⟩ =>
      ⟨v, t, hv, hget, carriedBy_format hv.isNumber ht⟩
  refine ⟨hrows, ?_⟩
  rw [exists_numbers_iff]
  constructor
  · intro hread part hpart v hv
    have hhas : part.any (·.has focus) = true := by
      obtain ⟨ns, t, hns, hne, -⟩ := hv
      exact Bool.not_eq_false _ ▸ (numbers_eq_nil hns).not.1 hne
    obtain ⟨row, hrow, v', t, hv', hget, hcarried⟩ :=
      exists_of_forall₂ hrows.flip part (List.mem_filter.2 ⟨hpart, hhas⟩)
    obtain rfl := hv.unique hv'
    obtain ⟨w, hw, hnumber⟩ := hread row hrow t hget
    by_contra hnot
    rw [CarriedBy, if_neg hnot, hw] at hcarried
    cases hcarried
    cases hnumber
  · intro hfinite row hrow raw hget
    obtain ⟨part, hpart, v, t, hv, ht, hcarried⟩ := exists_of_forall₂ hrows row hrow
    rw [hget, Option.some_inj] at ht
    subst ht
    rw [CarriedBy, if_pos (hfinite part (List.mem_filter.1 hpart).1 v hv)] at hcarried
    obtain ⟨w, hw, hdefined, -⟩ := hcarried
    exact ⟨w, hw, hdefined.1⟩

end Aggregation

/-- Sales in two shops: those of the south are within the doubles, and their sum is not. -/
def hugeSales : List Row :=
  [⟨[("sold", "0.1"), ("shop", "north")]⟩, ⟨[("sold", "1e308"), ("shop", "south")]⟩,
    ⟨[("sold", "0.2"), ("shop", "north")]⟩, ⟨[("sold", "1e308"), ("shop", "south")]⟩]

/-- What is written for the shops. -/
def hugeSums : List Row :=
  [⟨[("sold", "0.30000000000000004"), ("shop", "north")]⟩,
    ⟨[("sold", "inf"), ("shop", "south")]⟩]

lemma sum_hugeSales : Aggregation.sum.apply "sold" (some "shop") hugeSales = .ok hugeSums :=
  ok_of_toOption (by decide +kernel)

/-- The sum of the north is read back, and that of the south is none; a mean over the sums finds a
text. -/
theorem apply_carried_hugeSales :
    (Aggregation.sum = .sum ∨ Aggregation.sum = .average) ∧
      Aggregation.sum.apply "sold" (some "shop") hugeSales = .ok hugeSums ∧
      (∃ v, v.isFinite = true ∧ Aggregation.CarriedBy v "0.30000000000000004") ∧
      (∃ v, v.isFinite = false ∧ Aggregation.CarriedBy v "inf") ∧
      ¬ ∃ ns, Aggregation.average.numbers "sold" hugeSums = .ok ns := by
  obtain ⟨hrows, hnumbers⟩ :=
    Aggregation.apply_carried (b := .average) (Or.inl rfl) sum_hugeSales
  obtain ⟨-, -, north, text, -, hnorthText, hnorth⟩ :=
    exists_of_forall₂ hrows ⟨[("sold", "0.30000000000000004"), ("shop", "north")]⟩ (by decide)
  obtain ⟨part, hpart, south, text', hsouthValue, hsouthText, hsouth⟩ :=
    exists_of_forall₂ hrows ⟨[("sold", "inf"), ("shop", "south")]⟩ (by decide)
  obtain rfl : text = "0.30000000000000004" := (Option.some.inj hnorthText).symm
  obtain rfl : text' = "inf" := (Option.some.inj hsouthText).symm
  have hfinite : north.isFinite = true := hnorth.looksNumeric.symm.trans (by decide)
  have hinfinite : south.isFinite = false := hsouth.looksNumeric.symm.trans (by decide)
  refine ⟨Or.inl rfl, sum_hugeSales, ⟨north, hfinite, hnorth⟩,
    ⟨south, hinfinite, hsouth⟩, fun hns => ?_⟩
  have hfinite' := hnumbers.1 hns part (List.mem_filter.1 hpart).1 south hsouthValue
  rw [hinfinite] at hfinite'
  cases hfinite'

/-- **A sum of numbers that the next sum takes for a text.** -/
theorem sum_again_hugeSales :
    pipeline "sold" none [.aggregate .sum, .aggregate .sum]
        [⟨[("sold", "1e308")]⟩, ⟨[("sold", "1e308")]⟩]
      = .error (.evaluation (.nonNumeric "sum" "inf") (some "sold")) := by
  have hsum :
      Aggregation.sum.apply "sold" none [⟨[("sold", "1e308")]⟩, ⟨[("sold", "1e308")]⟩]
      = .ok [⟨[("sold", "inf")]⟩] := ok_of_toOption (by decide +kernel)
  have hagain : Aggregation.sum.apply "sold" none [⟨[("sold", "inf")]⟩]
      = .error (.evaluation (.nonNumeric "sum" "inf") none) := rfl
  simp only [pipeline, applySteps, Step.apply, hsum, hagain, ok_bind, error_bind]
  rfl

end Crosswalk
