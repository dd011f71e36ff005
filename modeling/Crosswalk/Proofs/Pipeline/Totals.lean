import Mathlib.Algebra.BigOperators.Ring.Finset
import Crosswalk.Proofs.Formula.WholeNumbers
import Crosswalk.Proofs.Pipeline.Partition

/-!
# Totals of groups

The groups of rows are all of the rows in another order: each row is in one group and in no other.
So what is counted or summed up group by group comes to what is counted or summed up over all rows,
although every count and every sum is written as a text and read back, and although groups without
any number have no sum at all.

* `rowsWith_perm` — **the groups, one behind another, are the rows.**
* `focusNumbers` — the numbers under the focus.
* `WholeFocus`, `ShortTotals` — whole numbers, none of which has too many digits.
* `AddsUpTo` — rows with whole numbers under the focus, whose sum is given.
* `Aggregation.exists_apply_addsUpTo` — what adds up in each group adds up over groups.
* **`Aggregation.apply_conserved`** — counts and sums over groups against those over all rows.
-/

namespace Crosswalk

/-! ## The groups are the rows -/

section Groups

variable {label text : String} {rows : List Row}

lemma rowsWith_cons (row : Row) (rows : List Row) :
    rowsWith label text (row :: rows)
      = (if row.groupText label = text then [row] else []) ++ rowsWith label text rows := by
  rw [rowsWith, List.filter_cons]
  by_cases h : row.groupText label = text <;> simp [rowsWith, h]

lemma flatMap_rowsWith_perm {texts : List String} (hd : texts.Nodup)
    (h : ∀ row ∈ rows, row.groupText label ∈ texts) :
    (texts.flatMap fun text => rowsWith label text rows).Perm rows := by
  induction rows with
  | nil => simp [rowsWith]
  | cons row rows ih =>
      obtain ⟨hrow, hrows⟩ := List.forall_mem_cons.1 h
      have hone : (texts.flatMap fun text => if row.groupText label = text then [row] else [])
          = [row] := by
        have hselect :
            (texts.flatMap fun text => if id text = row.groupText label then [row] else [])
            = if row.groupText label ∈ texts.map id then [row] else [] :=
          flatMap_ite_of_nodup (by rwa [List.map_id])
        rw [List.map_id, if_pos hrow] at hselect
        simpa only [id_eq, eq_comm] using hselect
      simp only [rowsWith_cons]
      refine (List.flatMap_append_perm texts _ _).symm.trans ?_
      rw [hone, List.singleton_append]
      exact (ih hrows).cons row

/-- **The groups, one behind another, are the rows** in another order. -/
lemma rowsWith_perm (label : String) (rows : List Row) :
    ((textsOf label rows).flatMap fun text => rowsWith label text rows).Perm rows :=
  flatMap_rowsWith_perm nodup_textsOf fun _ hrow => mem_textsOf.2 (List.mem_map_of_mem hrow)

lemma sum_length_rowsWith (label : String) (rows : List Row) :
    ((textsOf label rows).map fun text => (rowsWith label text rows).length).sum = rows.length := by
  rw [← (rowsWith_perm label rows).length_eq, List.length_flatMap]

end Groups

/-! ## Numbers under the focus -/

/-- **The numbers under the focus**, of the rows that have it. -/
def focusNumbers (focus : String) (rows : List Row) : List Int :=
  rows.filterMap fun row => (row.get? focus).map textNumber

/-- All texts under the focus are whole numerals, and none has too many digits. -/
def WholeFocus (focus : String) (rows : List Row) : Prop :=
  ∀ row ∈ rows, ∀ raw, row.get? focus = some raw → IsWholeText raw ∧ ¬ IsOverlong raw

instance (focus : String) (rows : List Row) : Decidable (WholeFocus focus rows) :=
  inferInstanceAs (Decidable (∀ row ∈ rows, ∀ raw ∈ row.get? focus,
    IsWholeText raw ∧ ¬ IsOverlong raw))

lemma WholeFocus.subset {focus : String} {rows rows' : List Row} (h : WholeFocus focus rows)
    (hsub : rows' ⊆ rows) : WholeFocus focus rows' := fun row hrow => h row (hsub hrow)

lemma focusNumbers_eq_nil {focus : String} {rows : List Row} :
    focusNumbers focus rows = [] ↔ ∀ row ∈ rows, ¬ row.has focus := by
  rw [focusNumbers, List.filterMap_eq_nil_iff]
  exact forall₂_congr fun row _ => by rw [Option.map_eq_none_iff, Row.not_has_iff]

/-- The sum of all numbers, in any order of the rows. -/
lemma sum_focusNumbers_perm {rows rows' : List Row} (focus : String) (h : rows'.Perm rows) :
    (focusNumbers focus rows').sum = (focusNumbers focus rows).sum :=
  (h.filterMap _).sum_eq

/-- The sum of all numbers, group by group. -/
lemma sum_focusNumbers_rowsWith (focus label : String) (rows : List Row) :
    ((textsOf label rows).map fun text => (focusNumbers focus (rowsWith label text rows)).sum).sum
      = (focusNumbers focus rows).sum := by
  have hperm := (rowsWith_perm label rows).filterMap fun row => (row.get? focus).map textNumber
  rw [List.filterMap_flatMap] at hperm
  rw [focusNumbers, ← hperm.sum_eq, List.flatMap_def, List.sum_flatten, List.map_map]
  rfl

/-- Neither the number of rows has too many digits nor the sum of their numbers, that over all rows
or that over a group. -/
structure ShortTotals (focus label : String) (rows : List Row) : Prop where
  count : rows.length < digitBound
  sum : (focusNumbers focus rows).sum.natAbs < digitBound
  sums : ∀ text ∈ textsOf label rows,
    (focusNumbers focus (rowsWith label text rows)).sum.natAbs < digitBound

lemma ShortTotals.perm {focus label : String} {rows rows' : List Row}
    (h : ShortTotals focus label rows) (hperm : rows'.Perm rows) :
    ShortTotals focus label rows' := by
  refine ⟨hperm.length_eq ▸ h.count, sum_focusNumbers_perm focus hperm ▸ h.sum,
    fun text htext => ?_⟩
  have hgroup : (rowsWith label text rows').Perm (rowsWith label text rows) := hperm.filter _
  rw [sum_focusNumbers_perm focus hgroup]
  refine h.sums text ?_
  rw [mem_textsOf] at htext ⊢
  exact (hperm.map _).mem_iff.1 htext

/-- **Rows with whole numbers under the focus that add up to a total**, as they are read back. -/
def AddsUpTo (focus : String) (rows : List Row) (total : Int) : Prop :=
  ∃ ns : List Int, List.Forall₂ (fun row n => ∃ raw, row.get? focus = some raw ∧
    Value.ofField raw = .ok (.int n)) rows ns ∧ ns.sum = total

section AddsUpTo

variable {focus label text : String} {rows rows' : List Row} {m n : Int}

lemma addsUpTo_nil : AddsUpTo focus [] 0 := ⟨[], .nil, rfl⟩

lemma AddsUpTo.append (h : AddsUpTo focus rows m) (h' : AddsUpTo focus rows' n) :
    AddsUpTo focus (rows ++ rows') (m + n) := by
  obtain ⟨ms, hms, rfl⟩ := h
  obtain ⟨ns, hns, rfl⟩ := h'
  exact ⟨ms ++ ns, List.rel_append hms hns, List.sum_append⟩

lemma AddsUpTo.flatMap {texts : List String} {f : String → List Row} {total : String → Int}
    (h : ∀ text ∈ texts, AddsUpTo focus (f text) (total text)) :
    AddsUpTo focus (texts.flatMap f) (texts.map total).sum := by
  induction texts with
  | nil => exact addsUpTo_nil
  | cons text texts ih =>
      obtain ⟨htext, htexts⟩ := List.forall_mem_cons.1 h
      rw [List.flatMap_cons, List.map_cons, List.sum_cons]
      exact htext.append (ih htexts)

/-- A text under another label changes nothing. -/
lemma AddsUpTo.set (hne : focus ≠ label) (h : AddsUpTo focus rows n) :
    AddsUpTo focus (rows.map (·.set label text)) n := by
  obtain ⟨ns, hns, rfl⟩ := h
  refine ⟨ns, List.forall₂_map_left_iff.2 (hns.imp ?_), rfl⟩
  rintro row n ⟨raw, hget, hraw⟩
  exact ⟨raw, (Row.get?_set_ne hne).trans hget, hraw⟩

/-- A number that was written adds up to itself. -/
lemma addsUpTo_rowOf {s : String} (h : Value.intText n = .ok s) :
    AddsUpTo focus [Aggregation.rowOf focus s] n := by
  refine ⟨[n], .cons ⟨s, ?_, Value.ofField_intText h⟩ .nil, List.sum_singleton⟩
  exact List.lookup_cons_self

end AddsUpTo

namespace Aggregation

variable {a : Aggregation} {focus label : String} {rows rows' : List Row}

/-! ## Sums over all rows -/

lemma numbers_whole (h : WholeFocus focus rows) :
    numbers a focus rows = .ok ((focusNumbers focus rows).map .int) := by
  induction rows with
  | nil => rfl
  | cons row rows ih =>
      obtain ⟨hrow, hrows⟩ := List.forall_mem_cons.1 h
      cases hget : row.get? focus with
      | none => simp [numbers, focusNumbers, hget, ih hrows]
      | some raw =>
          obtain ⟨hwhole, hlen⟩ := hrow raw hget
          rw [numbers, hget]
          simp only [Value.ofField_whole hwhole hlen, uncaught, ok_bind, Value.isNumber, if_true,
            ih hrows, focusNumbers, List.filterMap_cons, hget, Option.map_some, List.map_cons]

lemma total_ints (t : Int) (ns : List Int) :
    total (.int t) (ns.map .int) = .ok (.int (t + ns.sum)) := by
  induction ns generalizing t with
  | nil => rw [List.map_nil, total, List.sum_nil, Int.add_zero]
  | cons n ns ih =>
      have hadd : (Value.int t).add (.int n) = .ok (.int (t + n)) := rfl
      rw [List.map_cons, total, hadd, ok_bind, ih, List.sum_cons, Int.add_assoc]

/-- **The sum over all rows** is the exact sum of their numbers; rows without any have none. -/
lemma sum_whole (h : WholeFocus focus rows)
    (hsize : (focusNumbers focus rows).sum.natAbs < digitBound) :
    ∃ out, sum.reduce focus rows = .ok out ∧
      AddsUpTo focus out (focusNumbers focus rows).sum ∧
      out.length ≤ 1 ∧ (out = [] ↔ ∀ row ∈ rows, ¬ row.has focus) := by
  rw [← focusNumbers_eq_nil]
  have hreduce : sum.reduce focus rows
      = computed false focus ((focusNumbers focus rows).map .int) := by
    rw [reduce, numbers_whole h, ok_bind]
  cases hns : focusNumbers focus rows with
  | nil =>
      rw [hns] at hreduce
      exact ⟨[], hreduce, addsUpTo_nil, Nat.zero_le 1, by simp⟩
  | cons n ns =>
      rw [hns] at hreduce hsize
      obtain ⟨s, hs⟩ : ∃ s, Value.intText (n :: ns).sum = .ok s := by
        cases hs : Value.intText (n :: ns).sum with
        | ok s => exact ⟨s, rfl⟩
        | error fault => exact absurd (Value.intText_eq_error.1 hs).2 (Nat.not_le.2 hsize)
      have htotal := total_ints 0 (n :: ns)
      rw [Int.zero_add] at htotal
      refine ⟨[rowOf focus s], ?_, addsUpTo_rowOf hs, Nat.le_refl 1, by simp⟩
      rw [hreduce, computed, List.isEmpty_map]
      simp only [List.isEmpty_cons, htotal, ok_bind, Value.format, hs]
      rfl

/-- The count over all rows, which are not too many. -/
lemma count_addsUpTo (h : rows.length < digitBound) :
    ∃ out, count.reduce focus rows = .ok out ∧ AddsUpTo focus out rows.length :=
  ⟨_, rfl, addsUpTo_rowOf (Value.intText_natCast h)⟩

/-! ## Totals over groups -/

/-- **What adds up in each group adds up over groups.** -/
lemma exists_apply_addsUpTo (hne : focus ≠ label) (total : String → Int)
    (h : ∀ text ∈ textsOf label rows, ∃ out,
      a.reduce focus (rowsWith label text rows) = .ok out ∧ AddsUpTo focus out (total text)) :
    ∃ out, a.apply focus (some label) rows = .ok out ∧
      AddsUpTo focus out ((textsOf label rows).map total).sum := by
  have hall : ∀ text ∈ textsOf label rows, a.reduce focus (rowsWith label text rows)
      = .ok (a.reduced focus (rowsWith label text rows)) := by
    intro text htext
    obtain ⟨out, hout, -⟩ := h text htext
    rw [hout, reduced_of_ok hout]
  refine ⟨_, (apply_some_eq_ok hne).2 ⟨hall, rfl⟩, AddsUpTo.flatMap fun text htext => ?_⟩
  obtain ⟨out, hout, hsum⟩ := h text htext
  rw [reduced_of_ok hout]
  exact hsum.set hne

/-- Groups leave no row exactly if none of them does. -/
lemma apply_eq_nil_iff {out : List Row} (hne : focus ≠ label)
    (h : a.apply focus (some label) rows = .ok out) :
    out = [] ↔
      ∀ text ∈ textsOf label rows, a.reduce focus (rowsWith label text rows) = .ok [] := by
  obtain ⟨hall, rfl⟩ := (apply_some_eq_ok hne).1 h
  rw [List.flatMap_eq_nil_iff]
  refine forall₂_congr fun text htext => ?_
  rw [hall text htext, List.map_eq_nil_iff, Except.ok.injEq]

/-- The counts over groups add up to the number of rows. -/
lemma exists_count_groups (hne : focus ≠ label) (h : rows.length < digitBound) :
    ∃ counts, count.apply focus (some label) rows = .ok counts ∧
      AddsUpTo focus counts rows.length := by
  obtain ⟨counts, hcounts, htotal⟩ := exists_apply_addsUpTo hne
    (fun text => (rowsWith label text rows).length)
    fun text _ => count_addsUpTo ((List.length_filter_le _ _).trans_lt h)
  refine ⟨counts, hcounts, ?_⟩
  rw [← sum_length_rowsWith label rows, Nat.cast_list_sum, List.map_map]
  exact htotal

/-- The sums over groups add up to the exact sum. -/
lemma exists_sum_groups (hne : focus ≠ label) (hwhole : WholeFocus focus rows)
    (hsums : ∀ text ∈ textsOf label rows,
      (focusNumbers focus (rowsWith label text rows)).sum.natAbs < digitBound) :
    ∃ sums, sum.apply focus (some label) rows = .ok sums ∧
      AddsUpTo focus sums (focusNumbers focus rows).sum ∧
      (sums = [] ↔ ∀ row ∈ rows, ¬ row.has focus) := by
  have hgroup : ∀ text ∈ textsOf label rows, ∃ out,
      sum.reduce focus (rowsWith label text rows) = .ok out ∧
      AddsUpTo focus out (focusNumbers focus (rowsWith label text rows)).sum ∧
      (out = [] ↔ ∀ row ∈ rowsWith label text rows, ¬ row.has focus) := by
    intro text htext
    obtain ⟨out, hout, htotal, -, hnil⟩ :=
      sum_whole (hwhole.subset fun _ => List.mem_of_mem_filter) (hsums text htext)
    exact ⟨out, hout, htotal, hnil⟩
  obtain ⟨sums, hout, htotal⟩ := exists_apply_addsUpTo hne
    (fun text => (focusNumbers focus (rowsWith label text rows)).sum)
    fun text htext => (hgroup text htext).imp fun _ h => ⟨h.1, h.2.1⟩
  rw [sum_focusNumbers_rowsWith] at htotal
  refine ⟨sums, hout, htotal, ?_⟩
  -- a row lacks the focus in its group as it does among all rows
  have hrows : (∀ row ∈ rows, ¬ row.has focus)
      ↔ ∀ text ∈ textsOf label rows, ∀ row ∈ rowsWith label text rows,
        ¬ row.has focus := by
    simp only [← (rowsWith_perm label rows).mem_iff, List.mem_flatMap]
    grind
  rw [apply_eq_nil_iff hne hout, hrows]
  refine forall₂_congr fun text htext => ?_
  obtain ⟨out, hout, -, hnil⟩ := hgroup text htext
  rw [hout, Except.ok.injEq, hnil]

/-- **Nothing is lost or counted twice by grouping**, if all texts under the focus are whole
numerals and no number that occurs has too many digits.  The counts over groups add up to the
number of rows, and the sums over groups to the exact sum, as does the sum over all rows; there are
no sums exactly if no row has the focus.  The totals are the same for the rows in any other
order. -/
theorem apply_conserved (hne : focus ≠ label) (hwhole : WholeFocus focus rows)
    (hshort : ShortTotals focus label rows) (hperm : rows'.Perm rows) :
    ∃ counts sums alone,
      count.apply focus (some label) rows' = .ok counts ∧ AddsUpTo focus counts rows.length ∧
      sum.apply focus (some label) rows' = .ok sums ∧
        AddsUpTo focus sums (focusNumbers focus rows).sum ∧
      sum.apply focus none rows' = .ok alone ∧
        AddsUpTo focus alone (focusNumbers focus rows).sum ∧ alone.length ≤ 1 ∧
      (sums = [] ↔ ∀ row ∈ rows, ¬ row.has focus) ∧
        (alone = [] ↔ ∀ row ∈ rows, ¬ row.has focus) := by
  have hwhole' : WholeFocus focus rows' := hwhole.subset hperm.subset
  have hshort' := hshort.perm hperm
  obtain ⟨counts, hcounts, hcount⟩ := exists_count_groups hne hshort'.count
  obtain ⟨sums, hsums, hsum, hnone⟩ := exists_sum_groups hne hwhole' hshort'.sums
  obtain ⟨alone, halone, hsum', hone, hnone'⟩ := sum_whole hwhole' hshort'.sum
  rw [hperm.length_eq] at hcount
  rw [sum_focusNumbers_perm focus hperm] at hsum hsum'
  simp only [hperm.mem_iff] at hnone hnone'
  exact ⟨counts, sums, alone, hcounts, hcount, hsums, hsum, halone, hsum', hone, hnone, hnone'⟩

end Aggregation

/-- What was sold, in digits of two scripts, with signs and blanks, and rows without either
label. -/
def soldRows : List Row :=
  [⟨[("sold", "٣"), ("shop", "north")]⟩, ⟨[("shop", "south")]⟩, ⟨[("sold", " +4 ")]⟩,
    ⟨[("sold", "-7"), ("shop", "north")]⟩, ⟨[("sold", "12"), ("shop", "")]⟩]

/-- Twelve were sold of five rows, whatever their order; of the south there is no number. -/
theorem apply_conserved_soldRows :
    "sold" ≠ "shop" ∧ WholeFocus "sold" soldRows ∧ ShortTotals "sold" "shop" soldRows ∧
      soldRows.reverse.Perm soldRows ∧
      Aggregation.sum.apply "sold" (some "shop") soldRows.reverse
        = .ok [⟨[("sold", "16"), ("shop", "")]⟩, ⟨[("sold", "-4"), ("shop", "north")]⟩] ∧
      AddsUpTo "sold" [⟨[("sold", "16"), ("shop", "")]⟩,
        ⟨[("sold", "-4"), ("shop", "north")]⟩] 12 := by
  have hne : "sold" ≠ "shop" := by decide
  have hwhole : WholeFocus "sold" soldRows := by decide +kernel
  have hshort : ShortTotals "sold" "shop" soldRows :=
    ⟨by decide +kernel, by decide +kernel, by decide +kernel⟩
  have hperm : soldRows.reverse.Perm soldRows := List.reverse_perm _
  have hrun : Aggregation.sum.apply "sold" (some "shop") soldRows.reverse
      = .ok [⟨[("sold", "16"), ("shop", "")]⟩, ⟨[("sold", "-4"), ("shop", "north")]⟩] :=
    ok_of_toOption (by decide +kernel)
  have htotal : (focusNumbers "sold" soldRows).sum = 12 := by decide +kernel
  obtain ⟨-, sums, -, -, -, hsums, hsum, -⟩ :=
    Aggregation.apply_conserved hne hwhole hshort hperm
  rw [htotal] at hsum
  obtain rfl := Except.ok.inj (hsums.symm.trans hrun)
  exact ⟨hne, hwhole, hshort, hperm, hrun, hsum⟩

end Crosswalk
