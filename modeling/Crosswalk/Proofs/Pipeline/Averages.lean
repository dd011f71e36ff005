import Crosswalk.Proofs.Number.Nearest
import Crosswalk.Proofs.Pipeline.Computed
import Crosswalk.Proofs.Pipeline.Totals
import Mathlib.Algebra.Order.BigOperators.Group.List

/-!
# Where an average lies

The mean of whole numbers is their exact sum divided by how many there are, and only the quotient
is rounded.  Rounding is monotone, so the mean lies between the doubles nearest to the least and to
the greatest number; it need not lie between the numbers themselves, as not all of them are
doubles.

* `Value.div_ints` — division of whole numbers gives the double nearest to the quotient.
* **`Aggregation.average_between`** — the mean lies between the doubles nearest to its data.
* `average_outside` — a constant column with a smaller mean.
-/

namespace Crosswalk

namespace Value

lemma pairUp_ints (a b : Int) : pairUp (int a) (int b) = .ok (.ints a b) := by
  obtain ⟨pair, hpair⟩ : ∃ pair, pair = pairUp := ⟨_, rfl⟩
  obtain ⟨double, hdouble⟩ : ∃ double, double = toDouble := ⟨_, rfl⟩
  rw [← hpair]
  delta pairUp at hpair
  rw [← hdouble] at hpair
  rw [hpair]
  simp [asInt?]

/-- A quotient of whole numbers that is within the doubles. -/
lemma intDiv_eq_ok {a : Int} {b : Nat} {v : Value} (hb : 0 < b) (h : intDiv a b = .ok v) :
    ∃ m, Magnitude.nearest (a.natAbs * stepsPerOne) b = some m ∧
      v = .float (.finite (decide (a < 0)) m) := by
  have hne : (b : Int) ≠ 0 := Nat.cast_ne_zero.2 hb.ne'
  have hpositive : decide ((b : Int) < 0) = false := by simp
  obtain ⟨quotient, hquotient⟩ : ∃ quotient, quotient = intDiv := ⟨_, rfl⟩
  obtain ⟨nearest, hnearest⟩ : ∃ nearest, nearest = Magnitude.nearest := ⟨_, rfl⟩
  rw [← hquotient] at h
  delta intDiv at hquotient
  rw [← hnearest] at hquotient ⊢
  rw [hquotient] at h
  simp only [if_neg hne, hpositive, Bool.bne_false, Int.natAbs_natCast] at h
  cases hm : nearest (a.natAbs * stepsPerOne) b with
  | none =>
      rw [hm] at h
      cases h
  | some m =>
      rw [hm] at h
      exact ⟨m, rfl, (Except.ok.inj h).symm⟩

/-- **Division of whole numbers** gives the double nearest to the quotient, if it is not beyond the
largest one. -/
lemma div_ints {a : Int} {b : Nat} {v : Value} (hb : 0 < b) (h : (int a).div (.int b) = .ok v) :
    v = .float (.nearestTo a b) ∧ v.isFinite = true := by
  unfold div at h
  rw [pairUp_ints, ok_bind] at h
  obtain ⟨m, hm, rfl⟩ := intDiv_eq_ok hb h
  exact ⟨by rw [Binary64.nearestTo, Binary64.ofRatio_of_nearest hm], rfl⟩

end Value

namespace Aggregation

variable {a : Aggregation} {focus : String} {part rows out : List Row} {ns : List Int}

/-! ## The mean of whole numbers -/

/-- Whole numerals that were read have not too many digits. -/
lemma wholeFocus_of_numbers {vs : List Value}
    (hwhole : ∀ row ∈ part, ∀ raw, row.get? focus = some raw → IsWholeText raw)
    (h : numbers a focus part = .ok vs) : WholeFocus focus part := by
  intro row hrow raw hget
  refine ⟨hwhole row hrow raw hget, fun hlong => ?_⟩
  obtain ⟨v, hv, -⟩ := exists_numbers_iff.1 ⟨vs, h⟩ row hrow raw hget
  have herror := Value.ofField_eq_error.2 ⟨rfl, hlong⟩
  rw [hv] at herror
  cases herror

/-- **The mean of whole numbers** is the double nearest to the quotient of their sum and their
count. -/
lemma comesTo_average {v : Value}
    (hwhole : ∀ row ∈ part, ∀ raw, row.get? focus = some raw → IsWholeText raw)
    (h : average.ComesTo focus part v) :
    0 < (focusNumbers focus part).length ∧ v.isFinite = true ∧
      v = .float (.nearestTo (focusNumbers focus part).sum (focusNumbers focus part).length) := by
  obtain ⟨vs, t, hvs, hne, ht, ⟨hsum, -⟩ | ⟨-, hdiv⟩⟩ := h
  · cases hsum
  · have hnumbers := hvs.symm.trans (numbers_whole (wholeFocus_of_numbers hwhole hvs))
    obtain rfl := Except.ok.inj hnumbers
    rw [total_ints, Int.zero_add] at ht
    obtain rfl := Except.ok.inj ht
    have hlength : 0 < (focusNumbers focus part).length := by
      simpa [List.length_pos_iff] using hne
    rw [List.length_map] at hdiv
    obtain ⟨hv, hfinite⟩ := Value.div_ints hlength hdiv
    exact ⟨hlength, hfinite, hv⟩

/-- The double nearest to a mean lies between those nearest to the bounds of its data. -/
lemma nearestTo_between {lo hi : Int} (hns : 0 < ns.length) (hlo : ∀ n ∈ ns, lo ≤ n)
    (hhi : ∀ n ∈ ns, n ≤ hi) :
    (Binary64.nearestTo lo 1).exact ≤ (Binary64.nearestTo ns.sum ns.length).exact ∧
      (Binary64.nearestTo ns.sum ns.length).exact ≤ (Binary64.nearestTo hi 1).exact := by
  have hleast := List.card_nsmul_le_sum ns lo hlo
  have hgreatest := List.sum_le_card_nsmul ns hi hhi
  rw [nsmul_eq_mul] at hleast hgreatest
  constructor
  · refine Binary64.exact_nearestTo_mono Nat.one_pos hns ?_
    rw [Nat.cast_one, mul_one, mul_comm]
    exact hleast
  · refine Binary64.exact_nearestTo_mono hns Nat.one_pos ?_
    rw [Nat.cast_one, mul_one, mul_comm]
    exact hgreatest

/-- **What the mean of whole numbers is, as it is read back.** -/
structure IsRoundedMean (ns : List Int) (w : Value) : Prop where
  /-- It is the double nearest to the exact quotient. -/
  nearest : w.exact = (Binary64.nearestTo ns.sum ns.length).exact
  /-- It lies between the doubles nearest to the bounds of the data. -/
  between : ∀ lo hi : Int, (∀ n ∈ ns, lo ≤ n ∧ n ≤ hi) →
    (Binary64.nearestTo lo 1).exact ≤ w.exact ∧ w.exact ≤ (Binary64.nearestTo hi 1).exact
  /-- It lies within bounds that are doubles. -/
  within : ∀ lo hi : Int, (∀ n ∈ ns, lo ≤ n ∧ n ≤ hi) →
    (Binary64.IsDouble lo → ((lo : ℚ) : WithTop ℚ) ≤ w.exact) ∧
      (Binary64.IsDouble hi → w.exact ≤ ((hi : ℚ) : WithTop ℚ))
  /-- The mean of equal numbers is the double nearest to them. -/
  constant : ∀ c : Int, (∀ n ∈ ns, n = c) → w.exact = (Binary64.nearestTo c 1).exact

lemma isRoundedMean_of_nearest {w : Value} (hns : 0 < ns.length)
    (h : w.exact = (Binary64.nearestTo ns.sum ns.length).exact) : IsRoundedMean ns w := by
  have hbetween : ∀ lo hi : Int, (∀ n ∈ ns, lo ≤ n ∧ n ≤ hi) →
      (Binary64.nearestTo lo 1).exact ≤ w.exact ∧
        w.exact ≤ (Binary64.nearestTo hi 1).exact := by
    intro lo hi hbounds
    rw [h]
    exact nearestTo_between hns (fun n hn => (hbounds n hn).1) fun n hn => (hbounds n hn).2
  refine ⟨h, hbetween, fun lo hi hbounds => ?_, fun c hc => ?_⟩
  · obtain ⟨hlo, hhi⟩ := hbetween lo hi hbounds
    constructor
    · intro hdouble
      rwa [Binary64.exact_nearestTo_of_isDouble hdouble] at hlo
    · intro hdouble
      rwa [Binary64.exact_nearestTo_of_isDouble hdouble] at hhi
  · obtain ⟨hlo, hhi⟩ := hbetween c c fun n hn => ⟨(hc n hn).ge, (hc n hn).le⟩
    exact le_antisymm hhi hlo

/-- **The mean of whole numbers lies between the doubles nearest to its data**, over all rows and
over each group: every part of the rows that has numbers has one row, and its text is read back as
the rounded mean of the part. -/
theorem average_between {group : Option String}
    (hwhole : ∀ row ∈ rows, ∀ raw, row.get? focus = some raw → IsWholeText raw)
    (h : average.apply focus group rows = .ok out) :
    List.Forall₂
      (fun part row => ∃ t w, row.get? focus = some t ∧ Value.ofField t = .ok w ∧
        w.IsDefined ∧ IsRoundedMean (focusNumbers focus part) w)
      ((partsOf group rows).filter fun part => part.any (·.has focus)) out := by
  have hparts :
      ∀ part ∈ (partsOf group rows).filter fun part => part.any (·.has focus), part ⊆ rows :=
    fun part hpart => subset_of_mem_partsOf (List.mem_filter.1 hpart).1
  refine ((List.forall₂_and_left _ _).2 ⟨hparts, apply_forall₂ (Or.inr rfl) h⟩).imp ?_
  rintro part row ⟨hpart, v, t, hv, ht, hget⟩
  obtain ⟨hlength, hfinite, hvalue⟩ :=
    comesTo_average (fun row hrow => hwhole row (hpart hrow)) hv
  obtain ⟨w, hw, hdefined, hexact⟩ := Value.ofField_format hfinite ht
  refine ⟨t, w, hget, hw, hdefined, isRoundedMean_of_nearest hlength ?_⟩
  rw [hexact, hvalue, Value.exact]

end Aggregation

/-- Sales of one day and of two, whose numbers are doubles. -/
def fewSales : List Row :=
  [⟨[("sold", " ٢ "), ("day", "1")]⟩, ⟨[("day", "1")]⟩,
    ⟨[("sold", "-3"), ("day", "1")]⟩, ⟨[("sold", "+7"), ("day", "2")]⟩]

/-- The mean of the first day is between its numbers, and that of the second day is its number. -/
theorem average_between_fewSales :
    (∀ row ∈ fewSales, ∀ raw, row.get? "sold" = some raw → IsWholeText raw) ∧
      Aggregation.average.apply "sold" (some "day") fewSales
        = .ok [⟨[("sold", "-0.5"), ("day", "1")]⟩, ⟨[("sold", "7"), ("day", "2")]⟩] ∧
      ∃ w, Value.ofField "-0.5" = .ok w ∧ (((-3 : Int) : ℚ) : WithTop ℚ) ≤ w.exact ∧
        w.exact ≤ (((2 : Int) : ℚ) : WithTop ℚ) := by
  have hwhole : ∀ row ∈ fewSales, ∀ raw, row.get? "sold" = some raw → IsWholeText raw := by
    decide +kernel
  have hrun : Aggregation.average.apply "sold" (some "day") fewSales
      = .ok [⟨[("sold", "-0.5"), ("day", "1")]⟩, ⟨[("sold", "7"), ("day", "2")]⟩] :=
    ok_of_toOption (by decide +kernel)
  have hparts :
      ((Aggregation.partsOf (some "day") fewSales).filter fun part => part.any (·.has "sold"))
      = [fewSales.take 3, fewSales.drop 3] := by decide +kernel
  have hrows := Aggregation.average_between hwhole hrun
  rw [hparts] at hrows
  cases hrows with
  | cons hfirst hrest =>
      obtain ⟨t, w, ht, hw, -, hmean⟩ := hfirst
      obtain rfl : "-0.5" = t := Option.some.inj ht
      have hbounds : ∀ n ∈ focusNumbers "sold" (fewSales.take 3), -3 ≤ n ∧ n ≤ 2 := by
        decide +kernel
      obtain ⟨hlo, hhi⟩ := hmean.within (-3) 2 hbounds
      exact ⟨hwhole, hrun, w, hw, hlo (Binary64.isDouble_of_natAbs_le (by decide)),
        hhi (Binary64.isDouble_of_natAbs_le (by decide))⟩

/-- A constant column whose number lies between two doubles. -/
def oddSales : List Row :=
  [⟨[("sold", "9007199254740993")]⟩, ⟨[("sold", "9007199254740993")]⟩]

/-- **The mean of equal numbers may be less than all of them.** -/
theorem average_outside : Aggregation.average.apply "sold" none oddSales
      = .ok [⟨[("sold", "9007199254740992")]⟩] ∧
    ∀ n ∈ focusNumbers "sold" oddSales, textNumber "9007199254740992" < n := by
  exact ⟨ok_of_toOption (by decide +kernel), by decide +kernel⟩

end Crosswalk
