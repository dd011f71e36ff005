import Crosswalk.Proofs.Aggregation
import Crosswalk.Proofs.Formula.Order

/-!
# Least and greatest rows

The least row is found by going through the rows once and keeping the best one so far.  What rows
are ordered by is settled before: if the texts under the focus all look like numbers, by the
numbers, and else by the texts.  Either way the keys are of one kind and linearly ordered, and the
row that is kept at the end is the first one with the least key.  The greatest row is the least one
of the reversed order.

* `fieldKey`, `numericFocus` — **the key of a text**, and which kind of keys there are.
* `IsFirst` — the first row that no other one is ahead of.
* `Aggregation.bestRow_first` — one pass finds it.
* `Aggregation.extreme_first` — so does the search for an extreme row.
* **`Aggregation.reduce_extreme`** — both reductions, and the same rows in another order.
-/

namespace Crosswalk

/-! ## Keys -/

/-- A text as the value that it is ordered as. -/
def orderValue (numeric : Bool) (raw : String) : Value :=
  if numeric then (Value.ofField raw).toOption.getD (.text raw) else .text raw

/-- **The key of a text** under the focus: the exact value of the number that it is read as if all
texts there look like numbers, and else the text itself. -/
def fieldKey (numeric : Bool) (raw : String) : OrderKey := (orderValue numeric raw).key

/-- Whether all texts under the focus look like numbers. -/
def numericFocus (focus : String) (rows : List Row) : Bool :=
  rows.all fun row => (row.get? focus).all Value.LooksNumeric

/-- The key of a row among rows; a row without the focus has none. -/
def Row.focusKey (focus : String) (rows : List Row) (row : Row) : Option OrderKey :=
  (row.get? focus).map (fieldKey (numericFocus focus rows))

/-- The keys do not depend on the order of the rows. -/
lemma Row.focusKey_perm {focus : String} {rows rows' : List Row} (h : rows'.Perm rows) (row : Row) :
    row.focusKey focus rows' = row.focusKey focus rows := by
  rw [Row.focusKey, Row.focusKey, numericFocus, numericFocus, h.all_eq]

lemma Row.focusKey_eq_some {focus raw : String} {row : Row} (h : row.get? focus = some raw)
    (rows : List Row) :
    row.focusKey focus rows = some (fieldKey (numericFocus focus rows) raw) := by
  rw [Row.focusKey, h]
  rfl

/-- All texts under the focus can be read. -/
def ReadableFocus (focus : String) (rows : List Row) : Prop :=
  ∀ row ∈ rows, ∀ raw, row.get? focus = some raw → ∃ v, Value.ofField raw = .ok v

/-- **The first row that no other one is ahead of**, as a list: there is one unless no row has a
key, no key is ahead of its key, and its key is ahead of those in front of it. -/
structure IsFirst (ahead : OrderKey → OrderKey → Prop) (key : Row → Option OrderKey)
    (rows out : List Row) : Prop where
  eq_nil_iff : out = [] ↔ ∀ row ∈ rows, key row = none
  first : out ≠ [] → ∃ before row after k, rows = before ++ row :: after ∧ out = [row] ∧
    key row = some k ∧ (∀ other ∈ rows, ∀ k' ∈ key other, ¬ ahead k' k) ∧
      ∀ other ∈ before, ∀ k' ∈ key other, ahead k k'

/-- Rows in another order have the same first key. -/
lemma IsFirst.map_key_eq {ahead : OrderKey → OrderKey → Prop} {key : Row → Option OrderKey}
    {rows rows' out out' : List Row} (hahead : ∀ k k', ¬ ahead k k' → ¬ ahead k' k → k = k')
    (hperm : rows'.Perm rows) (h : IsFirst ahead key rows out) (h' : IsFirst ahead key rows' out') :
    out'.map key = out.map key := by
  by_cases hnil : out = []
  · have hnil' : out' = [] :=
      h'.eq_nil_iff.2 fun row hrow => h.eq_nil_iff.1 hnil row (hperm.mem_iff.1 hrow)
    rw [hnil, hnil']
  · have hnil' : out' ≠ [] := fun heq =>
      hnil (h.eq_nil_iff.2 fun row hrow => h'.eq_nil_iff.1 heq row (hperm.mem_iff.2 hrow))
    obtain ⟨_, row, _, k, hrows, rfl, hk, hnone, -⟩ := h.first hnil
    obtain ⟨_, row', _, k', hrows', rfl, hk', hnone', -⟩ := h'.first hnil'
    have hrow : row ∈ rows := hrows ▸ List.mem_append_right _ List.mem_cons_self
    have hrow' : row' ∈ rows' := hrows' ▸ List.mem_append_right _ List.mem_cons_self
    have heq : k' = k := hahead k' k (hnone row' (hperm.mem_iff.1 hrow') k' hk')
      (hnone' row (hperm.mem_iff.2 hrow) k hk)
    rw [List.map_singleton, List.map_singleton, hk, hk', heq]

lemma ReadableFocus.perm {focus : String} {rows rows' : List Row} (h : ReadableFocus focus rows)
    (hperm : rows'.Perm rows) : ReadableFocus focus rows' :=
  fun row hrow => h row (hperm.mem_iff.1 hrow)

namespace Aggregation

variable {focus : String} {rows : List Row} {wanted : Ordering}

/-- A text with its row, as the value that it is ordered as. -/
def valued (numeric : Bool) (c : String × Row) : Value × Row := (orderValue numeric c.1, c.2)

lemma mem_candidates {raw : String} {row : Row} :
    (raw, row) ∈ candidates focus rows ↔ row ∈ rows ∧ row.get? focus = some raw := by
  simp only [candidates, List.mem_filterMap, Option.map_eq_some_iff, Prod.mk.injEq]
  constructor
  · rintro ⟨_, hrow, _, hget, rfl, rfl⟩
    exact ⟨hrow, hget⟩
  · rintro ⟨hrow, hget⟩
    exact ⟨row, hrow, raw, hget, rfl, rfl⟩

/-! ## One pass -/

/-- **One pass finds the first of the least**: of some things that have rows and keys, if `before`
goes by the keys. -/
lemma bestRow_first {α γ : Type} [LinearOrder γ] {f : α → Value × Row} {key : α → γ}
    {a : α} {as : List α} (hbefore : ∀ b ∈ a :: as, ∀ c ∈ a :: as,
      before wanted (f b).1 (f c).1 = .ok (decide (key b < key c))) :
    ∃ front chosen back, a :: as = front ++ chosen :: back ∧
      bestRow wanted (f a) (as.map f) = .ok (f chosen).2 ∧
        (∀ b ∈ a :: as, key chosen ≤ key b) ∧ ∀ b ∈ front, key chosen < key b := by
  induction as generalizing a with
  | nil => exact ⟨[], a, [], rfl, rfl, by simp, by simp⟩
  | cons b as ih =>
      rw [List.map_cons, bestRow, hbefore b (by simp) a (by simp), ok_bind]
      by_cases hlt : key b < key a
      · -- everything so far is behind the new candidate
        obtain ⟨front, chosen, back, hsplit, hrun, hleast, hfirst⟩ :=
          ih fun c hc d hd => hbefore c (List.mem_cons_of_mem _ hc) d (List.mem_cons_of_mem _ hd)
        have hchosen : key chosen < key a := (hleast b List.mem_cons_self).trans_lt hlt
        refine ⟨a :: front, chosen, back, by rw [hsplit, List.cons_append], ?_, ?_, ?_⟩
        · rw [decide_eq_true hlt, if_pos rfl, hrun]
        · exact List.forall_mem_cons.2 ⟨hchosen.le, hleast⟩
        · exact List.forall_mem_cons.2 ⟨hchosen, hfirst⟩
      · -- the best one so far is kept, and the candidate is passed over
        obtain ⟨front, chosen, back, hsplit, hrun, hleast, hfirst⟩ :=
          ih (a := a) fun c hc d hd => hbefore c (by grind) d (by grind)
        have hchosen := hleast a List.mem_cons_self
        have hb : key a ≤ key b := not_lt.1 hlt
        have hall : ∀ c ∈ a :: b :: as, key chosen ≤ key c :=
          List.forall_mem_cons.2 ⟨hchosen, List.forall_mem_cons.2 ⟨hchosen.trans hb,
            fun c hc => hleast c (List.mem_cons_of_mem _ hc)⟩⟩
        rw [decide_eq_false hlt, if_neg Bool.false_ne_true, hrun]
        cases front with
        | nil =>
            obtain ⟨rfl, rfl⟩ := List.cons.inj hsplit
            exact ⟨[], a, b :: as, rfl, rfl, hall, List.forall_mem_nil _⟩
        | cons a' front =>
            obtain ⟨rfl, rfl⟩ := List.cons.inj hsplit
            obtain ⟨hfirsta, hfirst⟩ := List.forall_mem_cons.1 hfirst
            exact ⟨a :: b :: front, chosen, back, rfl, rfl, hall, List.forall_mem_cons.2
              ⟨hfirsta, List.forall_mem_cons.2 ⟨hfirsta.trans_le hb, hfirst⟩⟩⟩

/-! ## The search for an extreme row -/

/-- The keys are those of the texts, if these can be read. -/
lemma keys_eq_ok {raws : List String} (hread : ∀ raw ∈ raws, ∃ v, Value.ofField raw = .ok v) :
    keys raws = .ok (raws.map (orderValue (raws.all Value.LooksNumeric))) := by
  have hvalue : ∀ raw ∈ raws, Value.ofField raw = .ok (orderValue true raw) := by
    intro raw hraw
    obtain ⟨v, hv⟩ := hread raw hraw
    simp [orderValue, hv, Except.toOption]
  have hnumber : ∀ raw ∈ raws, (orderValue true raw).isNumber = Value.LooksNumeric raw := by
    intro raw hraw
    rcases Value.exists_of_ofField (hvalue raw hraw) with
      ⟨hlooks, hdefined⟩ | ⟨hlooks, htext⟩
    · rw [hlooks, hdefined.1]
    · rw [hlooks, htext]
      rfl
  have hall : (raws.map (orderValue true)).all Value.isNumber = raws.all Value.LooksNumeric := by
    rw [List.all_map, Bool.eq_iff_iff, List.all_eq_true, List.all_eq_true]
    exact forall₂_congr fun raw hraw => by rw [Function.comp_apply, hnumber raw hraw]
  rw [keys, mapM_of_ok hvalue, ok_bind, hall]
  cases raws.all Value.LooksNumeric <;> rfl

/-- Texts whose keys are of one kind are compared by their keys. -/
lemma compare?_orderValue {raws : List String}
    (hread : ∀ raw ∈ raws, ∃ v, Value.ofField raw = .ok v) {raw raw' : String} (hraw : raw ∈ raws)
    (hraw' : raw' ∈ raws) :
    ∃ o, (orderValue (raws.all Value.LooksNumeric) raw).compare?
        (orderValue (raws.all Value.LooksNumeric) raw') = .ok (some o) ∧
      o.Compares (fieldKey (raws.all Value.LooksNumeric) raw)
        (fieldKey (raws.all Value.LooksNumeric) raw') := by
  refine Value.compare?_key ?_
  cases hnumeric : raws.all Value.LooksNumeric with
  | false => exact Or.inr ⟨raw, raw', rfl, rfl⟩
  | true =>
      have hdefined : ∀ raw ∈ raws, (orderValue true raw).IsDefined := by
        intro raw hraw
        obtain ⟨v, hv⟩ := hread raw hraw
        have hlooks := List.all_eq_true.1 hnumeric raw hraw
        rcases Value.exists_of_ofField hv with ⟨-, hdefined⟩ | ⟨hnot, -⟩
        · simpa [orderValue, hv, Except.toOption] using hdefined
        · rw [hlooks] at hnot
          cases hnot
      exact Or.inl ⟨hdefined raw hraw, hdefined raw' hraw'⟩

lemma all_candidates : ((candidates focus rows).map Prod.fst).all Value.LooksNumeric
    = numericFocus focus rows := by
  rw [Bool.eq_iff_iff, List.all_eq_true, numericFocus, List.all_eq_true]
  constructor
  · intro h row hrow
    rw [Option.all_eq_true]
    exact fun raw hraw =>
      h raw (List.mem_map.2 ⟨(raw, row), mem_candidates.2 ⟨hrow, hraw⟩, rfl⟩)
  · intro h raw hraw
    obtain ⟨⟨raw, row⟩, hmem, rfl⟩ := List.mem_map.1 hraw
    obtain ⟨hrow, hget⟩ := mem_candidates.1 hmem
    exact (Option.all_eq_true _ _).1 (h row hrow) raw hget

/-- A list of rows split at one of its candidates. -/
lemma split_of_candidates {front back : List (String × Row)} {raw : String} {row : Row}
    (h : candidates focus rows = front ++ (raw, row) :: back) :
    ∃ before after, rows = before ++ row :: after ∧ candidates focus before = front := by
  obtain ⟨first, rest, rfl, hfirst, hrest⟩ := List.filterMap_eq_append_iff.1 h
  obtain ⟨skipped, row', after, rfl, hskipped, hrow', -⟩ := List.filterMap_eq_cons_iff.1 hrest
  obtain ⟨raw', -, heq⟩ := Option.map_eq_some_iff.1 hrow'
  cases heq
  refine ⟨first ++ skipped, after, by rw [List.append_assoc], ?_⟩
  rw [candidates, List.filterMap_append, hfirst, List.filterMap_eq_nil_iff.2 hskipped,
    List.append_nil]

section Search

variable (hread : ReadableFocus focus rows)

include hread

lemma readable_candidates :
    ∀ raw ∈ (candidates focus rows).map Prod.fst, ∃ v, Value.ofField raw = .ok v := by
  intro raw hraw
  obtain ⟨⟨raw, row⟩, hmem, rfl⟩ := List.mem_map.1 hraw
  obtain ⟨hrow, hget⟩ := mem_candidates.1 hmem
  exact hread row hrow raw hget

/-- **What is searched** are the rows with the focus, each with its value. -/
lemma extreme_eq : extreme wanted focus rows = uncaught
    (match (candidates focus rows).map (valued (numericFocus focus rows)) with
      | [] => .ok []
      | first :: rest => do .ok [← bestRow wanted first rest]) := by
  have hkeys := keys_eq_ok (readable_candidates hread)
  rw [all_candidates] at hkeys
  simp only [extreme, hkeys, ok_bind]
  rw [List.map_map, List.zip_map']
  rfl

/-- Rows are compared by their keys. -/
lemma before_valued {γ : Type} [LinearOrder γ] {toKey : OrderKey → γ}
    (hwanted : ∀ o k k', Ordering.Compares o k k' → (o = wanted ↔ toKey k < toKey k')) :
    ∀ c ∈ candidates focus rows, ∀ c' ∈ candidates focus rows,
      before wanted (valued (numericFocus focus rows) c).1 (valued (numericFocus focus rows) c').1
        = .ok (decide (toKey (fieldKey (numericFocus focus rows) c.1)
          < toKey (fieldKey (numericFocus focus rows) c'.1))) := by
  intro c hc c' hc'
  obtain ⟨o, ho, hcompares⟩ := compare?_orderValue (readable_candidates hread)
    (List.mem_map_of_mem hc) (List.mem_map_of_mem hc')
  rw [all_candidates] at ho hcompares
  rw [before, valued, valued, ho, ok_bind]
  congr 1
  rw [Bool.eq_iff_iff, decide_eq_true_iff, ← hwanted o _ _ hcompares, beq_iff_eq, Option.some_inj]

/-- **The search for an extreme row finds the first one**, in an order in which the wanted outcome
of a comparison is to be below. -/
lemma extreme_first {γ : Type} [LinearOrder γ] {toKey : OrderKey → γ}
    (hwanted : ∀ o k k', Ordering.Compares o k k' → (o = wanted ↔ toKey k < toKey k')) :
    ∃ out, extreme wanted focus rows = .ok out ∧
      IsFirst (fun k k' => toKey k < toKey k') (·.focusKey focus rows) rows out := by
  have hbefore := before_valued hread hwanted
  rw [extreme_eq hread]
  cases hfound : candidates focus rows with
  | nil =>
      refine ⟨[], rfl, ⟨fun _ row hrow => ?_, fun _ => rfl⟩, fun h => absurd rfl h⟩
      have hnone : row.get? focus = none := by
        refine Option.eq_none_iff_forall_ne_some.2 fun raw hget => ?_
        have hmem := mem_candidates.2 ⟨hrow, hget⟩
        rw [hfound] at hmem
        cases hmem
      rw [Row.focusKey, hnone]
      rfl
  | cons first rest =>
      rw [hfound] at hbefore
      obtain ⟨front, ⟨raw, row⟩, back, hsplit, hrun, hleast, hfirst⟩ :=
        bestRow_first hbefore
      rw [← hfound] at hsplit hleast
      obtain ⟨before, after, hrows, hfront⟩ := split_of_candidates hsplit
      obtain ⟨hrow, hget⟩ : row ∈ rows ∧ row.get? focus = some raw :=
        mem_candidates.1 (hsplit ▸ List.mem_append_right _ List.mem_cons_self)
      have hkey := Row.focusKey_eq_some hget rows
      refine ⟨[row], ?_, ⟨fun h => absurd h (List.cons_ne_nil _ _), fun h => ?_⟩, fun _ =>
        ⟨before, row, after, _, hrows, rfl, hkey, ?_, ?_⟩⟩
      · rw [List.map_cons]
        simp only [hrun]
        rfl
      · rw [h row hrow] at hkey
        cases hkey
      · intro other hother k' hk'
        obtain ⟨raw', hget', rfl⟩ := Option.map_eq_some_iff.1 hk'
        exact not_lt.2 (hleast (raw', other) (mem_candidates.2 ⟨hother, hget'⟩))
      · intro other hother k' hk'
        obtain ⟨raw', hget', rfl⟩ := Option.map_eq_some_iff.1 hk'
        exact hfirst (raw', other) (hfront ▸ mem_candidates.2 ⟨hother, hget'⟩)

lemma min_first : ∃ out, min.reduce focus rows = .ok out ∧
    IsFirst (· < ·) (·.focusKey focus rows) rows out :=
  extreme_first (γ := OrderKey) hread fun _ _ _ h => h.eq_lt

lemma max_first : ∃ out, max.reduce focus rows = .ok out ∧
    IsFirst (· > ·) (·.focusKey focus rows) rows out :=
  extreme_first (γ := OrderKeyᵒᵈ) hread fun _ _ _ h => h.eq_gt

end Search

/-- **Least and greatest rows**, if all texts under the focus can be read.  There is none exactly
if no row has the focus.  Otherwise it is a row that was given; no key is below (above) its key,
and the keys in front of it are above (below) it.  Keys are the exact values of the numbers, or the
texts themselves unless all of them look like numbers.  In another order of the rows another row
may be found, but it has the same key. -/
theorem reduce_extreme (hread : ReadableFocus focus rows) :
    ∃ least greatest, min.reduce focus rows = .ok least ∧
      max.reduce focus rows = .ok greatest ∧
      IsFirst (· < ·) (·.focusKey focus rows) rows least ∧
      IsFirst (· > ·) (·.focusKey focus rows) rows greatest ∧
      ∀ rows', rows'.Perm rows → ∃ least' greatest',
        min.reduce focus rows' = .ok least' ∧ max.reduce focus rows' = .ok greatest' ∧
          least'.map (·.focusKey focus rows) = least.map (·.focusKey focus rows) ∧
          greatest'.map (·.focusKey focus rows) = greatest.map (·.focusKey focus rows) := by
  obtain ⟨least, hleast, hfirst⟩ := min_first hread
  obtain ⟨greatest, hgreatest, hlast⟩ := max_first hread
  refine ⟨least, greatest, hleast, hgreatest, hfirst, hlast, fun rows' hperm => ?_⟩
  obtain ⟨least', hleast', hfirst'⟩ := min_first (hread.perm hperm)
  obtain ⟨greatest', hgreatest', hlast'⟩ := max_first (hread.perm hperm)
  simp only [Row.focusKey_perm hperm] at hfirst' hlast'
  exact ⟨least', greatest', hleast', hgreatest',
    hfirst.map_key_eq (fun _ _ h h' => le_antisymm (not_lt.1 h') (not_lt.1 h)) hperm hfirst',
    hlast.map_key_eq (fun _ _ h h' => le_antisymm (not_lt.1 h) (not_lt.1 h')) hperm hlast'⟩

end Aggregation

/-- Prices as they are found in tables: beyond the doubles, without a price, and twice the same. -/
def foundPrices : List Row :=
  [⟨[("price", "1e400")]⟩, ⟨[("shop", "north")]⟩, ⟨[("price", " 20 "), ("shop", "south")]⟩,
    ⟨[("price", "2e1")]⟩, ⟨[("price", "1e999")]⟩]

/-- The first of the two least prices, and the first of the two that are beyond the doubles. -/
theorem reduce_extreme_foundPrices :
    ReadableFocus "price" foundPrices ∧
      IsFirst (· < ·) (·.focusKey "price" foundPrices) foundPrices
        [⟨[("price", " 20 "), ("shop", "south")]⟩] ∧
      IsFirst (· > ·) (·.focusKey "price" foundPrices) foundPrices
        [⟨[("price", "1e400")]⟩] := by
  have hall : ∀ row ∈ foundPrices,
      (row.get? "price").all fun raw => (Value.ofField raw).toOption.isSome := by decide +kernel
  have hread : ReadableFocus "price" foundPrices := by
    intro row hrow raw hraw
    have hsome := (Option.all_eq_true _ _).1 (hall row hrow) raw hraw
    obtain ⟨v, hv⟩ := Option.isSome_iff_exists.1 hsome
    exact ⟨v, ok_of_toOption hv⟩
  obtain ⟨least, greatest, hleast, hgreatest, hfirst, hlast, -⟩ :=
    Aggregation.reduce_extreme hread
  have hmin : (Aggregation.min.reduce "price" foundPrices).toOption
      = some [⟨[("price", " 20 "), ("shop", "south")]⟩] := by decide +kernel
  have hmax : (Aggregation.max.reduce "price" foundPrices).toOption
      = some [⟨[("price", "1e400")]⟩] := by decide +kernel
  obtain rfl := Except.ok.inj (hleast.symm.trans (ok_of_toOption hmin))
  obtain rfl := Except.ok.inj (hgreatest.symm.trans (ok_of_toOption hmax))
  exact ⟨hread, hfirst, hlast⟩

end Crosswalk
