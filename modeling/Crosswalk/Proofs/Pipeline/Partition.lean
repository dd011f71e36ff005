import Mathlib.Data.List.Flatten
import Crosswalk.Proofs.Pipeline.Groups

/-!
# Aggregations over groups

An aggregation over groups is an aggregation over the rows of each group by itself.  The groups are
found by going through the rows once, with a table of the groups found so far; what is found that
way are the rows with each text that occurs, in the order in which the texts come first.

* `rowsWith`, `textsOf` — **the rows of a group**, and the texts of the groups.
* `groupRows_eq` — the table is a selection for each text.
* `Aggregation.reduceGroups_eq_ok` — groups are reduced one by one.
* `Aggregation.apply_some_eq_ok` — when an aggregation over groups succeeds, and what it comes to.
* **`Aggregation.apply_grouped`** — an aggregation over groups against those over all rows.
-/

namespace Crosswalk

/-! ## Groups by selection -/

/-- **The rows of a group**, in the order in which they come.  A row without the label counts as
having the empty text. -/
def rowsWith (label text : String) (rows : List Row) : List Row :=
  rows.filter fun row => row.groupText label = text

/-- The texts of the groups, in the order in which they come first. -/
def textsOf (label : String) (rows : List Row) : List String :=
  (rows.map (·.groupText label)).eraseDups

section Selection

variable {label text : String} {rows : List Row}

lemma mem_map_groupText_iff : text ∈ rows.map (·.groupText label) ↔
    rowsWith label text rows ≠ [] := by
  rw [rowsWith, Ne, List.filter_eq_nil_iff]
  simp

lemma mem_textsOf : text ∈ textsOf label rows ↔ text ∈ rows.map (·.groupText label) :=
  List.mem_eraseDups

lemma nodup_textsOf : (textsOf label rows).Nodup := nodup_eraseDups _

lemma textsOf_concat (rows : List Row) (row : Row) :
    textsOf label (rows ++ [row])
      = if row.groupText label ∈ textsOf label rows then textsOf label rows
        else textsOf label rows ++ [row.groupText label] := by
  rw [textsOf, List.map_append, List.map_singleton, eraseDups_concat]
  simp only [mem_textsOf]
  rfl

lemma rowsWith_concat (rows : List Row) (row : Row) :
    rowsWith label text (rows ++ [row])
      = if row.groupText label = text then rowsWith label text rows ++ [row]
        else rowsWith label text rows := by
  rw [rowsWith, List.filter_append]
  by_cases h : row.groupText label = text <;> simp [rowsWith, h]

lemma rowsWith_of_notMem (h : text ∉ textsOf label rows) : rowsWith label text rows = [] :=
  not_not.1 fun hne => h (mem_textsOf.2 (mem_map_groupText_iff.2 hne))

/-- One more row, in a table that has a group for each of some texts. -/
lemma addToGroup_map {f : String → List Row} {row : Row} {texts : List String}
    (hd : texts.Nodup) :
    addToGroup text row (texts.map fun t => (t, f t))
      = if text ∈ texts then texts.map fun t => (t, if text = t then f t ++ [row] else f t)
        else (texts.map fun t => (t, f t)) ++ [(text, [row])] := by
  induction texts with
  | nil => rfl
  | cons t texts ih =>
      rw [List.nodup_cons] at hd
      rw [List.map_cons, addToGroup, ih hd.2]
      by_cases ht : t = text
      · subst ht
        have hrest : (texts.map fun u => (u, if t = u then f u ++ [row] else f u))
            = texts.map fun u => (u, f u) := by
          refine List.map_congr_left fun u hu => ?_
          rw [if_neg fun h : t = u => hd.1 (h ▸ hu)]
        simp [hrest]
      · by_cases hmem : text ∈ texts <;> simp [ht, Ne.symm ht, hmem]

/-- **The table of groups is a selection for each text**, in the order in which texts come first. -/
theorem groupRows_eq (label : String) (rows : List Row) :
    groupRows label rows
      = (textsOf label rows).map fun text => (text, rowsWith label text rows) := by
  induction rows using List.reverseRecOn with
  | nil => rfl
  | append_singleton rows row ih =>
      rw [groupRows_concat, ih, addToGroup_map nodup_textsOf, textsOf_concat]
      simp only [rowsWith_concat]
      split
      · rfl
      · next hnew =>
          have hold : ∀ text ∈ textsOf label rows, row.groupText label ≠ text :=
            fun text htext heq => hnew (heq ▸ htext)
          rw [List.map_append, List.map_singleton, if_pos rfl, rowsWith_of_notMem hnew,
            List.nil_append]
          congr 1
          exact List.map_congr_left fun text htext => by rw [if_neg (hold text htext)]

end Selection

section Labelled

variable {label text : String}

/-- A row that has got the text of a group is of that group. -/
@[simp] lemma Row.groupText_set (row : Row) (label text : String) :
    (row.set label text).groupText label = text := by
  rw [Row.groupText, Row.get?_set_self, Option.getD_some]

lemma rowsWith_map_set (t : String) (rows : List Row) :
    rowsWith label text (rows.map (·.set label t))
      = if t = text then rows.map (·.set label text) else [] := by
  by_cases h : t = text
  · simp [rowsWith, List.filter_map, Function.comp_def, h]
  · simp [rowsWith, List.filter_map, Function.comp_def, h]

/-- Among rows that have got different texts, those of a group are those that have got its text. -/
lemma rowsWith_flatMap_set {texts : List String} (hd : texts.Nodup) (h : text ∈ texts)
    (f : String → List Row) :
    rowsWith label text (texts.flatMap fun t => (f t).map (·.set label t))
      = (f text).map (·.set label text) := by
  have hselect : ∀ t, rowsWith label text ((f t).map (·.set label t))
      = if id t = text then (f text).map (·.set label text) else [] := by
    intro t
    rw [rowsWith_map_set, id_eq]
    split
    · next ht => rw [ht]
    · rfl
  rw [rowsWith, List.filter_flatMap]
  refine (List.flatMap_congr fun t _ => hselect t).trans ?_
  rw [flatMap_ite_of_nodup (by rwa [List.map_id]), if_pos (by rwa [List.map_id])]

end Labelled

namespace Aggregation

variable {a : Aggregation} {focus label text : String} {rows out : List Row}

/-! ## Groups one by one -/

/-- What a reduction comes to, if it succeeds. -/
def reduced (a : Aggregation) (focus : String) (rows : List Row) : List Row :=
  (a.reduce focus rows).toOption.getD []

lemma reduced_of_ok (h : a.reduce focus rows = .ok out) : a.reduced focus rows = out := by
  rw [reduced, h]
  rfl

/-- **Groups are reduced one by one**, and an aggregation over them succeeds if each reduction
does. -/
lemma reduceGroups_eq_ok {texts : List String} {members : String → List Row} :
    a.reduceGroups focus label (texts.map fun text => (text, members text)) = .ok out ↔
      (∀ text ∈ texts, a.reduce focus (members text) = .ok (a.reduced focus (members text))) ∧
        out = texts.flatMap fun text =>
          (a.reduced focus (members text)).map (·.noteGroup label text) := by
  induction texts generalizing out with
  | nil => simp [reduceGroups, eq_comm]
  | cons text texts ih =>
      rw [List.map_cons, reduceGroups, bind_eq_ok, List.forall_mem_cons, List.flatMap_cons]
      constructor
      · rintro ⟨r, hr, h⟩
        obtain ⟨others, hothers, h⟩ := bind_eq_ok.1 h
        cases h
        obtain ⟨hall, rfl⟩ := ih.1 hothers
        rw [reduced_of_ok hr]
        exact ⟨⟨hr, hall⟩, rfl⟩
      · rintro ⟨⟨hr, hall⟩, rfl⟩
        exact ⟨_, hr, by rw [ih.2 ⟨hall, rfl⟩, ok_bind]⟩

/-- On a row of a reduction of a group, noting the group is putting its text there. -/
lemma map_noteGroup_of_reduce (hne : focus ≠ label)
    (h : a.reduce focus (rowsWith label text rows) = .ok out) :
    out.map (·.noteGroup label text) = out.map (·.set label text) := by
  refine List.map_congr_left fun row hrow => ?_
  rw [Row.noteGroup]
  split
  · next hhas =>
      rcases reduce_rows h row hrow with hmem | ⟨value, rfl⟩
      · have htext : row.groupText label = text := of_decide_eq_true (List.mem_filter.1 hmem).2
        rw [Row.set_of_get? (htext ▸ Row.get?_groupText hhas)]
      · rw [Row.has_rowOf] at hhas
        exact absurd hhas.symm hne
  · rfl

/-- **An aggregation over groups** succeeds if the one over the rows of each group does, and has
their rows with the text of the group put on them. -/
theorem apply_some_eq_ok (hne : focus ≠ label) :
    a.apply focus (some label) rows = .ok out ↔
      (∀ text ∈ textsOf label rows, a.reduce focus (rowsWith label text rows)
        = .ok (a.reduced focus (rowsWith label text rows))) ∧
        out = (textsOf label rows).flatMap fun text =>
          (a.reduced focus (rowsWith label text rows)).map (·.set label text) := by
  rw [apply, groupRows_eq, reduceGroups_eq_ok]
  refine and_congr_right fun hall => ?_
  rw [List.flatMap_congr fun text htext => map_noteGroup_of_reduce hne (hall text htext)]

/-- An aggregate has one row at most, so its rows with a text on them come to that text, or to
none. -/
lemma map_groupText_reduced (h : a.reduce focus rows = .ok out) (label text : String) :
    (out.map (·.set label text)).map (·.groupText label) = if out = [] then [] else [text] := by
  rcases reduce_cases h with rfl | ⟨row, rfl, -⟩ <;> simp

/-- **Aggregations over groups**, against aggregations over the rows of each group.  The groups
that have a row are different, come in the order in which they come first, and are those whose rows
have an aggregate; the row of a group is this aggregate with the text of the group on it. -/
theorem apply_grouped (hne : focus ≠ label) (h : a.apply focus (some label) rows = .ok out) :
    (out.map (·.groupText label)).Nodup ∧
      (out.map (·.groupText label)).Sublist (textsOf label rows) ∧
      (∀ text ∈ textsOf label rows, ∃ alone,
        a.reduce focus (rowsWith label text rows) = .ok alone ∧
          (text ∈ out.map (·.groupText label) ↔ alone ≠ []) ∧
          rowsWith label text out = alone.map (·.set label text)) ∧
      ∀ row ∈ out, row.has label := by
  obtain ⟨hall, rfl⟩ := (apply_some_eq_ok hne).1 h
  let alone (text : String) : List Row := a.reduced focus (rowsWith label text rows)
  have htexts : (((textsOf label rows).flatMap fun text =>
      (alone text).map (·.set label text)).map (·.groupText label)).Sublist
        (textsOf label rows) := by
    rw [List.map_flatMap]
    conv_rhs => rw [← List.flatMap_singleton' (textsOf label rows)]
    refine List.Sublist.flatMap_right _ fun text htext => ?_
    rw [map_groupText_reduced (hall text htext)]
    split
    · exact List.nil_sublist _
    · exact List.Sublist.refl _
  refine ⟨htexts.nodup nodup_textsOf, htexts,
    fun text htext => ⟨alone text, hall text htext, ?_⟩, fun row hrow => ?_⟩
  · have hgroup : rowsWith label text ((textsOf label rows).flatMap fun t =>
        (alone t).map (·.set label t)) = (alone text).map (·.set label text) :=
      rowsWith_flatMap_set nodup_textsOf htext alone
    rw [mem_map_groupText_iff, hgroup]
    exact ⟨List.map_eq_nil_iff.not, rfl⟩
  · obtain ⟨text, -, hrow⟩ := List.mem_flatMap.1 hrow
    obtain ⟨source, -, rfl⟩ := List.mem_map.1 hrow
    exact Row.has_set.2 (Or.inl rfl)

end Aggregation

/-- Sales, one of them without a price and one without a shop. -/
def saleRows : List Row :=
  [⟨[("price", "3"), ("shop", "north")]⟩, ⟨[("shop", "south")]⟩, ⟨[("price", "4")]⟩,
    ⟨[("price", "5"), ("shop", "north")]⟩]

/-- The sums of the sales.  The south has none, and what has no shop is a group of its own. -/
theorem apply_grouped_sales :
    let sums : List Row :=
      [⟨[("price", "8"), ("shop", "north")]⟩, ⟨[("price", "4"), ("shop", "")]⟩]
    "price" ≠ "shop" ∧ Aggregation.sum.apply "price" (some "shop") saleRows = .ok sums ∧
      (sums.map (·.groupText "shop")).Sublist (textsOf "shop" saleRows) ∧
      ∀ text ∈ textsOf "shop" saleRows, ∃ alone,
        Aggregation.sum.reduce "price" (rowsWith "shop" text saleRows) = .ok alone ∧
          (text ∈ ["north", ""] ↔ alone ≠ []) ∧
          rowsWith "shop" text sums = alone.map (·.set "shop" text) := by
  intro sums
  have hne : "price" ≠ "shop" := by decide
  have hsums : Aggregation.sum.apply "price" (some "shop") saleRows = .ok sums :=
    ok_of_toOption (by decide +kernel)
  obtain ⟨-, hsublist, hgroups, -⟩ := Aggregation.apply_grouped hne hsums
  exact ⟨hne, hsums, hsublist, hgroups⟩

end Crosswalk
