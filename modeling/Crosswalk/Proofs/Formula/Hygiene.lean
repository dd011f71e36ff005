import Crosswalk.Proofs.Formula.Cuts
import Crosswalk.Proofs.Formula.Tokens

/-!
# Which words of a formula read a row

A placeholder is replaced by a name before the text is parsed.  Nothing keeps the author of a
formula from typing such a name, or from going on with one behind a placeholder: then a word that
is not the name of a placeholder reads a row.  This is the only exception.

* `exists_hole_of_lookup` — a word that stands for a label, and of which no part is typed, is the
  name of one placeholder.
* `WordKind` — what a word of a formula is.
* **`compile_words`** — the words of a formula, and that it reads what they stand for.
* `compile_captured` — a name that is typed, and that reads a label.
-/

namespace Crosswalk.Formula

/-! ## Names that stand for labels -/

section Names

variable {labels : List String} {own : List Piece} {id w label : String} {i : Nat}

/-- A name that stands for a label begins with an underscore. -/
lemma head?_of_isSome_lookup (h : ((bindings labels).lookup id).isSome) :
    id.toList.head? = some '_' := by
  obtain ⟨i, -, rfl⟩ := isSome_lookup_bindings.1 h
  rw [toList_bindingName]
  rfl

/-- No word of formulas and no function does. -/
lemma isFree_bindings (labels : List String) : IsFree (bindings labels) := by
  have hnone : ∀ id : String, id.toList.head? ≠ some '_' →
      (bindings labels).lookup id = none := by
    intro id hid
    cases h : (bindings labels).lookup id with
    | none => rfl
    | some label => exact absurd (head?_of_isSome_lookup (by rw [h]; rfl)) hid
  constructor
  · have hwords : ∀ w ∈ formulaWords, (normalForm w).toList.head?
        ≠ some '_' := by decide +kernel
    exact fun w hw => hnone _ (hwords w hw)
  · have hnames : ∀ id ∈ Function.names.map Prod.fst, id.toList.head? ≠ some '_' := by decide
    exact fun id hid => hnone id (hnames id (isSome_lookup_iff.1 hid))

lemma IsNameChar.toNat_lt {c : Char} (h : IsNameChar c) : c.toNat < 0x80 := by
  rcases h with rfl | rfl | hdigit
  · decide
  · decide
  · exact Nat.lt_of_le_of_lt (Char.isDigit_iff_toNat.1 hdigit).2 (by decide)

/-- A name that is made of the characters of names is in its normal form. -/
lemma normalForm_of_isNameChar (h : ∀ c ∈ w.toList, IsNameChar c) : normalForm w = w := by
  rw [normalForm]
  refine if_pos ?_
  rw [List.all_map, List.all_eq_true]
  exact fun c hc => decide_eq_true (h c hc).toNat_lt

/-- Without typed characters there are only the characters of names. -/
lemma isNameChar_of_mem_expand (htyped : ∀ c, .typed c ∉ own) {c : Char}
    (hc : c ∈ expand labels own) : IsNameChar c := by
  obtain ⟨p, hp, hc⟩ := List.mem_flatMap.1 hc
  cases p with
  | typed x => exact absurd hp (htyped x)
  | hole label => exact isNameChar_of_mem hc

/-- The name of a label is made of one placeholder, if of placeholders alone. -/
lemma eq_hole_of_expand (htyped : ∀ c, .typed c ∉ own)
    (h : expand labels own = (bindingName i).toList) :
    ∃ label, own = [.hole label] ∧ labels.idxOf label = i := by
  cases own with
  | nil =>
      rw [toList_bindingName] at h
      cases h
  | cons p rest =>
      cases p with
      | typed c => exact absurd List.mem_cons_self (htyped c)
      | hole label =>
          cases rest with
          | nil =>
              refine ⟨label, rfl, bindingName_injective (String.toList_inj.1 ?_)⟩
              simpa [expand, Piece.chars] using h
          | cons q rest =>
              cases q with
              | typed c => exact absurd (List.mem_cons_of_mem _ List.mem_cons_self) (htyped c)
              | hole other =>
                  -- a second name would bring an underscore behind the first one
                  have htail : '_' ∈ (bindingName i).toList.tail := by
                    rw [← h, expand_hole, expand_hole, toList_bindingName, toList_bindingName]
                    simp
                  rcases of_mem_tail htail with hv | hdigit
                  · cases hv
                  · cases hdigit

/-- **A word that stands for a label is the name of one placeholder, and stands for its label**,
unless a part of it is typed. -/
lemma exists_hole_of_lookup (htyped : ∀ c, .typed c ∉ own) (hown : expand labels own = w.toList)
    (hlabel : ((bindings labels).lookup (normalForm w)).isSome) :
    ∃ label, own = [.hole label] ∧ (bindings labels).lookup (normalForm w) = some label := by
  have hword : normalForm w = w := normalForm_of_isNameChar fun c hc =>
    isNameChar_of_mem_expand htyped (hown ▸ hc)
  rw [hword] at hlabel ⊢
  obtain ⟨i, hi, rfl⟩ := isSome_lookup_bindings.1 hlabel
  obtain ⟨label, rfl, rfl⟩ := eq_hole_of_expand htyped hown
  refine ⟨label, rfl, lookup_bindingName ?_⟩
  rw [List.getElem?_eq_getElem hi, List.getElem_idxOf]

end Names

/-! ## Formulas -/

/-- **What a word of a formula is**, among the cuts of the source. -/
inductive WordKind (labels : List String) (before : List Cut) (cut : Cut) (after : List Cut)
    (w : String) : Prop where
  /-- One of the words of formulas. -/
  | formula (hw : w ∈ formulaWords)
  /-- The name of a function, which is called here. -/
  | function (hw : (Function.ofName? (normalForm w)).isSome)
      (hcalled : IsCalled (before.map Cut.token) (after.map Cut.token))
  /-- The name of one placeholder, whose label is read. -/
  | placeholder (label : String) (hown : cut.own = [.hole label])
      (hread : cut.token.label? (bindings labels) = some label)
  /-- A name of which a part is typed, and what it stands for is read. -/
  | captured (htyped : ∃ c, .typed c ∈ cut.own)
      (hread : (cut.token.label? (bindings labels)).isSome)

/-- **The words of a formula and what it reads.**  The tokens of a formula are cut out of the
pieces of its source.  A word is one of the words of formulas, the name of a function that is
called, or the name of one placeholder, whose label is read; or else its author has typed a part of
the name of a label, and what this name stands for is read.  The labels that the formula reads are
those that its words stand for, one for each. -/
theorem compile_words {source : String} {f : Formula} (h : compile source = .ok f) :
    ∃ cuts r, Run f.labels ⟨0, true, sourcePieces source⟩ cuts r ∧ r.AtEnd f.labels ∧
      f.term.fields.Perm (cuts.filterMap fun cut => cut.token.label? (bindings f.labels)) ∧
        ∀ before cut after w, cuts = before ++ cut :: after → cut.token = .word w →
          expand f.labels cut.own = w.toList ∧ WordKind f.labels before cut after w := by
  obtain ⟨-, ts, tree, term, hts, htree, hterm, rfl⟩ := compile_eq_ok_iff.1 h
  obtain ⟨cuts, r, hrun, hend, rfl⟩ := exists_run hts
  have haccounts := Syntax.accounts_of_ofTokens? (isFree_bindings _) htree hterm
  refine ⟨cuts, r, hrun, hend, ?_, fun before cut after w hcuts hw => ?_⟩
  · have hlabels := haccounts.labels
    rw [List.filterMap_map] at hlabels
    rw [Term.fields_guarded]
    exact hlabels
  · have hown := hrun.expand_own (hcuts ▸ by simp) hw
    refine ⟨hown, ?_⟩
    have hplaced := haccounts.words (before.map Cut.token) w (after.map Cut.token)
      (by rw [hcuts, List.map_append, List.map_cons, hw])
    have hread : cut.token.label? (bindings (sourceLabels source))
        = (bindings (sourceLabels source)).lookup (normalForm w) := by
      rw [hw]
      rfl
    rcases hplaced with hformula | ⟨hfunction, hcalled⟩ | hlabel
    · exact .formula hformula
    · exact .function hfunction hcalled
    · by_cases htyped : ∃ c, .typed c ∈ cut.own
      · exact .captured htyped (hread ▸ hlabel)
      · obtain ⟨label, hhole, hlookup⟩ :=
          exists_hole_of_lookup (not_exists.1 htyped) hown hlabel
        exact .placeholder label hhole (hread.trans hlookup)

/-- The three places of a formula that read a row come from its three placeholders. -/
theorem compile_words_shout : ∃ f cuts r, compile shout = .ok f ∧
    f.term.fields = ["count", "name", "name"] ∧
      Run f.labels ⟨0, true, sourcePieces shout⟩ cuts r ∧ r.AtEnd f.labels ∧
        ["count", "name", "name"].Perm
          (cuts.filterMap fun cut => cut.token.label? (bindings f.labels)) ∧
            ∀ before cut after w, cuts = before ++ cut :: after → cut.token = .word w →
              expand f.labels cut.own = w.toList ∧ WordKind f.labels before cut after w := by
  have hcompiles : (compile shout).toOption.map (fun f => f.term.fields)
      = some ["count", "name", "name"] := by decide +kernel
  obtain ⟨f, hf, hfields⟩ := Option.map_eq_some_iff.1 hcompiles
  obtain ⟨cuts, r, hrun, hend, hperm, hwords⟩ := compile_words (ok_of_toOption hf)
  rw [hfields] at hperm
  exact ⟨f, cuts, r, ok_of_toOption hf, hfields, hrun, hend, hperm, hwords⟩

/-- **A name can be captured.**  What is typed behind the only placeholder of this source is no
word of formulas and no function, and it reads the label of the placeholder. -/
theorem compile_captured : ∃ f, compile "$A$ + _v0" = .ok f ∧
    sourcePieces "$A$ + _v0" = .hole "A" :: " + _v0".toList.map .typed ∧
      "_v0" ∉ formulaWords ∧ Function.ofName? (normalForm "_v0") = none ∧
        f.term.fields = ["A", "A"] := by
  have hcompiles : (compile "$A$ + _v0").toOption.map (fun f => f.term.fields)
      = some ["A", "A"] := by decide +kernel
  obtain ⟨f, hf, hfields⟩ := Option.map_eq_some_iff.1 hcompiles
  exact ⟨f, ok_of_toOption hf, by decide +kernel, by decide, by decide +kernel, hfields⟩

end Crosswalk.Formula
