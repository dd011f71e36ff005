import Crosswalk.Proofs.Sequence
import Crosswalk.Proofs.Text.Padding
import Crosswalk.Query.Document

/-!
# Writing the fields of a query

How the fields of a node are written as texts, and that they are read as what was written.  Blanks
may stand around everything, also around the parts of a field.

* `IsTight`, `Step.IsPlain` — labels, names, remarks and steps that can be written.
* `LabelsText`, `StepsText`, `RemarkText`, `OutputText` — **the texts of fields.**
* `childrenOf_trim`, `stepsOf_trim` — blanks around a field do not count.
* `childrenOf_eq`, `stepsOf_eq_ok`, `thetaOf_eq`, `outputOf_eq_ok` — **fields are read as
  written.** -/

namespace Crosswalk

/-- A text that is not empty and has no blanks around it. -/
def IsTight (s : String) : Prop := s ≠ "" ∧ trim s = s

instance (s : String) : Decidable (IsTight s) := inferInstanceAs (Decidable (_ ∧ _))

/-- A field that is not given, or blank. -/
def IsAbsent (raw : Option String) : Prop := ∀ s ∈ raw, isBlankText s = true

instance (raw : Option String) : Decidable (IsAbsent raw) :=
  inferInstanceAs (Decidable (∀ s ∈ raw, isBlankText s = true))

lemma IsTight.not_blank {s t : String} (h : IsTight t) (hs : Padded s t) :
    isBlankText s = false := by
  rw [isBlankText_of_padded hs, ← Bool.not_eq_true, ← trim_eq_empty_iff, h.2]
  exact h.1

lemma IsTight.trim_eq {s t : String} (h : IsTight t) (hs : Padded s t) : trim s = t :=
  (trim_of_padded hs).trans h.2

lemma trim_trim (s : String) : trim (trim s) = trim s := (trim_of_padded (padded_trim s)).symm

lemma isBlankText_trim (s : String) : isBlankText (trim s) = isBlankText s :=
  (isBlankText_of_padded (padded_trim s)).symm

lemma present_of_absent {raw : Option String} (h : IsAbsent raw) : present raw = none := by
  cases raw with
  | none => rfl
  | some s => rw [present, Option.filter_some, h s rfl]; rfl

lemma present_of_not_blank {s : String} (h : isBlankText s = false) :
    present (some s) = some s := by
  rw [present, Option.filter_some, h]
  rfl

/-- The parts of a text that was joined from them. -/
lemma splitAll_of_intercalate {c : Char} {sep : String} (hsep : sep.toList = [c])
    {parts : List String} (hne : parts ≠ []) (h : ∀ part ∈ parts, c ∉ part.toList) :
    splitAll c (sep.intercalate parts).toList = parts.map String.toList := by
  rw [String.toList_intercalate, hsep]
  exact splitAll_intercalate (by simpa using hne) (by simpa using h)

/-- Blanks around texts bring no other character into them. -/
lemma notMem_of_padded {c : Char} (hc : isBlank c = false) {xs ys : List String}
    (h : List.Forall₂ Padded xs ys) (hys : ∀ t ∈ ys, c ∉ t.toList) :
    ∀ s ∈ xs, c ∉ s.toList := by
  intro s hs
  obtain ⟨t, ht, hpadded⟩ := exists_of_forall₂ h.flip s hs
  exact notMem_of_pads hc hpadded (hys t ht)

lemma map_trim_of_padded {xs ys : List String} (h : List.Forall₂ Padded xs ys)
    (hys : ∀ t ∈ ys, IsTight t) : xs.map trim = ys := by
  induction h with
  | nil => rfl
  | cons hx _ ih =>
      rw [List.forall_mem_cons] at hys
      rw [List.map_cons, ih hys.2, hys.1.trim_eq hx]

/-! ## Labels -/

/-- **How labels are written**: between commas, each with blanks around it. -/
def LabelsText (raw : Option String) (labels : List String) : Prop :=
  (labels = [] ∧ IsAbsent raw) ∨
    ∃ parts, raw = some (",".intercalate parts) ∧ List.Forall₂ Padded parts labels

/-- The labels between commas in a text that is not blank. -/
lemma childrenOf_of_not_blank {s : String} (h : isBlankText s = false) :
    childrenOf (some s) = ((splitAll ',' s.toList).map trimChars).map String.ofList := by
  rw [childrenOf, present_of_not_blank h, List.map_map]
  rfl

/-- Blanks around labels do not count. -/
lemma childrenOf_trim (raw : Option String) : childrenOf (raw.map trim) = childrenOf raw := by
  cases raw with
  | none => rfl
  | some s =>
      rw [Option.map_some]
      cases hblank : isBlankText s with
      | true =>
          have habsent : IsAbsent (some s) := by simpa [IsAbsent] using hblank
          have htrim : IsAbsent (some (trim s)) := by
            simpa [IsAbsent, isBlankText_trim] using hblank
          rw [childrenOf, childrenOf, present_of_absent habsent, present_of_absent htrim]
      | false =>
          rw [childrenOf_of_not_blank hblank,
            childrenOf_of_not_blank ((isBlankText_trim s).trans hblank),
            map_trimChars_of_pads (splitAll_of_pads rfl (padded_trim s))]

/-- **Labels are read as they were written.** -/
theorem childrenOf_eq {raw : Option String} {labels : List String} (h : LabelsText raw labels)
    (htight : ∀ l ∈ labels, IsTight l) (hcomma : ∀ l ∈ labels, ',' ∉ l.toList) :
    childrenOf raw = labels := by
  rcases h with ⟨rfl, habsent⟩ | ⟨parts, rfl, hparts⟩
  · rw [childrenOf, present_of_absent habsent]
  · cases hparts with
    | nil => rfl
    | @cons part label parts labels hpart hrest =>
        have hsplit : splitAll ',' (",".intercalate (part :: parts)).toList
            = (part :: parts).map String.toList :=
          splitAll_of_intercalate rfl (List.cons_ne_nil _ _)
            (notMem_of_padded rfl (.cons hpart hrest) hcomma)
        have hblank : isBlankText (",".intercalate (part :: parts)) = false := by
          -- a blank text would have one part only, a label without anything but blanks
          by_contra hblank
          rw [Bool.not_eq_false] at hblank
          rw [splitAll_of_notMem (notMem_of_all_isBlank rfl hblank), List.map_cons,
            List.cons.injEq] at hsplit
          have hnot := (htight label List.mem_cons_self).not_blank hpart
          rw [isBlankText, ← hsplit.1, ← isBlankText, hblank] at hnot
          cases hnot
        rw [childrenOf_of_not_blank hblank, hsplit, List.map_map, List.map_map]
        exact map_trim_of_padded (.cons hpart hrest) htight

/-! ## Steps -/

/-- The word in front of the colon. -/
def Step.kind : Step → String
  | aggregate _ => "aggregate"
  | filter _ => "filter"
  | map _ => "map"

/-- **What stands behind the colon**: the name of an aggregation, in any case, or the formula;
blanks around it do not count. -/
def Step.Argument : Step → String → Prop
  | aggregate a, argument => lowerText (trim argument) = a.name ∧ ';' ∉ argument.toList
  | filter e, argument => Padded argument e
  | map e, argument => Padded argument e

/-- **How a step is written**: its kind, a colon and its argument. -/
def Step.WrittenAs (step : Step) (segment : String) : Prop :=
  ∃ kind argument, segment = kind ++ ":" ++ argument ∧ Padded kind step.kind ∧
    step.Argument argument

/-- **The text of a step.** -/
def Step.segment (step : Step) : String :=
  step.kind ++ ":" ++
    match step with
    | aggregate a => a.name
    | filter e => e
    | map e => e

/-- **A step that can be written**: its formula is one, has no blanks around it and no semicolon. -/
def Step.IsPlain : Step → Prop
  | aggregate _ => True
  | filter e => trim e = e ∧ ';' ∉ e.toList ∧ ∃ f, Formula.compile e = .ok f
  | map e => trim e = e ∧ ';' ∉ e.toList ∧ ∃ f, Formula.compile e = .ok f

/-- The word in front of the colon has no blanks around it, and nothing in it separates. -/
lemma Step.kind_plain (step : Step) :
    trim step.kind = step.kind ∧ ':' ∉ step.kind.toList ∧ ';' ∉ step.kind.toList := by
  have h : ∀ kind ∈ ["aggregate", "filter", "map"],
      trim kind = kind ∧ ':' ∉ kind.toList ∧ ';' ∉ kind.toList := by decide
  cases step <;> exact h _ (by simp [kind])

/-- **How steps are written**: between semicolons; blank segments do not count. -/
def StepsText (raw : Option String) (steps : List Step) : Prop :=
  (steps = [] ∧ raw = none) ∨
    ∃ segments, raw = some (";".intercalate segments) ∧
      List.Forall₂ Step.WrittenAs steps (segments.filter fun s => !isBlankText s)

lemma splitFirst_of_notMem {sep : Char} {cs : List Char} (h : sep ∉ cs) :
    splitFirst sep cs = (cs, none) := by
  have hdrop : cs.dropWhile (· != sep) = [] := by
    rw [List.dropWhile_eq_nil_iff]
    intro c hc
    exact bne_iff_ne.2 fun heq => h (heq ▸ hc)
  rw [splitFirst, hdrop]

lemma splitFirst_append_cons {sep : Char} {cs : List Char} (h : sep ∉ cs) (rest : List Char) :
    splitFirst sep (cs ++ sep :: rest) = (cs, some rest) := by
  have hne : ∀ c ∈ cs, (c != sep) = true := fun c hc => bne_iff_ne.2 fun heq => h (heq ▸ hc)
  have hsep : ∀ c ∈ (sep :: rest).head?, (c != sep) = false := by simp
  obtain ⟨htake, hdrop⟩ := takeWhile_dropWhile_append hne hsep
  rw [splitFirst, htake, hdrop]

/-- Blanks around a step do not count. -/
lemma Step.ofSegment_of_pads {cs inner : List Char} (h : Pads cs inner) :
    Step.ofSegment cs = Step.ofSegment inner := by
  by_cases hmem : ':' ∈ inner
  · obtain ⟨kind, argument, rfl, hkind⟩ := List.eq_append_cons_of_mem hmem
    obtain ⟨before, behind, hbefore, hbehind, rfl⟩ := h
    have hfront : Pads (before ++ kind) kind := ⟨before, [], hbefore, rfl, by simp⟩
    have hback : Pads (argument ++ behind) argument := ⟨[], behind, rfl, hbehind, rfl⟩
    have hsplit : before ++ (kind ++ ':' :: argument) ++ behind
        = (before ++ kind) ++ ':' :: (argument ++ behind) := by simp
    rw [hsplit, Step.ofSegment, Step.ofSegment,
      splitFirst_append_cons (notMem_of_pads rfl hfront hkind), splitFirst_append_cons hkind]
    simp only [trimChars_of_pads hfront, trimChars_of_pads hback]
  · rw [Step.ofSegment, Step.ofSegment, splitFirst_of_notMem (notMem_of_pads rfl h hmem),
      splitFirst_of_notMem hmem]
    simp only [trimChars_of_pads h]

/-- The text of a step is one way to write it. -/
lemma Step.writtenAs_segment (step : Step) : step.WrittenAs step.segment := by
  refine ⟨step.kind, _, rfl, Pads.refl _, ?_⟩
  cases step with
  | aggregate a => cases a <;> exact ⟨by decide, by decide⟩
  | filter e => exact Pads.refl _
  | map e => exact Pads.refl _

/-- A step is not blank. -/
lemma Step.WrittenAs.not_blank {step : Step} {segment : String} (h : step.WrittenAs segment) :
    isBlankText segment = false := by
  obtain ⟨kind, argument, rfl, -, -⟩ := h
  simp [isBlankText, isBlank]

lemma stepsText_segments (steps : List Step) :
    StepsText (some (";".intercalate (steps.map Step.segment))) steps := by
  have hfilter : (steps.map Step.segment).filter (fun s => !isBlankText s)
      = steps.map Step.segment := by
    refine List.filter_eq_self.2 fun s hs => ?_
    obtain ⟨step, -, rfl⟩ := List.mem_map.1 hs
    rw [step.writtenAs_segment.not_blank]
    rfl
  refine Or.inr ⟨_, rfl, ?_⟩
  rw [hfilter, List.forall₂_map_right_iff, List.forall₂_same]
  exact fun step _ => step.writtenAs_segment

/-- Blanks around steps do not count. -/
lemma stepsOf_trim (raw : Option String) : stepsOf (raw.map trim) = stepsOf raw := by
  cases raw with
  | none => rfl
  | some s =>
      have hparts : List.Forall₂ Pads (splitAll ';' s.toList) (splitAll ';' (trim s).toList) :=
        splitAll_of_pads rfl (padded_trim s)
      rw [Option.map_some, stepsOf, stepsOf]
      generalize splitAll ';' s.toList = parts at hparts
      generalize splitAll ';' (trim s).toList = inners at hparts
      induction hparts with
      | nil => rfl
      | cons hpart _ ih =>
          rw [List.filter_cons, List.filter_cons, all_isBlank_of_pads hpart]
          split
          · rw [List.mapM_cons, List.mapM_cons, ih, Step.ofSegment_of_pads hpart]
          · exact ih

lemma compile_empty : Formula.compile "" = .error (.parse .emptyFormula none) := by
  simp [Formula.compile, Formula.substitute, trimChars]

/-- **A step is read from its kind and its argument.** -/
lemma Step.ofKind_eq_ok {step : Step} {argument : String} (h : step.Argument argument)
    (hplain : step.IsPlain) : Step.ofKind step.kind (trim argument) = .ok step := by
  have hformula {e : String} (hcompile : ∃ f, Formula.compile e = .ok f) : e.isEmpty = false := by
    rw [← Bool.not_eq_true, String.isEmpty_iff]
    rintro rfl
    obtain ⟨f, hf⟩ := hcompile
    rw [compile_empty] at hf
    cases hf
  cases step with
  | aggregate a =>
      have hfind : Aggregation.ofToken? (trim argument) = some a := by
        rw [Aggregation.ofToken?, trim_trim, h.1]
        cases a <;> rfl
      rw [Step.ofKind, kind, if_pos rfl, hfind]
  | filter e =>
      obtain ⟨htrim, -, f, hf⟩ := hplain
      rw [trim_of_padded h, htrim, Step.ofKind, kind, if_neg (by decide), if_pos rfl,
        hformula ⟨f, hf⟩, hf]
      rfl
  | map e =>
      obtain ⟨htrim, -, f, hf⟩ := hplain
      rw [trim_of_padded h, htrim, Step.ofKind, kind, if_neg (by decide), if_neg (by decide),
        if_pos rfl, hformula ⟨f, hf⟩, hf]
      rfl

/-- **A step is read as it was written.** -/
lemma Step.ofSegment_eq_ok {step : Step} {segment : String} (h : step.WrittenAs segment)
    (hplain : step.IsPlain) : Step.ofSegment segment.toList = .ok step := by
  obtain ⟨kind, argument, rfl, hkind, hargument⟩ := h
  obtain ⟨htrim, hcolon, -⟩ := step.kind_plain
  have hsplit : (kind ++ ":" ++ argument).toList = kind.toList ++ ':' :: argument.toList := by simp
  rw [hsplit, Step.ofSegment, splitFirst_append_cons (notMem_of_pads rfl hkind hcolon)]
  show Step.ofKind (trim kind) (trim argument) = _
  rw [trim_of_padded hkind, htrim, Step.ofKind_eq_ok hargument hplain]

lemma Step.notMem_of_writtenAs {step : Step} {segment : String} (h : step.WrittenAs segment)
    (hplain : step.IsPlain) : ';' ∉ segment.toList := by
  obtain ⟨kind, argument, rfl, hkind, hargument⟩ := h
  have hsemicolon : ';' ∉ argument.toList := by
    cases step with
    | aggregate a => exact hargument.2
    | filter e => exact notMem_of_pads rfl hargument hplain.2.1
    | map e => exact notMem_of_pads rfl hargument hplain.2.1
  have hfront : ';' ∉ kind.toList := notMem_of_pads rfl hkind step.kind_plain.2.2
  simp [hfront, hsemicolon]

/-- **Steps are read as they were written.** -/
theorem stepsOf_eq_ok {raw : Option String} {steps : List Step} (h : StepsText raw steps)
    (hplain : ∀ step ∈ steps, step.IsPlain) : stepsOf raw = .ok steps := by
  rcases h with ⟨rfl, rfl⟩ | ⟨segments, rfl, hsegments⟩
  · rfl
  · have hwritten := (List.forall₂_and_left _ _).2 ⟨hplain, hsegments⟩
    have hsemicolon : ∀ segment ∈ segments, ';' ∉ segment.toList := by
      intro segment hsegment
      cases hblank : isBlankText segment with
      | true => exact notMem_of_all_isBlank rfl hblank
      | false =>
          obtain ⟨step, -, hstep, hstepText⟩ := exists_of_forall₂ hwritten segment
            (List.mem_filter.2 ⟨hsegment, by simpa using hblank⟩)
          exact Step.notMem_of_writtenAs hstepText hstep
    cases segments with
    | nil =>
        cases hsegments
        rfl
    | cons segment segments =>
        rw [stepsOf, splitAll_of_intercalate rfl (List.cons_ne_nil _ _) hsemicolon, List.filter_map,
          mapM_eq_ok, List.forall₂_map_left_iff]
        exact List.Forall₂.flip
          (hwritten.imp fun step text h => Step.ofSegment_eq_ok h.2 h.1)

/-! ## Remarks and reports -/

/-- **How a remark is written.** -/
def RemarkText (raw theta : Option String) : Prop :=
  (theta = none ∧ IsAbsent raw) ∨ ∃ s t, raw = some s ∧ theta = some t ∧ Padded s t

/-- **How it is written that a node is reported, or not**: in any case. -/
def OutputText (raw : Option String) (output : Bool) : Prop :=
  (output = false ∧ IsAbsent raw) ∨
    ∃ s, raw = some s ∧
      lowerText (trim s) ∈ if output then ["yes", "true"] else ["no", "false"]

/-- **A remark is read as it was written.** -/
theorem thetaOf_eq {raw theta : Option String} (h : RemarkText raw theta)
    (htight : ∀ t ∈ theta, IsTight t) : thetaOf raw = theta := by
  rcases h with ⟨rfl, habsent⟩ | ⟨s, t, rfl, rfl, hs⟩
  · rw [thetaOf, present_of_absent habsent]
    rfl
  · rw [thetaOf, present_of_not_blank ((htight t rfl).not_blank hs), Option.map_some,
      (htight t rfl).trim_eq hs]

/-- Blanks around a remark do not count. -/
lemma thetaOf_trim (raw : Option String) : thetaOf (raw.map trim) = thetaOf raw := by
  cases raw with
  | none => rfl
  | some s =>
      cases hblank : isBlankText s <;>
        simp [thetaOf, present, Option.filter_some, isBlankText_trim, hblank, trim_trim]

/-- **Whether a node is reported is read as it was written.** -/
theorem outputOf_eq_ok {raw : Option String} {output : Bool} (h : OutputText raw output) :
    outputOf (raw.map trim) = .ok output := by
  rcases h with ⟨rfl, habsent⟩ | ⟨s, rfl, hs⟩
  · have hempty : trim ((raw.map trim).getD "") = "" := by
      cases raw with
      | none => rfl
      | some s => exact (trim_trim s).trans (trim_eq_empty_iff.2 (habsent s rfl))
    rw [outputOf, hempty]
    rfl
  · rw [outputOf, Option.map_some, Option.getD_some, trim_trim]
    cases output with
    | false =>
        have htoken : lowerText (trim s) = "no" ∨ lowerText (trim s) = "false" := by
          simpa using hs
        rcases htoken with htoken | htoken <;> rw [htoken] <;> rfl
    | true =>
        have htoken : lowerText (trim s) = "yes" ∨ lowerText (trim s) = "true" := by
          simpa using hs
        rcases htoken with htoken | htoken <;> rw [htoken] <;> rfl

end Crosswalk
