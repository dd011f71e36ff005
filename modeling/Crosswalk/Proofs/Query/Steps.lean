import Crosswalk.Proofs.Formula.Whitelist
import Crosswalk.Proofs.Query.Fields

/-!
# Reading steps

Steps are read from a text exactly if it is one that they are written as; every segment of the text
that is not blank is a step then, none is left out or cut short, and their order is kept.  Else the
first segment that is no step decides how reading fails.

* `Formula.IsUntold` — a formula that is refused without a word.
* `Step.Misses` — **why a segment is no step.**
* `Step.ofSegment_total` — a segment is a step or misses it.
* **`stepsOf_iff`** — what comes of any text.
-/

namespace Crosswalk

/-! ## Formulas that are refused -/

namespace Formula

/-- **A formula that is refused without a word**: a call that is not supported has a target which
cannot be written. -/
def IsUntold (source : String) : Prop :=
  ∃ tree,
    Syntax.ofText? (String.ofList (substitute [] (trimChars source.toList)).1) = some tree ∧
    ∃ target, .unsupportedCall target
        ∈ tree.problems (bindings (substitute [] (trimChars source.toList)).2) ∧
      unwritable ∈ target.toList

lemma any_isUnwritable {problems : List Problem} :
    problems.any Problem.isUnwritable = true ↔
      ∃ target, .unsupportedCall target ∈ problems ∧ unwritable ∈ target.toList := by
  rw [List.any_eq_true]
  constructor
  · rintro ⟨p, hp, h⟩
    cases p with
    | unsupportedCall target =>
        refine ⟨target, hp, ?_⟩
        simpa [Problem.isUnwritable] using h
    | _ => cases h
  · rintro ⟨target, hp, h⟩
    refine ⟨_, hp, ?_⟩
    simpa [Problem.isUnwritable] using h

/-- **How a formula is refused**: as a text that is none, unless it is refused without a word. -/
lemma compile_eq_error {source : String} {e : Error} (h : compile source = .error e) :
    (∃ p, e = .parse p none) ∧ ¬ IsUntold source ∨
      e = .plain (.fault .wrongValue) ∧ IsUntold source := by
  rw [compile] at h
  unfold IsUntold
  generalize substitute [] (trimChars source.toList) = found at h ⊢
  obtain ⟨chars, labels⟩ := found
  dsimp only at h ⊢
  split at h
  · next hempty =>
    cases h
    rw [List.isEmpty_iff.1 hempty, ofText?_nil]
    refine Or.inl ⟨⟨_, rfl⟩, ?_⟩
    rintro ⟨tree, htree, -⟩
    cases htree
  · split at h
    · next hnone =>
      cases h
      rw [hnone]
      refine Or.inl ⟨⟨_, rfl⟩, ?_⟩
      rintro ⟨tree, htree, -⟩
      cases htree
    · next tree htree =>
      rw [htree]
      split at h
      · cases h
      · rw [Except.error.injEq, refusal] at h
        split at h
        · next hany =>
          subst h
          exact Or.inr ⟨rfl, tree, rfl, any_isUnwritable.1 hany⟩
        · next hany =>
          subst h
          refine Or.inl ⟨⟨_, rfl⟩, ?_⟩
          rintro ⟨tree', htree', htarget⟩
          cases htree'
          exact hany (any_isUnwritable.2 htarget)

end Formula

/-! ## Segments -/

namespace Step

/-- The kinds of steps that have a formula. -/
def formulaKinds : List String := ["filter", "map"]

/-- **A segment that is a step.** -/
def IsForm (segment : String) : Prop := ∃ step : Step, step.WrittenAs segment ∧ step.IsPlain

/-- **Why a segment is no step**, and how this is told. -/
inductive Misses : String → Error → Prop where
  /-- Nothing separates a kind from what follows. -/
  | colon {segment : String} (h : ':' ∉ segment.toList) :
      Misses segment (.parse (.stepWithoutColon (trim segment)) none)
  /-- There are no steps of the kind. -/
  | kind {kind argument : String} (hcolon : ':' ∉ kind.toList)
      (h : trim kind ∉ "aggregate" :: formulaKinds) :
      Misses (kind ++ ":" ++ argument) (.parse (.unknownStep (trim kind)) none)
  /-- There is no aggregation of the name. -/
  | aggregation {kind argument : String} (hkind : trim kind = "aggregate")
      (h : ∀ a : Aggregation, lowerText (trim argument) ≠ a.name) :
      Misses (kind ++ ":" ++ argument) (.parse (.unknownAggregation (trim argument)) none)
  /-- The formula is missing. -/
  | missing {kind argument : String} (hkind : trim kind ∈ formulaKinds)
      (h : isBlankText argument = true) :
      Misses (kind ++ ":" ++ argument) (.parse (.missingFormula (trim kind)) none)
  /-- The formula is refused. -/
  | formula {kind argument : String} {e : Error} (hkind : trim kind ∈ formulaKinds)
      (hargument : isBlankText argument = false) (h : Formula.compile (trim argument) = .error e) :
      Misses (kind ++ ":" ++ argument) e

/-- **A segment with a formula that is refused without a word.** -/
def IsUntold (segment : String) : Prop :=
  ∃ kind argument, segment = kind ++ ":" ++ argument ∧ trim kind ∈ formulaKinds ∧
    Formula.IsUntold (trim argument)

/-- How a segment misses is told, unless its formula is refused without a word. -/
lemma Misses.told {segment : String} {e : Error} (h : Misses segment e) :
    (∃ p, e = .parse p none) ∨ e = .plain (.fault .wrongValue) ∧ IsUntold segment := by
  cases h with
  | formula hkind hargument h =>
      rcases Formula.compile_eq_error h with ⟨hparse, -⟩ | ⟨hfault, huntold⟩
      · exact Or.inl hparse
      · exact Or.inr ⟨hfault, _, _, rfl, hkind, huntold⟩
  | _ => exact Or.inl ⟨_, rfl⟩

/-- The kind of a step has no colon, whatever blanks are around it. -/
lemma notMem_of_trim {kind : String} (h : trim kind ∈ "aggregate" :: formulaKinds) :
    ':' ∉ kind.toList := by
  have hkinds : ∀ k ∈ "aggregate" :: formulaKinds, ':' ∉ k.toList := by decide
  exact notMem_of_pads rfl (padded_trim kind) (hkinds _ h)

lemma ofSegment_append {kind : String} (hcolon : ':' ∉ kind.toList) (argument : String) :
    ofSegment (kind ++ ":" ++ argument).toList = ofKind (trim kind) (trim argument) := by
  have hsplit : (kind ++ ":" ++ argument).toList = kind.toList ++ ':' :: argument.toList := by simp
  rw [hsplit, ofSegment, splitFirst_append_cons hcolon]
  rfl

lemma ofToken?_eq_none {token : String} :
    Aggregation.ofToken? token = none ↔
      ∀ a : Aggregation, lowerText (trim token) ≠ a.name := by
  rw [Aggregation.ofToken?, List.find?_eq_none]
  constructor
  · intro h a heq
    have hmem : a ∈ Aggregation.all := by cases a <;> decide
    exact h a hmem (by simp [heq])
  · intro h a _
    simpa [eq_comm] using h a

/-- The step with a formula of a kind. -/
def ofFormula (kind formula : String) : Step :=
  if kind = "filter" then .filter formula else .map formula

/-- What comes of a formula behind the kind of a step. -/
lemma ofKind_formula {kind : String} (h : kind ∈ formulaKinds) (argument : String) :
    ofKind kind argument = if argument.isEmpty then .error (.parse (.missingFormula kind) none)
      else (Formula.compile argument).map fun _ => ofFormula kind argument := by
  have hcases : kind = "filter" ∨ kind = "map" := by simpa [formulaKinds] using h
  rcases hcases with rfl | rfl
  · rw [ofKind, if_neg (by decide), if_pos rfl]
    cases argument.isEmpty <;> cases Formula.compile argument <;> rfl
  · rw [ofKind, if_neg (by decide), if_neg (by decide), if_pos rfl]
    cases argument.isEmpty <;> cases Formula.compile argument <;> rfl

lemma kind_ofFormula {kind : String} (h : kind ∈ formulaKinds) (formula : String) :
    (ofFormula kind formula).kind = kind := by
  have hcases : kind = "filter" ∨ kind = "map" := by simpa [formulaKinds] using h
  rcases hcases with rfl | rfl <;> rfl

/-- A step with a formula of either kind. -/
lemma forall_ofFormula {P : Step → Prop} {formula : String} (hfilter : P (.filter formula))
    (hmap : P (.map formula)) (kind : String) : P (ofFormula kind formula) := by
  rw [ofFormula]
  split
  · exact hfilter
  · exact hmap

lemma isEmpty_trim (s : String) : (trim s).isEmpty = isBlankText s := by
  rw [Bool.eq_iff_iff, String.isEmpty_iff, trim_eq_empty_iff]

/-- **A segment that misses is not read.** -/
lemma Misses.ofSegment {segment : String} {e : Error} (h : Misses segment e) :
    ofSegment segment.toList = .error e := by
  cases h with
  | colon h =>
      rw [Step.ofSegment, splitFirst_of_notMem h]
      rfl
  | @kind kind argument hcolon h =>
      have hne : ∀ k ∈ "aggregate" :: formulaKinds, trim kind ≠ k :=
        fun k hk heq => h (heq ▸ hk)
      rw [ofSegment_append hcolon, ofKind, if_neg (hne _ (by decide)), if_neg (hne _ (by decide)),
        if_neg (hne _ (by decide))]
  | aggregation hkind h =>
      have hcolon := notMem_of_trim (by rw [hkind]; exact List.mem_cons_self)
      have hnone := ofToken?_eq_none.2 fun a => (congrArg lowerText (trim_trim _)).trans_ne (h a)
      rw [ofSegment_append hcolon, ofKind, if_pos hkind, hnone]
  | missing hkind h =>
      rw [ofSegment_append (notMem_of_trim (List.mem_cons_of_mem _ hkind)), ofKind_formula hkind,
        isEmpty_trim, if_pos h]
  | formula hkind hargument h =>
      rw [ofSegment_append (notMem_of_trim (List.mem_cons_of_mem _ hkind)), ofKind_formula hkind,
        isEmpty_trim, hargument, h]
      rfl

/-- **A segment is a step, or it misses.** -/
lemma ofSegment_total {segment : String} (h : ';' ∉ segment.toList) :
    (∃ step : Step, Step.ofSegment segment.toList = .ok step ∧ step.WrittenAs segment ∧
      step.IsPlain) ∨
      ∃ e, Misses segment e := by
  by_cases hcolon : ':' ∈ segment.toList
  · obtain ⟨front, back, hsplit, hfront⟩ := List.eq_append_cons_of_mem hcolon
    obtain ⟨kind, rfl⟩ : ∃ kind, front = String.toList kind := ⟨.ofList front, by simp⟩
    obtain ⟨argument, rfl⟩ : ∃ argument, back = String.toList argument :=
      ⟨.ofList back, by simp⟩
    obtain rfl : segment = kind ++ ":" ++ argument := by
      rw [← String.toList_inj, hsplit]
      simp
    have hsemicolon : ';' ∉ argument.toList := fun hmem => h (by simp [hmem])
    by_cases hkind : trim kind = "aggregate"
    · cases hfound : Aggregation.ofToken? (trim argument) with
      | none =>
          have hnone := ofToken?_eq_none.1 hfound
          rw [trim_trim] at hnone
          exact Or.inr ⟨_, .aggregation hkind hnone⟩
      | some a =>
          have hname := List.find?_some hfound
          rw [trim_trim, decide_eq_true_eq] at hname
          refine Or.inl ⟨.aggregate a, ?_, ⟨kind, argument, rfl, ?_, hname.symm, hsemicolon⟩,
            trivial⟩
          · rw [ofSegment_append hfront, ofKind, if_pos hkind, hfound]
          · have hpadded := padded_trim kind
            rwa [hkind] at hpadded
    · by_cases hformula : trim kind ∈ formulaKinds
      · cases hblank : isBlankText argument with
        | true => exact Or.inr ⟨_, .missing hformula hblank⟩
        | false =>
            cases hcompile : Formula.compile (trim argument) with
            | error e => exact Or.inr ⟨e, .formula hformula hblank hcompile⟩
            | ok f =>
                have hplain : trim (trim argument) = trim argument ∧
                    ';' ∉ (trim argument).toList ∧
                    ∃ f, Formula.compile (trim argument) = .ok f :=
                  ⟨trim_trim _, fun hmem => hsemicolon (mem_of_pads (padded_trim argument) hmem),
                    f, hcompile⟩
                have hstep : (ofFormula (trim kind) (trim argument)).Argument argument ∧
                    (ofFormula (trim kind) (trim argument)).IsPlain :=
                  forall_ofFormula (P := fun step => step.Argument argument ∧ step.IsPlain)
                    ⟨padded_trim argument, hplain⟩ ⟨padded_trim argument, hplain⟩ _
                refine Or.inl ⟨_, ?_, ⟨kind, argument, rfl, ?_, hstep.1⟩, hstep.2⟩
                · rw [ofSegment_append hfront, ofKind_formula hformula, isEmpty_trim, hblank,
                    hcompile]
                  rfl
                · rw [kind_ofFormula hformula]
                  exact padded_trim kind
      · refine Or.inr ⟨_, .kind hfront ?_⟩
        rw [List.mem_cons, not_or]
        exact ⟨hkind, hformula⟩
  · exact Or.inr ⟨_, .colon hcolon⟩

section Read

variable {segment : String}

/-- **A segment that is read** is written as the step that comes of it. -/
lemma written_of_ofSegment {step : Step} (h : ';' ∉ segment.toList)
    (hread : Step.ofSegment segment.toList = .ok step) :
    step.WrittenAs segment ∧ step.IsPlain := by
  rcases ofSegment_total h with ⟨step', hstep, hwritten⟩ | ⟨e, hmisses⟩
  · rw [hread, Except.ok.injEq] at hstep
    exact hstep ▸ hwritten
  · rw [hmisses.ofSegment] at hread
    cases hread

lemma isForm_iff (h : ';' ∉ segment.toList) :
    (∃ step, Step.ofSegment segment.toList = .ok step) ↔ IsForm segment :=
  ⟨fun ⟨step, hread⟩ => ⟨step, written_of_ofSegment h hread⟩,
    fun ⟨step, hwritten, hplain⟩ => ⟨step, ofSegment_eq_ok hwritten hplain⟩⟩

lemma misses_iff {e : Error} (h : ';' ∉ segment.toList) :
    Step.ofSegment segment.toList = .error e ↔ Misses segment e := by
  refine ⟨fun hread => ?_, Misses.ofSegment⟩
  rcases ofSegment_total h with ⟨step, hstep, -⟩ | ⟨e', hmisses⟩
  · rw [hread] at hstep
    cases hstep
  · rw [hmisses.ofSegment, Except.error.injEq] at hread
    exact hread ▸ hmisses

lemma Misses.not_isForm {e : Error} (h : Misses segment e) : ¬ IsForm segment := by
  rintro ⟨step, hwritten, hplain⟩
  have hread := h.ofSegment
  rw [ofSegment_eq_ok hwritten hplain] at hread
  cases hread

end Read

end Step

/-! ## Texts of steps -/

/-- The segments of a text that are not blank. -/
def segmentsOf (raw : Option String) : List String :=
  match raw with
  | none => []
  | some s => ((splitAll ';' s.toList).map String.ofList).filter fun segment => !isBlankText segment

lemma notMem_of_mem_segmentsOf {raw : Option String} {segment : String}
    (h : segment ∈ segmentsOf raw) : ';' ∉ segment.toList := by
  cases raw with
  | none => cases h
  | some s =>
      obtain ⟨part, hpart, rfl⟩ := List.mem_map.1 (List.mem_of_mem_filter h)
      rw [String.toList_ofList]
      exact notMem_of_mem_splitAll hpart

/-- Steps are read from the segments one by one. -/
lemma stepsOf_eq (raw : Option String) :
    stepsOf raw = (segmentsOf raw).mapM fun segment => Step.ofSegment segment.toList := by
  cases raw with
  | none => rfl
  | some s =>
      rw [stepsOf, segmentsOf, List.filter_map, List.mapM_map]
      simp [Function.comp_def, isBlankText]

/-- A text is what its segments are joined to, blank ones included. -/
lemma stepsText_of_segmentsOf {raw : Option String} {steps : List Step}
    (h : List.Forall₂ Step.WrittenAs steps (segmentsOf raw)) : StepsText raw steps := by
  cases raw with
  | none =>
      cases h
      exact Or.inl ⟨rfl, rfl⟩
  | some s =>
      refine Or.inr ⟨(splitAll ';' s.toList).map String.ofList, ?_, h⟩
      rw [Option.some.injEq, ← String.toList_inj, String.toList_intercalate, List.map_map]
      simp only [Function.comp_def, String.toList_ofList, List.map_id']
      exact (intercalate_splitAll ';' s.toList).symm

lemma stepsOf_eq_ok_iff {raw : Option String} {steps : List Step} :
    stepsOf raw = .ok steps ↔ StepsText raw steps ∧ ∀ step ∈ steps, step.IsPlain := by
  constructor
  · intro h
    rw [stepsOf_eq, mapM_eq_ok] at h
    have hsegments : ∀ segment ∈ segmentsOf raw, ';' ∉ segment.toList :=
      fun _ => notMem_of_mem_segmentsOf
    have hread := ((List.forall₂_and_left _ _).2 ⟨hsegments, h⟩).imp fun segment step h =>
      Step.written_of_ofSegment h.1 h.2
    exact ⟨stepsText_of_segmentsOf (hread.flip.imp fun _ _ h => h.1), fun step hstep => by
      obtain ⟨segment, -, -, hplain⟩ := exists_of_forall₂ hread step hstep
      exact hplain⟩
  · rintro ⟨htext, hplain⟩
    exact stepsOf_eq_ok htext hplain

lemma stepsOf_eq_error_iff {raw : Option String} {e : Error} :
    stepsOf raw = .error e ↔ ∃ before segment behind,
      segmentsOf raw = before ++ segment :: behind ∧ (∀ s ∈ before, Step.IsForm s) ∧
        Step.Misses segment e := by
  rw [stepsOf_eq, mapM_eq_error]
  refine exists_congr fun before => exists_congr fun segment => exists_congr fun behind =>
    and_congr_right fun hsplit => and_congr ?_ ?_
  · refine forall₂_congr fun s hs => ?_
    have hmem : s ∈ segmentsOf raw := hsplit ▸ List.mem_append_left _ hs
    exact Step.isForm_iff (notMem_of_mem_segmentsOf hmem)
  · have hmem : segment ∈ segmentsOf raw := hsplit ▸ List.mem_append_right _ List.mem_cons_self
    exact Step.misses_iff (notMem_of_mem_segmentsOf hmem)

/-- **What comes of any text.**  Steps come exactly of the texts that they are written as, with a
segment for each step and no other segments but blank ones.  Otherwise a segment that is not blank
is no step, and the first such segment decides how reading fails: as a text that is no query,
unless the formula of a segment is refused without a word. -/
theorem stepsOf_iff (raw : Option String) :
    (∀ steps, stepsOf raw = .ok steps ↔
      StepsText raw steps ∧ ∀ step ∈ steps, step.IsPlain) ∧
      (∀ e, stepsOf raw = .error e ↔ ∃ before segment behind,
        segmentsOf raw = before ++ segment :: behind ∧ (∀ s ∈ before, Step.IsForm s) ∧
          Step.Misses segment e) ∧
      ((∃ e, stepsOf raw = .error e) ↔
        ∃ segment ∈ segmentsOf raw, ¬ Step.IsForm segment) ∧
      ∀ e, stepsOf raw = .error e → (∃ p, e = .parse p none) ∨
        e = .plain (.fault .wrongValue) ∧
          ∃ segment ∈ segmentsOf raw, Step.IsUntold segment := by
  refine ⟨fun _ => stepsOf_eq_ok_iff, fun _ => stepsOf_eq_error_iff, ⟨?_, ?_⟩,
    fun e h => ?_⟩
  · rintro ⟨e, h⟩
    obtain ⟨before, segment, behind, hsplit, -, hmisses⟩ := stepsOf_eq_error_iff.1 h
    have hmem : segment ∈ segmentsOf raw := hsplit ▸ List.mem_append_right _ List.mem_cons_self
    exact ⟨segment, hmem, hmisses.not_isForm⟩
  · rintro ⟨segment, hmem, hnot⟩
    cases hread : stepsOf raw with
    | error e => exact ⟨e, rfl⟩
    | ok steps =>
        rw [stepsOf_eq] at hread
        obtain ⟨step, -, hstep⟩ := exists_ok_of_mapM hread segment hmem
        exact absurd ⟨step,
          Step.written_of_ofSegment (notMem_of_mem_segmentsOf hmem) hstep⟩ hnot
  · obtain ⟨before, segment, behind, hsplit, -, hmisses⟩ := stepsOf_eq_error_iff.1 h
    have hmem : segment ∈ segmentsOf raw := hsplit ▸ List.mem_append_right _ List.mem_cons_self
    exact hmisses.told.imp_right fun ⟨hfault, huntold⟩ => ⟨hfault, segment, hmem, huntold⟩

example : (stepsOf (some "; filter : $a$ > 1 ;; aggregate:SuM;")).toOption
    = some [.filter "$a$ > 1", .aggregate .sum] := by decide +kernel

/-- A text with a field that holds a no-break space, and that is called. -/
def calledField : String := "rf'\x7br\"\u00a0\"\x7d'()"

/-- **A segment that is no step, and is not refused as a text**: the space would have to be escaped
inside of the field, where nothing can be. -/
theorem stepsOf_calledField :
    stepsOf (some ("map: " ++ calledField)) = .error (.plain (.fault .wrongValue)) ∧
      ∀ p context, stepsOf (some ("map: " ++ calledField)) ≠ .error (.parse p context) := by
  have hread : stepsOf (some ("map: " ++ calledField)) = .error (.plain (.fault .wrongValue)) := by
    decide +kernel
  refine ⟨hread, fun p context => ?_⟩
  rw [hread]
  exact nofun

end Crosswalk
