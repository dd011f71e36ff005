import Mathlib.Data.List.Forall2
import Mathlib.Data.List.TakeWhile
import Mathlib.Tactic.Lemma
import Crosswalk.Text.Blank
import Crosswalk.Text.Split

/-!
# Texts with blanks around them

Blanks around a text do not count: not for the text itself, and not for its parts between
separators.

* `Pads`, `Padded` — **a text with blanks around it**, as characters and as a text.
* `trim_of_padded`, `padded_trim` — the blanks at both ends are what is stripped.
* `splitAll_intercalate`, `intercalate_splitAll` — **the parts of what was joined.**
* `splitAll_of_pads` — blanks around a text are blanks around its parts.
-/

namespace Crosswalk

/-! ## Blanks -/

/-- Characters with blanks around them. -/
def Pads (cs inner : List Char) : Prop :=
  ∃ before behind : List Char, before.all isBlank = true ∧ behind.all isBlank = true ∧
    cs = before ++ inner ++ behind

/-- **A text with blanks around it.** -/
def Padded (s t : String) : Prop := Pads s.toList t.toList

lemma Pads.refl (cs : List Char) : Pads cs cs := ⟨[], [], rfl, rfl, by simp⟩

lemma dropWhile_of_all {cs rest : List Char} (h : cs.all isBlank = true) :
    (cs ++ rest).dropWhile isBlank = rest.dropWhile isBlank :=
  List.dropWhile_append_of_pos (List.all_eq_true.1 h)

lemma dropWhile_eq_nil_of_all {cs : List Char} (h : cs.all isBlank = true) :
    cs.dropWhile isBlank = [] :=
  List.dropWhile_eq_nil_iff.2 (List.all_eq_true.1 h)

/-- **Blanks around a text are stripped.** -/
lemma trimChars_of_pads {cs inner : List Char} (h : Pads cs inner) :
    trimChars cs = trimChars inner := by
  obtain ⟨before, behind, hbefore, hbehind, rfl⟩ := h
  rw [trimChars, List.append_assoc, dropWhile_of_all hbefore, List.dropWhile_append]
  split
  · next hnil =>
    rw [dropWhile_eq_nil_of_all hbehind, trimChars, List.isEmpty_iff.1 hnil]
  · have hreverse : behind.reverse.all isBlank = true := by rwa [List.all_reverse]
    rw [List.reverse_append, dropWhile_of_all hreverse, trimChars]

/-- What is stripped from a text are blanks around it. -/
lemma pads_trimChars (cs : List Char) : Pads cs (trimChars cs) := by
  have htake (l : List Char) : (l.takeWhile isBlank).all isBlank = true :=
    List.all_eq_true.2 fun c hc => List.mem_takeWhile_imp hc
  refine ⟨cs.takeWhile isBlank, ((cs.dropWhile isBlank).reverse.takeWhile isBlank).reverse,
    htake cs, by rw [List.all_reverse]; exact htake _, ?_⟩
  rw [trimChars, List.append_assoc, ← List.reverse_append, List.takeWhile_append_dropWhile,
    List.reverse_reverse, List.takeWhile_append_dropWhile]

lemma trim_of_padded {s t : String} (h : Padded s t) : trim s = trim t :=
  congrArg String.ofList (trimChars_of_pads h)

lemma map_trimChars_of_pads {xs ys : List (List Char)} (h : List.Forall₂ Pads xs ys) :
    xs.map trimChars = ys.map trimChars := by
  induction h with
  | nil => rfl
  | cons hx _ ih => rw [List.map_cons, List.map_cons, ih, trimChars_of_pads hx]

lemma padded_trim (s : String) : Padded s (trim s) := by
  rw [Padded, trim, String.toList_ofList]
  exact pads_trimChars s.toList

/-- Blanks around a text do not make it blank. -/
lemma all_isBlank_of_pads {cs inner : List Char} (h : Pads cs inner) :
    cs.all isBlank = inner.all isBlank := by
  obtain ⟨before, behind, hbefore, hbehind, rfl⟩ := h
  simp [List.all_append, hbefore, hbehind]

lemma isBlankText_of_padded {s t : String} (h : Padded s t) : isBlankText s = isBlankText t :=
  all_isBlank_of_pads h

/-- A character that is no blank is not among blanks. -/
lemma notMem_of_all_isBlank {c : Char} {cs : List Char} (hc : isBlank c = false)
    (h : cs.all isBlank = true) : c ∉ cs := by
  intro hmem
  have hblank := List.all_eq_true.1 h c hmem
  rw [hc] at hblank
  cases hblank

/-- Blanks around a text bring no other character into it. -/
lemma notMem_of_pads {c : Char} {cs inner : List Char} (hc : isBlank c = false) (h : Pads cs inner)
    (hinner : c ∉ inner) : c ∉ cs := by
  obtain ⟨before, behind, hbefore, hbehind, rfl⟩ := h
  rw [List.mem_append, List.mem_append]
  rintro ((hmem | hmem) | hmem)
  · exact notMem_of_all_isBlank hc hbefore hmem
  · exact hinner hmem
  · exact notMem_of_all_isBlank hc hbehind hmem

lemma mem_of_pads {c : Char} {cs inner : List Char} (h : Pads cs inner) (hc : c ∈ inner) :
    c ∈ cs := by
  obtain ⟨before, behind, -, -, rfl⟩ := h
  exact List.mem_append_left _ (List.mem_append_right _ hc)

/-- A text is blank if nothing is left of it. -/
lemma trim_eq_empty_iff {s : String} : trim s = "" ↔ isBlankText s = true := by
  constructor
  · intro h
    rw [isBlankText_of_padded (padded_trim s), h]
    rfl
  · intro h
    rw [trim, trimChars, dropWhile_eq_nil_of_all h]
    rfl

/-! ## Parts -/

section Split

variable {sep : Char} {cs : List Char}

lemma splitAll_ne_nil (sep : Char) (cs : List Char) : splitAll sep cs ≠ [] := by
  cases cs with
  | nil => exact List.cons_ne_nil _ _
  | cons c cs =>
      rw [splitAll]
      split
      · exact List.cons_ne_nil _ _
      · split <;> exact List.cons_ne_nil _ _

lemma splitAll_of_notMem (h : sep ∉ cs) : splitAll sep cs = [cs] := by
  induction cs with
  | nil => rfl
  | cons c cs ih =>
      rw [List.mem_cons, not_or] at h
      rw [splitAll, if_neg (Ne.symm h.1), ih h.2]

lemma splitAll_append_cons (h : sep ∉ cs) (rest : List Char) :
    splitAll sep (cs ++ sep :: rest) = cs :: splitAll sep rest := by
  induction cs with
  | nil => rw [List.nil_append, splitAll, if_pos rfl]
  | cons c cs ih =>
      rw [List.mem_cons, not_or] at h
      rw [List.cons_append, splitAll, if_neg (Ne.symm h.1), ih h.2]

/-- **The parts of what was joined.** -/
theorem splitAll_intercalate {parts : List (List Char)} (hne : parts ≠ [])
    (h : ∀ part ∈ parts, sep ∉ part) : splitAll sep ([sep].intercalate parts) = parts := by
  induction parts with
  | nil => exact absurd rfl hne
  | cons part parts ih =>
      cases parts with
      | nil => simpa [List.intercalate] using splitAll_of_notMem (h part List.mem_cons_self)
      | cons part' parts =>
          rw [List.intercalate_cons_cons, List.append_assoc, List.singleton_append,
            splitAll_append_cons (h part List.mem_cons_self),
            ih (List.cons_ne_nil _ _) fun p hp => h p (List.mem_cons_of_mem _ hp)]

/-- A text is what its parts are joined to. -/
lemma intercalate_splitAll (sep : Char) (cs : List Char) :
    [sep].intercalate (splitAll sep cs) = cs := by
  induction cs with
  | nil => rfl
  | cons c cs ih =>
      obtain ⟨part, parts, hparts⟩ := List.exists_cons_of_ne_nil (splitAll_ne_nil sep cs)
      rw [hparts] at ih
      rw [splitAll, hparts]
      split
      · next heq =>
          rw [List.intercalate_cons_cons, ih, heq, List.nil_append, List.singleton_append]
      · cases parts with
        | nil => simpa [List.intercalate] using ih
        | cons part' parts =>
            rw [List.intercalate_cons_cons] at ih ⊢
            rw [← ih]
            rfl

lemma notMem_of_mem_splitAll {part : List Char} (h : part ∈ splitAll sep cs) : sep ∉ part := by
  induction cs generalizing part with
  | nil =>
      rw [splitAll, List.mem_singleton] at h
      rw [h]
      exact List.not_mem_nil
  | cons c cs ih =>
      obtain ⟨first, parts, hparts⟩ := List.exists_cons_of_ne_nil (splitAll_ne_nil sep cs)
      rw [hparts] at ih
      rw [splitAll, hparts] at h
      split at h
      · rcases List.mem_cons.1 h with rfl | h
        · exact List.not_mem_nil
        · exact ih h
      · next hne =>
        rcases List.mem_cons.1 h with rfl | h
        · rw [List.mem_cons, not_or]
          exact ⟨Ne.symm hne, ih List.mem_cons_self⟩
        · exact ih (List.mem_cons_of_mem _ h)

/-- Blanks behind a text are behind its last part. -/
lemma splitAll_append_blanks {behind : List Char} (h : behind.all isBlank = true)
    (hsep : sep ∉ behind) :
    List.Forall₂ (fun part inner => ∃ blanks : List Char, blanks.all isBlank = true ∧
      part = inner ++ blanks) (splitAll sep (cs ++ behind)) (splitAll sep cs) := by
  induction cs with
  | nil =>
      rw [List.nil_append, splitAll_of_notMem hsep]
      exact .cons ⟨behind, h, rfl⟩ .nil
  | cons c cs ih =>
      rw [List.cons_append, splitAll, splitAll]
      split
      · exact .cons ⟨[], rfl, rfl⟩ ih
      · generalize splitAll sep (cs ++ behind) = parts at ih ⊢
        generalize splitAll sep cs = inners at ih ⊢
        cases ih with
        | nil => exact .cons ⟨[], rfl, rfl⟩ .nil
        | cons hpart hparts =>
            obtain ⟨blanks, hblanks, rfl⟩ := hpart
            exact .cons ⟨blanks, hblanks, rfl⟩ hparts

/-- **Blanks around a text are blanks around its parts.** -/
theorem splitAll_of_pads (hsep : isBlank sep = false) {inner : List Char} (h : Pads cs inner) :
    List.Forall₂ Pads (splitAll sep cs) (splitAll sep inner) := by
  obtain ⟨before, behind, hbefore, hbehind, rfl⟩ := h
  rw [List.append_assoc]
  induction before with
  | nil =>
      refine (splitAll_append_blanks hbehind (notMem_of_all_isBlank hsep hbehind)).imp ?_
      rintro _ part ⟨blanks, hblanks, rfl⟩
      exact ⟨[], blanks, rfl, hblanks, rfl⟩
  | cons c before ih =>
      have hc : sep ≠ c :=
        fun heq => notMem_of_all_isBlank hsep hbefore (heq ▸ List.mem_cons_self)
      rw [List.all_cons, Bool.and_eq_true] at hbefore
      have hrest := ih hbefore.2
      rw [List.cons_append, splitAll, if_neg (Ne.symm hc)]
      have hne : splitAll sep inner ≠ [] := splitAll_ne_nil sep inner
      generalize splitAll sep (before ++ (inner ++ behind)) = parts at hrest ⊢
      generalize splitAll sep inner = inners at hrest hne ⊢
      cases hrest with
      | nil => exact absurd rfl hne
      | cons hpart hparts =>
          obtain ⟨left, right, hleft, hright, rfl⟩ := hpart
          exact .cons ⟨c :: left, right, by simp [hbefore.1, hleft], hright, rfl⟩ hparts

end Split

end Crosswalk
