import Crosswalk.Formula.Compiled
import Crosswalk.Proofs.Sequence
import Mathlib.Data.List.Find
import Mathlib.Data.List.TakeWhile

/-!
# The pieces of a formula source

A source consists of characters that its author has typed and of placeholders.  The text that is
parsed has a name in the place of each placeholder.  A name is made of few kinds of characters, so
a cut of the text can be told not to go through one, and then it is a cut of the source.

* `Piece`, `pieces` — **the pieces of a source.**
* `expand` — pieces with names for the placeholders; `substitute_eq` says that this is the text.
* `unifyEnds` — pieces whose lines all end with a line feed.
* `IsCut`, `exists_of_isCut` — **cuts of a text that are cuts of its pieces.**
* `isClosed`, `pieces_append` — **the pieces of a text that leaves no placeholder open** do not
  depend on what follows. -/

namespace Crosswalk.Formula

/-! ## Pieces -/

/-- A character that was typed, or a placeholder with its label. -/
inductive Piece where
  | typed (c : Char)
  | hole (label : String)
  deriving DecidableEq

/-- **The pieces of a source.** -/
def pieces (cs : List Char) : List Piece :=
  match cs with
  | [] => []
  | '$' :: rest =>
    match h : placeholder? rest with
    | some (label, after) =>
      have := placeholder?_rest_lt h
      .hole (String.ofList (trimChars label)) :: pieces after
    | none => .typed '$' :: pieces rest
  | c :: rest => .typed c :: pieces rest
termination_by cs.length

@[simp] lemma pieces_nil : pieces [] = [] := by rw [pieces]

lemma pieces_placeholder {cs label rest : List Char} (h : placeholder? cs = some (label, rest)) :
    pieces ('$' :: cs) = .hole (String.ofList (trimChars label)) :: pieces rest := by
  rw [pieces]
  split <;> simp_all

lemma pieces_dollar {cs : List Char} (h : placeholder? cs = none) :
    pieces ('$' :: cs) = .typed '$' :: pieces cs := by
  rw [pieces]
  split <;> simp_all

lemma pieces_cons {c : Char} (cs : List Char) (h : c ≠ '$') :
    pieces (c :: cs) = .typed c :: pieces cs := by
  rw [pieces]
  exact h

/-- What stands for a piece in the text that is parsed. -/
def Piece.chars (labels : List String) : Piece → List Char
  | typed c => [c]
  | hole label => (bindingName (labels.idxOf label)).toList

/-- **Pieces with names for the placeholders.** -/
def expand (labels : List String) (ps : List Piece) : List Char := ps.flatMap (Piece.chars labels)

/-- The labels of pieces behind those known so far. -/
def gather (labels : List String) : List Piece → List String
  | [] => labels
  | .typed _ :: ps => gather labels ps
  | .hole label :: ps => gather (number labels label).2 ps

section Expand

variable {labels more : List String} {label : String} {ps qs : List Piece} {c : Char}

@[simp] lemma expand_nil : expand labels [] = [] := rfl

@[simp] lemma expand_typed : expand labels (.typed c :: ps) = c :: expand labels ps := rfl

@[simp] lemma expand_hole : expand labels (.hole label :: ps)
    = (bindingName (labels.idxOf label)).toList ++ expand labels ps := rfl

@[simp] lemma expand_append : expand labels (ps ++ qs) = expand labels ps ++ expand labels qs :=
  List.flatMap_append

lemma number_fst (labels : List String) (label : String) :
    (number labels label).1 = (number labels label).2.idxOf label := by
  rw [number]
  cases h : labels.idxOf? label with
  | none => simp [List.idxOf_append_of_notMem (List.idxOf?_eq_none_iff.1 h)]
  | some i => simp [List.idxOf_eq_getD_idxOf?, h]

lemma mem_number (labels : List String) (label : String) : label ∈ (number labels label).2 := by
  rw [number]
  cases h : labels.idxOf? label with
  | none => simp
  | some i =>
      obtain ⟨hi, heq, -⟩ := List.idxOf?_eq_some_iff.1 h
      exact heq ▸ List.getElem_mem hi

lemma prefix_number (labels : List String) (label : String) :
    labels <+: (number labels label).2 := by
  rw [number]
  cases labels.idxOf? label with
  | none => exact List.prefix_append _ _
  | some i => exact List.prefix_refl _

/-- Labels that are known keep their numbers. -/
lemma prefix_gather (labels : List String) (ps : List Piece) : labels <+: gather labels ps := by
  induction ps generalizing labels with
  | nil => exact List.prefix_refl _
  | cons p ps ih =>
      cases p with
      | typed c => exact ih labels
      | hole label => exact (prefix_number labels label).trans (ih _)

lemma idxOf_of_prefix (h : labels <+: more) (hmem : label ∈ labels) :
    more.idxOf label = labels.idxOf label := by
  obtain ⟨rest, rfl⟩ := h
  exact List.idxOf_append_of_mem hmem

lemma mem_gather (h : .hole label ∈ ps) : label ∈ gather labels ps := by
  induction ps generalizing labels with
  | nil => cases h
  | cons p ps ih =>
      rcases List.mem_cons.1 h with rfl | hmem
      · exact (prefix_gather _ ps).subset (mem_number labels label)
      · cases p with
        | typed c => exact ih hmem
        | hole other => exact ih hmem

/-- **A text with its placeholders replaced is made of the pieces of the source.** -/
theorem substitute_eq (labels : List String) (cs : List Char) :
    substitute labels cs
      = (expand (gather labels (pieces cs)) (pieces cs), gather labels (pieces cs)) := by
  fun_induction substitute labels cs with
  | case1 labels => simp [gather]
  | case2 labels rest label after h _ i known hnumber out more hrest ih =>
      rw [hrest, Prod.mk.injEq] at ih
      obtain ⟨rfl, rfl⟩ := ih
      have hi := number_fst labels (String.ofList (trimChars label))
      have hmem := mem_number labels (String.ofList (trimChars label))
      rw [hnumber] at hi hmem
      simp only at hi hmem
      rw [pieces_placeholder h, gather, hnumber, expand_hole, hi,
        idxOf_of_prefix (prefix_gather known (pieces after)) hmem]
  | case3 labels rest h out more hrest ih =>
      rw [hrest, Prod.mk.injEq] at ih
      obtain ⟨rfl, rfl⟩ := ih
      rw [pieces_dollar h, gather, expand_typed]
  | case4 labels c rest hc out more hrest ih =>
      rw [hrest, Prod.mk.injEq] at ih
      obtain ⟨rfl, rfl⟩ := ih
      rw [pieces_cons rest hc, gather, expand_typed]

end Expand

/-! ## Names of labels -/

section Names

variable {labels : List String} {label : String} {i j : Nat}

lemma toList_bindingName (i : Nat) : (bindingName i).toList = '_' :: 'v' :: Nat.toDigits 10 i := by
  rw [bindingName, String.toList_append]
  have hdigits : (toString i).toList = Nat.toDigits 10 i := String.toList_ofList
  rw [hdigits]
  rfl

lemma bindingName_injective (h : bindingName i = bindingName j) : i = j := by
  have hdigits : Nat.toDigits 10 i = Nat.toDigits 10 j := by
    have hlist := congrArg String.toList h
    rw [toList_bindingName, toList_bindingName] at hlist
    exact (List.cons.inj (List.cons.inj hlist).2).2
  rw [← Nat.ofDigitChars_ten_toDigits (n := i), hdigits, Nat.ofDigitChars_ten_toDigits]

/-- The name of a label stands for this label. -/
lemma lookup_bindingName (h : labels[i]? = some label) :
    (bindings labels).lookup (bindingName i) = some label := by
  have hkeys : ((bindings labels).map Prod.fst).Nodup := by
    rw [List.Nodup, List.pairwise_iff_getElem]
    intro i j hi hj hlt heq
    simp only [bindings, List.getElem_map, List.getElem_mapIdx] at heq
    exact Nat.ne_of_lt hlt (bindingName_injective heq)
  refine lookup_of_mem hkeys (List.mem_mapIdx.2 ?_)
  obtain ⟨hi, rfl⟩ := List.getElem?_eq_some_iff.1 h
  exact ⟨i, hi, rfl⟩

/-- A character of the name of a label. -/
def IsNameChar (c : Char) : Prop := c = '_' ∨ c = 'v' ∨ c.isDigit

instance (c : Char) : Decidable (IsNameChar c) := inferInstanceAs (Decidable (_ ∨ _))

lemma isNameChar_of_mem {c : Char} (h : c ∈ (bindingName i).toList) : IsNameChar c := by
  rw [toList_bindingName, List.mem_cons, List.mem_cons] at h
  exact h.imp_right (Or.imp_right (Nat.isDigit_of_mem_toDigits (by decide) (by decide)))

/-- What is behind the first character of a name could not follow a cut. -/
lemma of_mem_tail {c : Char} (h : c ∈ (bindingName i).toList.tail) : c = 'v' ∨ c.isDigit := by
  rw [toList_bindingName, List.tail_cons, List.mem_cons] at h
  exact h.imp_right (Nat.isDigit_of_mem_toDigits (by decide) (by decide))

end Names

/-! ## Line ends -/

/-- **Pieces whose lines all end with a line feed.** -/
def unifyEnds : List Piece → List Piece
  | [] => []
  | .typed '\r' :: .typed '\n' :: rest => .typed '\n' :: unifyEnds rest
  | .typed '\r' :: rest => .typed '\n' :: unifyEnds rest
  | p :: rest => p :: unifyEnds rest

lemma unifyLineEnds_cons {c : Char} (cs : List Char) (h : c ≠ '\r') :
    unifyLineEnds (c :: cs) = c :: unifyLineEnds cs := by
  rw [unifyLineEnds] <;> simp [h]

lemma unifyLineEnds_append {cs : List Char} (more : List Char) (h : '\r' ∉ cs) :
    unifyLineEnds (cs ++ more) = cs ++ unifyLineEnds more := by
  induction cs with
  | nil => rfl
  | cons c cs ih =>
      obtain ⟨hc, hcs⟩ := not_or.1 (mt List.mem_cons.2 h)
      rw [List.cons_append, unifyLineEnds_cons _ (Ne.symm hc), ih hcs, List.cons_append]

lemma expand_unifyEnds (labels : List String) (ps : List Piece) :
    expand labels (unifyEnds ps) = unifyLineEnds (expand labels ps) := by
  fun_induction unifyEnds ps with
  | case1 => rfl
  | case2 rest ih => rw [expand_typed, ih]; rfl
  | case3 rest h ih =>
      rw [expand_typed, ih, expand_typed, unifyLineEnds]
      intro cs hcs
      -- a line feed behind the carriage return would have been typed as well
      cases rest with
      | nil => cases hcs
      | cons p rest =>
          cases p with
          | typed c =>
              obtain ⟨rfl, -⟩ := List.cons.inj hcs
              exact h rest rfl
          | hole label =>
              rw [expand_hole, toList_bindingName] at hcs
              cases (List.cons.inj hcs).1
  | case4 p rest h h' ih =>
      cases p with
      | typed c =>
          have hc : c ≠ '\r' := by
            rintro rfl
            exact h' rfl
          rw [expand_typed, expand_typed, unifyLineEnds_cons _ hc, ih]
      | hole label =>
          have hno : '\r' ∉ (bindingName (labels.idxOf label)).toList :=
            fun hmem => by rcases isNameChar_of_mem hmem with h | h | h <;> revert h <;> decide
          rw [expand_hole, expand_hole, unifyLineEnds_append _ hno, ih]

/-! ## Cuts -/

/-- **A cut of a text that goes through no name**: nothing is in front of it, the character behind
it is none that a name has behind its first, or the one in front of it is none that a name has. -/
def IsCut (front back : List Char) : Prop :=
  front = [] ∨ (∀ c ∈ back.head?, c ≠ 'v' ∧ c.isDigit = false) ∨
    ∃ c ∈ front.getLast?, ¬ IsNameChar c

lemma IsCut.append (more : List Char) {front back : List Char} (h : IsCut front back)
    (hfront : front ≠ []) : IsCut (more ++ front) back := by
  rw [IsCut, List.getLast?_append_of_ne_nil _ hfront]
  exact Or.inr (h.resolve_left hfront)

/-- What stands for one piece is not cut. -/
lemma not_isCut_of_chars {labels : List String} {p : Piece} {front more back : List Char}
    (h : p.chars labels = front ++ more) (hfront : front ≠ []) (hmore : more ≠ []) :
    ¬ IsCut front (more ++ back) := by
  obtain ⟨c, cs, rfl⟩ := List.exists_cons_of_ne_nil hmore
  obtain ⟨d, ds, rfl⟩ := List.exists_cons_of_ne_nil hfront
  cases p with
  | typed x => simp [Piece.chars] at h
  | hole label =>
      rw [Piece.chars] at h
      rintro (hnil | hback | ⟨x, hx, hname⟩)
      · exact hfront hnil
      · have htail : c ∈ (bindingName (labels.idxOf label)).toList.tail := by simp [h]
        obtain ⟨hv, hdigit⟩ := hback c rfl
        rcases of_mem_tail htail with rfl | hc
        · exact hv rfl
        · rw [hdigit] at hc
          cases hc
      · refine hname (isNameChar_of_mem (i := labels.idxOf label) ?_)
        rw [h]
        exact List.mem_append_left _ (List.mem_of_getLast? hx)

/-- **A cut of the text is a cut of the pieces.** -/
theorem exists_of_isCut {labels : List String} {ps : List Piece} {front back : List Char}
    (h : expand labels ps = front ++ back) (hcut : IsCut front back) :
    ∃ qs rs, ps = qs ++ rs ∧ expand labels qs = front ∧ expand labels rs = back := by
  induction ps generalizing front with
  | nil =>
      obtain ⟨rfl, rfl⟩ := List.nil_eq_append_iff.1 h
      exact ⟨[], [], rfl, rfl, rfl⟩
  | cons p ps ih =>
      have hcons : expand labels (p :: ps) = p.chars labels ++ expand labels ps := rfl
      rw [hcons, List.append_eq_append_iff] at h
      rcases h with ⟨more, rfl, hps⟩ | ⟨more, hp, rfl⟩
      · by_cases hmore : more = []
        · subst hmore
          exact ⟨[p], ps, rfl, by simp [expand], hps⟩
        · have hcut' : IsCut more back := by
            rw [IsCut, List.getLast?_append_of_ne_nil _ hmore] at hcut
            exact Or.inr (hcut.resolve_left fun hnil => hmore (List.append_eq_nil_iff.1 hnil).2)
          obtain ⟨qs, rs, rfl, rfl, rfl⟩ := ih hps hcut'
          exact ⟨p :: qs, rs, rfl, rfl, rfl⟩
      · by_cases hends : front = [] ∨ more = []
        · rcases hends with rfl | rfl
          · exact ⟨[], p :: ps, rfl, rfl, by rw [hcons, hp, List.nil_append]⟩
          · exact ⟨[p], ps, rfl, by simpa [expand] using hp, rfl⟩
        · obtain ⟨hfront, hmore⟩ := not_or.1 hends
          exact absurd hcut (not_isCut_of_chars hp hfront hmore)

/-! ## Texts behind each other -/

/-- Characters as pieces. -/
def typed (cs : List Char) : List Piece := cs.map .typed

section Behind

variable {labels : List String} {a b cs : List Char} {ps : List Piece}

lemma expand_map_typed (labels : List String) (cs : List Char) : expand labels (typed cs) = cs := by
  induction cs with
  | nil => rfl
  | cons c cs ih => exact congrArg (c :: ·) ih

lemma gather_append (labels : List String) (ps qs : List Piece) :
    gather labels (ps ++ qs) = gather (gather labels ps) qs := by
  induction ps generalizing labels with
  | nil => rfl
  | cons p ps ih => cases p <;> exact ih _

lemma gather_map_typed (labels : List String) (cs : List Char) :
    gather labels (typed cs) = labels := by
  induction cs with
  | nil => rfl
  | cons c cs ih => exact ih

/-- A placeholder goes up to the next dollar sign. -/
lemma placeholder?_eq_some_iff {label after : List Char} :
    placeholder? cs = some (label, after) ↔
      cs = label ++ '$' :: after ∧ label ≠ [] ∧ '$' ∉ label := by
  constructor
  · intro h
    unfold placeholder? at h
    split at h
    · next c front d rest htake hdrop =>
        cases h
        have hd : d = '$' := by
          have hstop := List.head?_dropWhile_not (· != '$') cs
          rw [hdrop] at hstop
          simpa using hstop
        subst hd
        refine ⟨?_, List.cons_ne_nil _ _, fun hmem => ?_⟩
        · rw [← htake, ← hdrop, List.takeWhile_append_dropWhile]
        · rw [← htake] at hmem
          simpa using List.mem_takeWhile_imp hmem
    · cases h
  · rintro ⟨rfl, hne, hno⟩
    have hall : ∀ c ∈ label, (c != '$') = true := fun c hc => bne_iff_ne.2 fun heq =>
        hno (heq ▸ hc)
    obtain ⟨c, label, rfl⟩ := List.exists_cons_of_ne_nil hne
    rw [placeholder?, List.takeWhile_append_of_pos hall, List.dropWhile_append_of_pos hall]
    simp

/-- A placeholder is one, whatever follows it. -/
lemma placeholder?_append {label after : List Char} (h : placeholder? cs = some (label, after))
    (b : List Char) : placeholder? (cs ++ b) = some (label, after ++ b) := by
  obtain ⟨rfl, hne, hno⟩ := placeholder?_eq_some_iff.1 h
  exact placeholder?_eq_some_iff.2 ⟨by simp, hne, hno⟩

/-- What has no dollar sign makes no placeholder of what is in front of it. -/
lemma placeholder?_append_of_notMem (h : placeholder? cs = none) (hb : '$' ∉ b) :
    placeholder? (cs ++ b) = none := by
  cases hsome : placeholder? (cs ++ b) with
  | none => rfl
  | some p =>
      obtain ⟨heq, hne, hno⟩ := placeholder?_eq_some_iff.1 hsome
      rcases append_eq_append_cons heq with ⟨more, -, rfl⟩ | ⟨more, rfl, -⟩
      · exact absurd (by simp) hb
      · rw [placeholder?_eq_some_iff.2 ⟨rfl, hne, hno⟩] at h
        cases h

/-- **No placeholder is left open.** -/
def isClosed (cs : List Char) : Bool :=
  match cs with
  | [] => true
  | '$' :: rest =>
    match h : placeholder? rest with
    | some (_, after) =>
      have := placeholder?_rest_lt h
      isClosed after
    | none => rest.head? = some '$' && isClosed rest
  | _ :: rest => isClosed rest
termination_by cs.length

/-- **The pieces of a text that leaves no placeholder open do not depend on what follows.** -/
lemma pieces_append (h : isClosed a) (b : List Char) : pieces (a ++ b) = pieces a ++ pieces b := by
  fun_induction isClosed a with
  | case1 => simp
  | case2 rest label after hplace _ ih =>
      rw [List.cons_append, pieces_placeholder (placeholder?_append hplace b),
        pieces_placeholder hplace, ih h, List.cons_append]
  | case3 rest hplace ih =>
      obtain ⟨hhead, hclosed⟩ : rest.head? = some '$' ∧ isClosed rest := by simpa using h
      obtain ⟨more, rfl⟩ := List.head?_eq_some_iff.1 hhead
      have hnone : placeholder? ('$' :: more ++ b) = none := by simp [placeholder?]
      rw [List.cons_append, pieces_dollar hnone, pieces_dollar hplace, ih hclosed, List.cons_append]
  | case4 c rest hc ih =>
      rw [List.cons_append, pieces_cons _ hc, pieces_cons _ hc, ih h, List.cons_append]

/-- Characters without dollar signs are pieces of their own. -/
lemma pieces_append_typed (h : '$' ∉ a) (b : List Char) :
    pieces (a ++ b) = typed a ++ pieces b := by
  induction a with
  | nil => rfl
  | cons c a ih =>
      obtain ⟨hc, ha⟩ := not_or.1 (mt List.mem_cons.2 h)
      rw [List.cons_append, pieces_cons _ (Ne.symm hc), ih ha]
      rfl

lemma pieces_of_notMem (h : '$' ∉ cs) : pieces cs = typed cs := by
  simpa using pieces_append_typed h []

/-- Characters that are typed are characters of the text. -/
lemma mem_of_typed_mem {c : Char} (h : .typed c ∈ pieces cs) : c ∈ cs := by
  fun_induction pieces cs with
  | case1 => cases h
  | case2 rest label after hplace _ ih =>
      have hmem : c ∈ after := ih (List.mem_of_ne_of_mem (by simp) h)
      rw [(placeholder?_eq_some_iff.1 hplace).1]
      simp [hmem]
  | case3 rest hplace ih =>
      rcases List.mem_cons.1 h with heq | hmem
      · simp [Piece.typed.inj heq]
      · exact List.mem_cons_of_mem _ (ih hmem)
  | case4 x rest hx ih =>
      rcases List.mem_cons.1 h with heq | hmem
      · simp [Piece.typed.inj heq]
      · exact List.mem_cons_of_mem _ (ih hmem)

/-- Without a dollar sign in it, what follows closes no placeholder. -/
lemma pieces_append_of_notMem (h : '$' ∉ b) (a : List Char) :
    pieces (a ++ b) = pieces a ++ typed b := by
  fun_induction pieces a with
  | case1 => simpa using pieces_of_notMem h
  | case2 rest label after hplace _ ih =>
      rw [List.cons_append, pieces_placeholder (placeholder?_append hplace b), ih, List.cons_append]
  | case3 rest hplace ih =>
      rw [List.cons_append, pieces_dollar (placeholder?_append_of_notMem hplace h), ih,
        List.cons_append]
  | case4 c rest hc ih => rw [List.cons_append, pieces_cons _ hc, ih, List.cons_append]

/-- Without placeholders the pieces of a text are its characters. -/
lemma pieces_eq_typed (h : ∀ label, .hole label ∉ pieces cs) : pieces cs = typed cs := by
  fun_induction pieces cs with
  | case1 => rfl
  | case2 rest label after hplace _ ih => exact absurd List.mem_cons_self (h _)
  | case3 rest hplace ih =>
      rw [ih fun label hmem => h label (List.mem_cons_of_mem _ hmem), typed, typed, List.map_cons]
  | case4 c rest hc ih =>
      rw [ih fun label hmem => h label (List.mem_cons_of_mem _ hmem), typed, typed, List.map_cons]

/-- Typed characters without carriage returns. -/
lemma unifyEnds_typed (h : '\r' ∉ cs) (ps : List Piece) :
    unifyEnds (typed cs ++ ps) = typed cs ++ unifyEnds ps := by
  induction cs with
  | nil => rfl
  | cons c cs ih =>
      obtain ⟨hc, hcs⟩ := not_or.1 (mt List.mem_cons.2 h)
      have hne : Piece.typed c ≠ .typed '\r' := fun heq => hc (Piece.typed.inj heq).symm
      rw [typed, List.map_cons, List.cons_append, unifyEnds, ← typed, ih hcs]
      · rfl
      · exact fun _ heq _ => hne heq
      · exact hne

/-- A quote is no part of a line end. -/
lemma unifyEnds_append (ps qs : List Piece) :
    unifyEnds (ps ++ .typed '\'' :: qs) = unifyEnds ps ++ unifyEnds (.typed '\'' :: qs) := by
  fun_induction unifyEnds ps with
  | case1 => rfl
  | case2 rest ih => exact congrArg (.typed '\n' :: ·) ih
  | case3 rest h ih =>
      rw [List.cons_append, unifyEnds, ih]
      · rfl
      · cases rest with
        | nil => rintro _ ⟨⟩
        | cons p rest =>
            rintro _ heq
            exact h rest (by rw [(List.cons.inj heq).1])
  | case4 p rest h h' ih =>
      rw [List.cons_append, unifyEnds, ih]
      · rfl
      · exact fun _ heq _ => h' heq
      · exact h'

end Behind

end Crosswalk.Formula
