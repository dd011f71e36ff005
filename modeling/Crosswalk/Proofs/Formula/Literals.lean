import Crosswalk.Proofs.Formula.Cuts
import Crosswalk.Proofs.Formula.Hygiene
import Crosswalk.Proofs.Formula.Tokens
import Crosswalk.Proofs.Formula.Uniform

/-!
# Literals of formulas

A text between single quotes stands for itself, and it can be replaced by another one, as long as
no placeholder touches it: placeholders are found before quotations are, so two dollar signs in a
literal, or one in it and one elsewhere, are a placeholder like any other.

* `tokensFrom_quote` — **a literal is one token.**
* `Quotes` — a literal in a source that no placeholder touches; `apart_of_notMem` says when none
  does.
* **`compile_literals`** — what a literal alone stands for, and how formulas depend on the
  literals in them.
* `compile_placeholder_in_literal` — a literal that is taken for a placeholder.
-/

namespace Crosswalk.Formula

/-! ## The token of a literal -/

/-- **What a literal between single quotes holds as it is**: everything but quotes, backslashes,
line breaks and the null character. -/
def IsPlain (cs : List Char) : Prop := ∀ c ∈ cs, c ∉ ['\'', '"', '\\', '\n', '\r', '\x00']

instance (cs : List Char) : Decidable (IsPlain cs) := List.decidableBAll _ cs

/-- A text between single quotes. -/
def quote (s : String) : List Char := '\'' :: s.toList ++ ['\'']

section Tokens

variable {cs rest : List Char} {depth : Nat}

lemma scanToQuote_of_isPlain (h : IsPlain cs) (rest : List Char) :
    scanToQuote '\'' false (cs ++ '\'' :: rest) = some (cs, rest) := by
  induction cs with
  | nil =>
      rw [List.nil_append, scanToQuote_cons (by decide)]
      rfl
  | cons c cs ih =>
      obtain ⟨hc, hcs⟩ := List.forall_mem_cons.1 h
      simp only [List.mem_cons, List.not_mem_nil, or_false, not_or] at hc
      obtain ⟨hquote, -, hslash, hline, -, -⟩ := hc
      rw [List.cons_append, scanToQuote_cons hslash, ih hcs]
      simp [hquote, hline]

lemma decodeText_of_isPlain (h : IsPlain cs) : decodeText cs = some cs := by
  induction cs with
  | nil => rw [decodeText]
  | cons c cs ih =>
      obtain ⟨hc, hcs⟩ := List.forall_mem_cons.1 h
      have hslash : c ≠ '\\' := by
        rintro rfl
        exact absurd (by decide) hc
      rw [decodeText, ih hcs]
      · rfl
      all_goals simp [hslash]

/-- Three quotes begin a literal only if it is empty and a quote follows. -/
lemma isTriple_of_isPlain (h : IsPlain cs) (hsingle : cs = [] → rest.head? ≠ some '\'') :
    isTriple '\'' (cs ++ '\'' :: rest) = false := by
  cases cs with
  | nil =>
      cases rest with
      | nil => rfl
      | cons c rest => simpa [isTriple] using hsingle rfl
  | cons c cs =>
      have hc : c ≠ '\'' := by
        rintro rfl
        exact absurd (by decide) (h _ List.mem_cons_self)
      simp [isTriple, hc]

/-- **A literal is one token.** -/
lemma next_quote {s : String} (h : IsPlain s.toList)
    (hsingle : s.toList = [] → rest.head? ≠ some '\'')
    (depth : Nat) : next depth false (quote s ++ rest)
      = some ((some (.quotation (.text s false)), depth, false), rest) := by
  have hquotation : scanQuotation [] '\'' (s.toList ++ '\'' :: rest)
      = some (.text s false, rest) := by
    rw [scanQuotation_eq, isTriple_of_isPlain h hsingle, if_neg (by decide),
      scanToQuote_of_isPlain h]
    simp [quotationOf, decodeText_of_isPlain h]
  have htoken : scanToken depth ('\'' :: (s.toList ++ '\'' :: rest))
      = some ((.quotation (.text s false), depth), rest) := by
    rw [scanToken, if_neg (by simp [startsNumeral, startsWith]), quotationStart?_quote (Or.inr rfl)]
    simp only [hquotation, Option.map_some]
  have hquote : quote s ++ rest = '\'' :: (s.toList ++ '\'' :: rest) := by simp [quote]
  rw [hquote, next, if_neg (by decide), goOn, if_neg (by decide), if_neg (by decide),
    if_neg (by decide), htoken]
  · rfl
  · exact fun _ heq => by cases heq

lemma margin_quote (cs : List Char) : margin 0 0 ('\'' :: cs) = some (0, '\'' :: cs) := by
  refine margin_of_head? fun c hc => ?_
  cases hc
  decide

/-- A line may start with a quote. -/
lemma next_fresh (depth : Nat) (cs : List Char) :
    next depth true ('\'' :: cs) = some ((none, depth, false), '\'' :: cs) := by
  rw [next, if_pos rfl, startLine, margin_quote]
  rfl

lemma tokensFrom_fresh (depth : Nat) (cs : List Char) :
    tokensFrom depth true ('\'' :: cs) = tokensFrom depth false ('\'' :: cs) := by
  have hend : atEnd true ('\'' :: cs) = false := by
    rw [atEnd, if_pos rfl, margin_quote]
    rfl
  rw [tokensFrom_eq, hend, next_fresh]
  simp

lemma tokensFrom_quote {s : String} (h : IsPlain s.toList)
    (hsingle : s.toList = [] → rest.head? ≠ some '\'') (depth : Nat) :
    tokensFrom depth false (quote s ++ rest)
      = (tokensFrom depth false rest).map (.quotation (.text s false) :: ·) := by
  rw [tokensFrom_eq, next_quote h hsingle]
  rfl

lemma tokensFrom_quote_alone {s : String} (h : IsPlain s.toList) :
    tokensFrom 0 true (quote s) = some [.quotation (.text s false)] := by
  have hone : tokensFrom 0 false (quote s ++ [])
      = (tokensFrom 0 false []).map (.quotation (.text s false) :: ·) :=
    tokensFrom_quote h (by simp) 0
  rw [List.append_nil] at hone
  rw [quote, List.cons_append, tokensFrom_fresh, ← List.cons_append, ← quote, hone]
  rfl

end Tokens

/-! ## Formulas -/

/-- **A literal in a source.**  Without the blanks around it the source is made of `front`, the
text `s` between single quotes and `back`; no placeholder touches the literal; and if it is empty,
no quote follows it directly, where three quotes would begin a literal of another form. -/
structure Quotes (source front s back : String) : Prop where
  text : trimChars source.toList = front.toList ++ quote s ++ back.toList
  plain : IsPlain s.toList
  apart : pieces (front.toList ++ quote s ++ back.toList)
    = pieces front.toList ++ typed (quote s) ++ pieces back.toList
  single : s = "" → back.toList.head? ≠ some '\''

/-- A token of the source begins where its literal does. -/
def BeginsQuote (source s back : String) : Prop :=
  ∃ depth cuts, Run (sourceLabels source) ⟨0, true, sourcePieces source⟩ cuts
    ⟨depth, false, typed (quote s) ++ unifyEnds (pieces back.toList)⟩

section Formulas

variable {source source' front s t back : String} {f : Formula}

/-- Of the characters that no literal holds only its quotes stand in it. -/
lemma notMem_quote {c : Char} (hc : c ∈ ['"', '\\', '\n', '\r', '\x00']) (h : IsPlain s.toList) :
    c ∉ quote s := by
  intro hmem
  have hne : c ≠ '\'' := by
    rintro rfl
    exact absurd hc (by decide)
  have hmem : c ∈ s.toList := by simpa [quote, hne] using hmem
  exact h c hmem (List.mem_cons_of_mem _ hc)

/-- **A literal without dollar signs is touched by no placeholder**, if none is open where it
begins, or if no dollar sign follows. -/
lemma apart_of_notMem {a b : List Char} (hs : '$' ∉ quote s) (h : isClosed a ∨ '$' ∉ b) :
    pieces (a ++ quote s ++ b) = pieces a ++ typed (quote s) ++ pieces b := by
  have hback : pieces (quote s ++ b) = typed (quote s) ++ pieces b := pieces_append_typed hs b
  rcases h with hclosed | hb
  · rw [List.append_assoc, pieces_append hclosed, hback, List.append_assoc]
  · have hall : '$' ∉ quote s ++ b := by simp [hs, hb]
    rw [List.append_assoc, pieces_append_of_notMem hall, pieces_of_notMem hb, List.append_assoc]
    simp [typed]

lemma head?_unifyLineEnds {cs : List Char} (h : (unifyLineEnds cs).head? = some '\'') :
    cs.head? = some '\'' := by
  cases cs with
  | nil => cases h
  | cons c cs =>
      by_cases hc : c = '\r'
      · subst hc
        cases cs with
        | nil => cases h
        | cons d cs =>
            by_cases hd : d = '\n'
            · subst hd
              cases h
            · rw [unifyLineEnds] at h
              · cases h
              · exact fun _ heq => hd (List.cons.inj heq).1
      · rw [unifyLineEnds_cons _ hc] at h
        exact h

/-- A quote that the text begins with was typed. -/
lemma head?_expand_unifyEnds {labels : List String} {b : List Char} (h : b.head? ≠ some '\'') :
    (expand labels (unifyEnds (pieces b))).head? ≠ some '\'' := by
  rw [expand_unifyEnds]
  intro hquote
  have hhead := head?_unifyLineEnds hquote
  cases b with
  | nil =>
      rw [pieces_nil] at hhead
      cases hhead
  | cons c b =>
      by_cases hc : c = '$'
      · subst hc
        cases hplace : placeholder? b with
        | none =>
            rw [pieces_dollar hplace] at hhead
            cases hhead
        | some p =>
            rw [pieces_placeholder hplace, expand_hole, toList_bindingName] at hhead
            cases hhead
      · rw [pieces_cons _ hc] at hhead
        exact h hhead

namespace Quotes

lemma labels_eq (h : Quotes source front s back) :
    sourceLabels source = gather (gather [] (pieces front.toList)) (pieces back.toList) := by
  rw [sourceLabels, h.text, h.apart, gather_append, gather_append, gather_map_typed]

lemma pieces_eq (h : Quotes source front s back) :
    sourcePieces source = unifyEnds (pieces front.toList) ++
      .typed '\'' :: (typed (s.toList ++ ['\'']) ++ unifyEnds (pieces back.toList)) := by
  have hquote : typed (quote s) ++ pieces back.toList
      = .typed '\'' :: (typed (s.toList ++ ['\'']) ++ pieces back.toList) := rfl
  rw [sourcePieces, h.text, h.apart, List.append_assoc, hquote, unifyEnds_append, ← hquote,
    unifyEnds_typed (notMem_quote (by decide) h.plain)]
  rfl

/-- **The tokens of a source are those in front of its literal, the literal and those behind
it.** -/
lemma tokensFrom_eq (h : Quotes source front s back) {labels : List String} {depth : Nat}
    {cuts : List Cut}
    (hrun : Run labels ⟨0, true, sourcePieces source⟩ cuts
      ⟨depth, false, typed (quote s) ++ unifyEnds (pieces back.toList)⟩) :
    tokensFrom 0 true (expand labels (sourcePieces source))
      = (tokensFrom depth false (expand labels (unifyEnds (pieces back.toList)))).map fun us =>
          cuts.map Cut.token ++ .quotation (.text s false) :: us := by
  have hsingle : s.toList = [] →
      (expand labels (unifyEnds (pieces back.toList))).head? ≠ some '\'' :=
    fun hs => head?_expand_unifyEnds (h.single (String.toList_eq_nil_iff.1 hs))
  have hcuts := tokensFrom_of_run hrun
  dsimp only at hcuts
  rw [hcuts, expand_append, expand_map_typed, tokensFrom_quote h.plain hsingle, Option.map_map]
  rfl

lemma expand_eq (h : Quotes source front s back) (labels : List String) :
    expand labels (sourcePieces source) = expand labels (unifyEnds (pieces front.toList)) ++
      (quote s ++ expand labels (unifyEnds (pieces back.toList))) := by
  have hquote : sourcePieces source
      = unifyEnds (pieces front.toList) ++ (typed (quote s) ++ unifyEnds (pieces back.toList)) :=
    h.pieces_eq
  rw [hquote, expand_append, expand_append, expand_map_typed]

/-- Another literal brings no null character. -/
lemma notMem_expand (h : Quotes source front s back) (h' : Quotes source' front t back)
    {labels : List String} (hnull : '\x00' ∉ expand labels (sourcePieces source)) :
    '\x00' ∉ expand labels (sourcePieces source') := by
  have hquote : '\x00' ∉ quote t := notMem_quote (by decide) h'.plain
  rw [h.expand_eq, List.mem_append, List.mem_append, not_or, not_or] at hnull
  rw [h'.expand_eq, List.mem_append, List.mem_append, not_or, not_or]
  exact ⟨hnull.1, hquote, hnull.2.2⟩

/-- Another literal begins where the one in its place does. -/
lemma run_eq (h : Quotes source front s back) (h' : Quotes source' front t back)
    {labels : List String} {depth : Nat} {cuts : List Cut}
    (hrun : Run labels ⟨0, true, sourcePieces source⟩ cuts
      ⟨depth, false, typed (quote s) ++ unifyEnds (pieces back.toList)⟩) :
    Run labels ⟨0, true, sourcePieces source'⟩ cuts
      ⟨depth, false, typed (quote t) ++ unifyEnds (pieces back.toList)⟩ := by
  rw [h.pieces_eq] at hrun
  rw [h'.pieces_eq]
  exact hrun.quote _

end Quotes

/-- **Tokens begin with the literal that a source begins with.** -/
lemma Quotes.beginsQuote (h : Quotes source "" s back) : BeginsQuote source s back := by
  have hrest : sourcePieces source = typed (quote s) ++ unifyEnds (pieces back.toList) := by
    rw [h.pieces_eq, String.toList_empty, pieces_nil]
    rfl
  have hnext : next 0 true (expand (sourceLabels source) (sourcePieces source))
      = some ((none, 0, false), expand (sourceLabels source) (sourcePieces source)) := by
    rw [hrest, expand_append, expand_map_typed, quote, List.cons_append, List.cons_append,
      next_fresh]
  refine ⟨0, [], ?_⟩
  rw [← hrest]
  exact @Run.step _ 0 true [] _ (none, 0, false) [] _ hnext (.refl _)

lemma same_text (ts us : List Token) (s t : String) (marked : Bool) :
    Same (ts ++ .quotation (.text s marked) :: us) (ts ++ .quotation (.text t marked) :: us) := by
  induction ts with
  | nil => exact .text s t marked (.refl us)
  | cons x ts ih => exact .cons x ih

/-- **Another literal in the place of one makes no difference but its own.** -/
lemma compile_of_quotes (h : Quotes source front s back) (h' : Quotes source' front t back)
    (hbegins : BeginsQuote source s back) (hf : compile source = .ok f) :
    ∃ f', compile source' = .ok f' ∧ f'.labels = f.labels ∧ ∃ vs x y vs',
      f.term.literals = vs ++ .text (x ++ s ++ y) :: vs' ∧
        f'.term.literals = vs ++ .text (x ++ t ++ y) :: vs' := by
  obtain ⟨hnull, ts, tree, term, hts, htree, hterm, rfl⟩ := compile_eq_ok_iff.1 hf
  obtain ⟨depth, cuts, hrun⟩ := hbegins
  have hlabels : sourceLabels source' = sourceLabels source := by rw [h.labels_eq, h'.labels_eq]
  rw [h.tokensFrom_eq hrun] at hts
  obtain ⟨us, hus, rfl⟩ := Option.map_eq_some_iff.1 hts
  have hts' := h'.tokensFrom_eq (h.run_eq h' hrun)
  rw [hus, Option.map_some] at hts'
  obtain ⟨tree', term', htree', hterm'⟩ :=
    exists_term_of_same (same_text (cuts.map Cut.token) us s t false) htree hterm
  refine ⟨⟨source', sourceLabels source', term'.guarded⟩, ?_, hlabels, ?_⟩
  · refine compile_eq_ok_iff.2 ⟨?_, _, tree', term', ?_, htree', ?_, rfl⟩
    · rw [hlabels]
      exact h.notMem_expand h' hnull
    · rw [hlabels]
      exact hts'
    · rw [hlabels]
      exact hterm'
  · have hfree := isFree_bindings (sourceLabels source)
    obtain ⟨vs, x, y, vs', hliterals⟩ := exists_literalsOf (cuts.map Cut.token) us
    refine ⟨vs, x, y, vs', ?_, ?_⟩
    · rw [Term.literals_guarded, ← (Syntax.accounts_of_ofTokens? hfree htree hterm).literals,
        hliterals]
    · rw [Term.literals_guarded, ← (Syntax.accounts_of_ofTokens? hfree htree' hterm').literals,
        hliterals]

/-- A text. -/
def Syntax.isText : Syntax → Bool
  | .literal (.text _ _) => true
  | _ => false

lemma Syntax.isText_shape (e : Syntax) : e.shape.isText = e.isText := by
  cases e with
  | literal l => cases l <;> rfl
  | _ => rfl

/-- A literal alone has the tree of one, whatever its text is. -/
lemma ofTokens?_text (bound : List (String × String)) (hbound : IsFree bound) (u : String) :
    ∃ e, Syntax.ofTokens? [.quotation (.text u false)] = some e ∧
      e.term? bound = some (.literal (.text u)) := by
  have hempty :
      (Syntax.ofTokens? [.quotation (.text "" false)]).any Syntax.isText := by decide +kernel
  obtain ⟨e, he, htext⟩ := (Option.any_eq_true _ _).1 hempty
  have hrel := Syntax.rel_ofTokens? (.text "" u false .nil)
  rw [he] at hrel
  obtain ⟨hnone, -⟩ | ⟨_, e', heq, he', hshape⟩ := rel_cases hrel
  · cases hnone
  cases heq
  rw [← Syntax.isText_shape, hshape, Syntax.isText_shape] at htext
  refine ⟨e', he', ?_⟩
  cases e' with
  | literal l =>
      cases l with
      | text v marked =>
          have hliterals := (Syntax.accounts_of_ofTokens? hbound he' rfl).literals
          have hv : u = v := by
            simpa [literalsOf, startsQuotation, Quotation.content, Term.literals] using hliterals
          rw [hv]
          rfl
      | _ => cases htext
  | _ => cases htext

lemma isPlain_expand {cs : List Char} (h : IsPlain cs) (labels : List String) :
    IsPlain (expand labels (pieces cs)) := by
  intro c hc
  obtain ⟨p, hp, hc⟩ := List.mem_flatMap.1 hc
  cases p with
  | typed x =>
      obtain rfl : c = x := by simpa [Piece.chars] using hc
      exact h c (mem_of_typed_mem hp)
  | hole label =>
      have hplain : ∀ c ∈ ['\'', '"', '\\', '\n', '\r', '\x00'], ¬ IsNameChar c := by
        simp [IsNameChar]
      exact fun hmem => hplain c hmem (isNameChar_of_mem hc)

lemma toList_quoted (s : String) : ("'" ++ s ++ "'").toList = quote s := by
  simp [quote]

lemma trimChars_quote (s : String) : trimChars (quote s) = quote s := by
  have hquote : isBlank '\'' = false := by decide
  simp [trimChars, quote, hquote]

/-- **A text between quotes is a formula**, whose value is the text with its placeholders
replaced. -/
lemma compile_quote {s : String} (h : IsPlain s.toList) :
    compile ("'" ++ s ++ "'") = .ok ⟨"'" ++ s ++ "'", gather [] (pieces s.toList),
      .literal (.text (String.ofList
        (expand (gather [] (pieces s.toList)) (pieces s.toList))))⟩ := by
  have hpieces : pieces (trimChars ("'" ++ s ++ "'").toList)
      = .typed '\'' :: (pieces s.toList ++ typed ['\'']) := by
    rw [toList_quoted, trimChars_quote, quote, List.cons_append, pieces_cons _ (by decide),
      pieces_append_of_notMem (by decide)]
  have hlabels : sourceLabels ("'" ++ s ++ "'") = gather [] (pieces s.toList) := by
    rw [sourceLabels, hpieces, gather, gather_append, gather_map_typed]
  set labels := gather [] (pieces s.toList)
  have hplain : IsPlain (String.ofList (expand labels (pieces s.toList))).toList := by
    rw [String.toList_ofList]
    exact isPlain_expand h labels
  have htext : expand labels (sourcePieces ("'" ++ s ++ "'"))
      = quote (String.ofList (expand labels (pieces s.toList))) := by
    have hquote : expand labels (pieces (trimChars ("'" ++ s ++ "'").toList))
        = quote (String.ofList (expand labels (pieces s.toList))) := by
      rw [hpieces, expand_typed, expand_append, expand_map_typed, quote, String.toList_ofList]
      rfl
    rw [sourcePieces, expand_unifyEnds, hquote]
    simpa [unifyLineEnds] using unifyLineEnds_append [] (notMem_quote (by decide) hplain)
  obtain ⟨e, he, hterm⟩ := ofTokens?_text (bindings labels) (isFree_bindings labels)
    (String.ofList (expand labels (pieces s.toList)))
  refine compile_eq_ok_iff.2 ⟨?_, _, e, .literal (.text _), ?_, he, ?_, by rw [hlabels]; rfl⟩
  · rw [hlabels, htext]
    exact notMem_quote (by decide) hplain
  · rw [hlabels, htext, tokensFrom_quote_alone hplain]
  · rw [hlabels]
    exact hterm

/-- A formula that is a text and reads nothing has this text as its value on every row. -/
lemma evaluate_text (source u : String) (row : Row) :
    evaluate ⟨source, [], .literal (.text u)⟩ row = .ok (.text u) := rfl

/-- A formula with labels has no value on the row without any. -/
lemma evaluate_empty (hlabels : f.labels ≠ []) (v : Value) : f.evaluate ⟨[]⟩ ≠ .ok v := by
  obtain ⟨label, labels, hcons⟩ := List.exists_cons_of_ne_nil hlabels
  rw [evaluate, hcons]
  intro hvalue
  cases hvalue

/-- **Literals denote themselves unless a placeholder touches them.**

A text between single quotes is a formula, and its labels are those of the placeholders in the
text.  It has no labels exactly if there is no placeholder in the text, and it has the text as its
value on every row exactly then.

Another literal in the place of one in a formula, neither touched by a placeholder, makes a formula
with the same labels, whose literals are the same but for this text in the one that holds it. -/
theorem compile_literals {s : String} (hs : IsPlain s.toList) :
    (∃ f, compile ("'" ++ s ++ "'") = .ok f ∧ f.labels = gather [] (pieces s.toList) ∧
      (f.labels = [] ↔ ∀ label, .hole label ∉ pieces s.toList) ∧
        ((∀ row, f.evaluate row = .ok (.text s)) ↔
          ∀ label, .hole label ∉ pieces s.toList)) ∧
      ∀ {source source' front t back : String} {f : Formula},
        Quotes source front s back → Quotes source' front t back → BeginsQuote source s back →
          compile source = .ok f →
            ∃ f', compile source' = .ok f' ∧ f'.labels = f.labels ∧ ∃ vs x y vs',
              f.term.literals = vs ++ .text (x ++ s ++ y) :: vs' ∧
                f'.term.literals = vs ++ .text (x ++ t ++ y) :: vs' := by
  refine ⟨⟨_, compile_quote hs, rfl, ?_⟩, compile_of_quotes⟩
  dsimp only
  have hlabels : gather [] (pieces s.toList) = [] ↔
      ∀ label, .hole label ∉ pieces s.toList := by
    refine ⟨fun hnil label hmem => ?_, fun hnone => ?_⟩
    · have hlabel : label ∈ gather [] (pieces s.toList) := mem_gather hmem
      rw [hnil] at hlabel
      cases hlabel
    · rw [pieces_eq_typed hnone, gather_map_typed]
  refine ⟨hlabels, fun hvalue => ?_, fun hnone row => ?_⟩
  · by_contra hsome
    exact evaluate_empty (mt hlabels.1 hsome) _ (hvalue ⟨[]⟩)
  · rw [hlabels.2 hnone, pieces_eq_typed hnone, expand_map_typed, String.ofList_toList]
    exact evaluate_text _ s row

/-- A state that is compared to a column. -/
def isOn : String := "'on' == lower($state$)"

/-- The same comparison to another state. -/
def isOff : String := "'off' == lower($state$)"

/-- A text with one dollar sign is a formula, and a literal that is compared to a field can be
replaced. -/
theorem compile_literals_state :
    (∃ f, compile ("'" ++ "5 $" ++ "'") = .ok f ∧ f.labels = [] ∧
      ∀ row, f.evaluate row = .ok (.text "5 $")) ∧
      ∃ f f', compile isOn = .ok f ∧ compile isOff = .ok f' ∧ f.labels = ["state"] ∧
        f'.labels = ["state"] ∧
          ∃ vs x y vs', f.term.literals = vs ++ .text (x ++ "on" ++ y) :: vs' ∧
          f'.term.literals = vs ++ .text (x ++ "off" ++ y) :: vs' := by
  constructor
  · have hplain : IsPlain "5 $".toList := by decide
    obtain ⟨⟨f, hf, -, hlabels, hvalue⟩, -⟩ := compile_literals hplain
    have hnone : ∀ label, .hole label ∉ pieces "5 $".toList := by
      have hpieces : pieces "5 $".toList = typed "5 $".toList := by decide +kernel
      rw [hpieces]
      simp [typed]
    exact ⟨f, hf, hlabels.2 hnone, hvalue.2 hnone⟩
  · have hon : Quotes isOn "" "on" " == lower($state$)" :=
      ⟨by decide +kernel, by decide, apart_of_notMem (by decide) (Or.inl (by decide +kernel)),
        by decide⟩
    have hoff : Quotes isOff "" "off" " == lower($state$)" :=
      ⟨by decide +kernel, by decide, apart_of_notMem (by decide) (Or.inl (by decide +kernel)),
        by decide⟩
    have hlabels : sourceLabels isOn = ["state"] := by decide +kernel
    have htext : expand (sourceLabels isOn) (sourcePieces isOn)
        = quote "on" ++ " == lower(_v0)".toList := by decide +kernel
    have hback : tokensFrom 0 false " == lower(_v0)".toList
        = some [.symbol "==", .word "lower", .symbol "(", .word "_v0", .symbol ")"] := by
      rfl
    have htokens : tokensFrom 0 true (expand (sourceLabels isOn) (sourcePieces isOn))
        = some [.quotation (.text "on" false), .symbol "==", .word "lower", .symbol "(",
          .word "_v0", .symbol ")"] := by
      rw [htext, quote, List.cons_append, List.cons_append, tokensFrom_fresh, ← List.cons_append,
        ← List.cons_append, ← quote, tokensFrom_quote (by decide) (by decide), hback]
      rfl
    have hterm : ((Syntax.ofTokens? [.quotation (.text "on" false), .symbol "==", .word "lower",
        .symbol "(", .word "_v0", .symbol ")"]).bind (·.term? (bindings ["state"]))).isSome := by
      decide +kernel
    obtain ⟨term, hterm⟩ := Option.isSome_iff_exists.1 hterm
    obtain ⟨tree, htree, hterm⟩ := Option.bind_eq_some_iff.1 hterm
    have hf : compile isOn = .ok ⟨isOn, ["state"], term.guarded⟩ :=
      compile_eq_ok_iff.2 ⟨by rw [htext]; decide, _, tree, term, htokens, htree,
        by rw [hlabels]; exact hterm, by rw [hlabels]⟩
    obtain ⟨f', hf', hsame, hliterals⟩ :=
      (compile_literals hon.plain).2 hon hoff hon.beginsQuote hf
    exact ⟨_, f', hf, hf', rfl, hsame, hliterals⟩

/-- **A literal can be taken for a placeholder.**  The text between the quotes is plain, and the
formula reads it as a label: it has no value on a row without this label, and a name as its value
on others. -/
theorem compile_placeholder_in_literal : IsPlain "$A$".toList ∧ ∃ f, compile "'$A$'" = .ok f ∧
    f.labels = ["A"] ∧ f.evaluate ⟨[]⟩ ≠ .ok (.text "$A$") ∧
      f.evaluate ⟨[("A", "5")]⟩ = .ok (.text "_v0") := by
  have hplain : IsPlain "$A$".toList := by decide
  have hlabels : gather [] (pieces "$A$".toList) = ["A"] := by decide +kernel
  have htext : String.ofList (expand ["A"] (pieces "$A$".toList)) = "_v0" := by decide +kernel
  have hf := compile_quote hplain
  rw [hlabels, htext] at hf
  exact ⟨hplain, _, hf, rfl, evaluate_empty (List.cons_ne_nil _ _) _, by decide +kernel⟩

end Formulas

end Crosswalk.Formula
