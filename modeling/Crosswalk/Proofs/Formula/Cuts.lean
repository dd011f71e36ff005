import Crosswalk.Proofs.Formula.Pieces
import Crosswalk.Proofs.Formula.Scanners
import Crosswalk.Proofs.Formula.Whitelist

/-!
# Where the tokens of a formula stand in its source

The text that is parsed is cut into tokens step by step.  Every step ends between two pieces of the
source, so each token is made of some of them; and no step looks further than the next single
quote.

* `next`, `tokensFrom` — **one step**, and the tokens of all steps from a place on;
  `tokensFrom_eq` says how the two are related.
* `next_eq_some` — what a step uses up, and that it is a cut in the sense of `IsCut`.
* `Cut`, `Run` — tokens with the pieces they are made of, on the way from one place to another.
* `exists_run` — **the tokens of a text are cut out of its source**; `tokensFrom_of_run` is the
  other way round.
* `Run.quote` — how a source goes on behind a quote makes no difference to the cuts in front of
  it. -/

namespace Crosswalk.Formula

/-! ## One step -/

/-- A numeral begins here. -/
def startsNumeral (cs : List Char) : Bool :=
  cs.head?.any Char.isDigit || startsWith (· = '.') Char.isDigit cs

/-- A token that is no line end, with the depth of brackets behind it. -/
def scanToken (depth : Nat) (cs : List Char) : Option ((Token × Nat) × List Char) :=
  if startsNumeral cs then (scanNumeral cs).map fun p => ((.numeral p.1, depth), p.2)
  else match quotationStart? cs with
    | some (marks, quote, tail) =>
      (scanQuotation marks quote tail).map fun p => ((.quotation p.1, depth), p.2)
    | none =>
      if cs.head?.any isWordChar then (scanWord cs).map fun p => ((.word p.1, depth), p.2)
      else (scanSymbol cs).bind fun p =>
        (bracketDepth depth p.1).map fun depth => ((.symbol p.1, depth), p.2)

/-- What comes off a text: a token or nothing, the depth of brackets behind it, and whether a line
starts there. -/
abbrev Step := Option Token × Nat × Bool

/-- A step within a line. -/
def goOn (depth : Nat) : List Char → Option (Step × List Char)
  | [] => none
  | '\\' :: '\n' :: rest => if rest.isEmpty then none else some ((none, depth, false), rest)
  | c :: rest =>
    if c = ' ' || c = '\t' || c = '\x0c' then some ((none, depth, false), rest)
    else if c = '#' then some ((none, depth, false), rest.dropWhile (· != '\n'))
    else if c = '\n' then
      some (if depth = 0 then (some .lineEnd, depth, true) else (none, depth, false), rest)
    else (scanToken depth (c :: rest)).map fun p => ((some p.1.1, p.1.2, false), p.2)

/-- What a line may start with behind its margin. -/
def lineStart (depth column : Nat) : List Char → Option (Step × List Char)
  | [] => none
  | c :: rest =>
    if c = '\n' then some ((none, depth, true), rest)
    else if c = '#' then some ((none, depth, true), (rest.dropWhile (· != '\n')).drop 1)
    else if column = 0 then some ((none, depth, false), c :: rest) else none

/-- A step at the start of a line. -/
def startLine (depth : Nat) (cs : List Char) : Option (Step × List Char) :=
  (margin 0 0 cs).bind fun p => lineStart depth p.1 p.2

/-- **One step of the cutting.** -/
def next (depth : Nat) (fresh : Bool) (cs : List Char) : Option (Step × List Char) :=
  if fresh then startLine depth cs else goOn depth cs

/-- Nothing but a margin is left. -/
def atEnd (fresh : Bool) (cs : List Char) : Bool :=
  if fresh then (margin 0 0 cs).any (·.2.isEmpty) else cs.isEmpty

/-- What is done with each kind of token in turn. -/
lemma scanToken_bind {c : Char} {cs : List Char} {depth : Nat}
    (more : Nat → List Char → Option (List Token)) :
    (if startsNumeral (c :: cs) then do
        let (l, tail) ← scanNumeral (c :: cs)
        (.numeral l :: ·) <$> more depth tail
      else match quotationStart? (c :: cs) with
        | some (marks, quote, tail) => do
          let (q, tail) ← scanQuotation marks quote tail
          (.quotation q :: ·) <$> more depth tail
        | none =>
          if isWordChar c then do
            let (w, tail) ← scanWord (c :: cs)
            (.word w :: ·) <$> more depth tail
          else do
            let (s, tail) ← scanSymbol (c :: cs)
            let depth ← bracketDepth depth s
            (.symbol s :: ·) <$> more depth tail)
      = (scanToken depth (c :: cs)).bind fun p => (more p.1.2 p.2).map (p.1.1 :: ·) := by
  rw [scanToken]
  split
  · cases scanNumeral (c :: cs) <;> rfl
  · rcases quotationStart? (c :: cs) with _ | ⟨marks, quote, tail⟩
    · by_cases hword : isWordChar c
      · simp only [List.head?_cons, Option.any_some, hword, if_true]
        cases scanWord (c :: cs) <;> rfl
      · simp only [List.head?_cons, Option.any_some, hword]
        rcases scanSymbol (c :: cs) with _ | ⟨s, tail⟩
        · rfl
        · cases hdepth : bracketDepth depth s <;> simp [hdepth]
    · cases hquotation : scanQuotation marks quote tail <;> simp [hquotation]

/-- **Tokens are cut off step by step.** -/
lemma tokensWithin_succ (n depth : Nat) (fresh : Bool) (cs : List Char) :
    tokensWithin (n + 1) depth fresh cs = if atEnd fresh cs then some [] else
      (next depth fresh cs).bind fun p =>
        (tokensWithin n p.1.2.1 p.1.2.2 p.2).map (p.1.1.toList ++ ·) := by
  rw [tokensWithin.eq_def]
  dsimp only
  cases fresh with
  | true =>
      simp only [if_true, atEnd, next, startLine]
      rcases margin 0 0 cs with _ | ⟨column, _ | ⟨c, rest⟩⟩
      · rfl
      · rfl
      · simp only [Option.any_some, List.isEmpty_cons, Bool.false_eq_true, if_false,
          Option.bind_some, lineStart]
        split_ifs <;> simp
  | false =>
      simp only [Bool.false_eq_true, if_false, atEnd, next]
      split
      · rfl
      · next rest =>
          rw [goOn]
          split <;> simp
      · next c rest hcs =>
          rw [goOn]
          · split
            · simp
            · split
              · simp
              · split
                · split <;> simp
                · rw [Option.bind_map]
                  exact scanToken_bind fun depth tail => tokensWithin n depth false tail
          · exact hcs

/-! ## What one step uses up -/

section Steps

variable {depth : Nat} {fresh : Bool} {cs rest : List Char}

lemma Near.startsNumeral_eq {cs' : List Char} (h : Near cs cs') :
    startsNumeral cs' = startsNumeral cs := by
  rw [startsNumeral, startsNumeral, h.any_head?_eq, h.startsWith_eq _ rfl]

lemma quote_of_isQuote {quote : Char} (h : IsQuote quote) :
    quote ≠ '\\' ∧ ¬ IsNameChar quote := by
  rcases h with rfl | rfl <;> decide

lemma isCut_of_getLast? {c : Char} {used : List Char} (h : used.getLast? = some c)
    (hc : ¬ IsNameChar c) : IsCut used rest := Or.inr (Or.inr ⟨c, h, hc⟩)

lemma isCut_of_endsNumeral {used : List Char} (h : endsNumeral rest) : IsCut used rest :=
  Or.inr (Or.inl fun _ hc => not_of_endsNumeral h hc)

lemma isCut_of_isWordChar {used : List Char} (h : ∀ c ∈ rest.head?, isWordChar c = false) :
    IsCut used rest := by
  refine Or.inr (Or.inl fun c hc => ⟨?_, ?_⟩)
  · rintro rfl
    cases h 'v' hc
  · have hword := h c hc
    simp only [isWordChar, Char.isAlphanum, Bool.or_eq_false_iff] at hword
    exact hword.1.1.2

/-- **A token is cut off behind what it needs**, whatever follows up to a quote. -/
lemma scanToken_eq_some {t : Token} {depth' : Nat}
    (h : scanToken depth cs = some ((t, depth'), rest)) :
    ∃ used, used ≠ [] ∧ cs = used ++ rest ∧ IsCut used rest ∧
      (∀ w, t = .word w → used = w.toList) ∧
        ∀ ⦃rest' : List Char⦄, Near rest rest' →
          scanToken depth (used ++ rest') = some ((t, depth'), rest') := by
  rw [scanToken] at h
  split at h
  · next hnumeral =>
      obtain ⟨⟨l, tail⟩, hscan, h⟩ := Option.map_eq_some_iff.1 h
      cases h
      obtain ⟨hends, hlength⟩ := endsNumeral_of_scanNumeral hscan
      obtain ⟨used, rfl, hused⟩ := scanNumeral_steady hscan
      refine ⟨used, ?_, rfl, isCut_of_endsNumeral hends, fun w hw => (by cases hw),
        fun rest' hrest => ?_⟩
      · rintro rfl
        exact Nat.lt_irrefl _ hlength
      · rw [scanToken, (hrest.append used).startsNumeral_eq, if_pos hnumeral, hused hrest]
        rfl
  · next hnumeral =>
      split at h
      · next marks quote tail hstart =>
          obtain ⟨⟨q, tail⟩, hscan, h⟩ := Option.map_eq_some_iff.1 h
          cases h
          obtain ⟨hquote, front, rfl, hfront⟩ := quotationStart?_eq_some hstart
          obtain ⟨hslash, hname⟩ := quote_of_isQuote hquote
          obtain ⟨used, rfl, hlast, hused⟩ := scanQuotation_eq_some hslash hscan
          have hlast' : (front ++ quote :: used).getLast? = some quote := by
            rw [List.getLast?_append, List.getLast?_cons, hlast]
            rfl
          refine ⟨front ++ quote :: used, by simp, by simp, isCut_of_getLast? hlast' hname,
            fun w hw => (by cases hw), fun rest' hrest => ?_⟩
          have hnear := (Near.cons quote (hrest.append used)).append front
          rw [List.append_assoc, List.cons_append, scanToken, hnear.startsNumeral_eq,
            if_neg hnumeral, hfront]
          simp only [hused hrest, Option.map_some]
      · next hstart =>
          split at h
          · next hword =>
              obtain ⟨⟨w, tail⟩, hscan, h⟩ := Option.map_eq_some_iff.1 h
              cases h
              obtain ⟨hne, rfl, hends, hused⟩ := scanWord_eq_some hscan
              refine ⟨w.toList, hne, rfl, isCut_of_isWordChar hends, ?_, fun rest' hrest => ?_⟩
              · rintro _ ⟨⟩
                rfl
              · have hnear := hrest.append w.toList
                rw [scanToken, hnear.startsNumeral_eq, if_neg hnumeral,
                  hnear.quotationStart?_eq_none hstart, hnear.any_head?_eq]
                simp only [hword, if_true, hused hrest, Option.map_some]
          · next hword =>
              obtain ⟨⟨s, tail⟩, hscan, h⟩ := Option.bind_eq_some_iff.1 h
              obtain ⟨depth', hdepth, h⟩ := Option.map_eq_some_iff.1 h
              cases h
              obtain ⟨hmem, rfl, hused⟩ := scanSymbol_eq_some hscan
              obtain ⟨c, hc, hname⟩ := getLast?_of_mem_symbols hmem
              refine ⟨s.toList, ?_, rfl, isCut_of_getLast? hc (by simpa [IsNameChar] using hname),
                fun w hw => (by cases hw), fun rest' hrest => ?_⟩
              · intro hnil
                rw [hnil] at hc
                cases hc
              · have hnear := hrest.append s.toList
                rw [scanToken, hnear.startsNumeral_eq, if_neg hnumeral,
                  hnear.quotationStart?_eq_none hstart, hnear.any_head?_eq]
                simp only [hword, Bool.false_eq_true, if_false, hused hrest, Option.bind_some,
                  hdepth, Option.map_some]

/-- No token begins with a backslash. -/
lemma scanToken_backslash (depth : Nat) (cs : List Char) : scanToken depth ('\\' :: cs) = none := by
  have hslash : ¬ IsQuote '\\' := by decide
  have hstart : quotationStart? ('\\' :: cs) = none := by
    rcases cs with _ | ⟨b, cs⟩
    · rfl
    by_cases hb : IsQuote b
    · rw [quotationStart?_mark hslash hb]
      rfl
    · rcases cs with _ | ⟨c, cs⟩
      · obtain ⟨hb, hb'⟩ := not_or.1 hb
        simp [quotationStart?, hb, hb']
      · rw [quotationStart?_marks hslash hb, if_neg]
        have hlower : '\\'.toLower = '\\' := by decide
        exact fun h => absurd h.2 (by simp [hlower])
  have hsymbol : scanSymbol ('\\' :: cs) = none := by
    have hhead : ∀ s ∈ symbols, s.toList.head?.any (· != '\\') := by decide
    rw [scanSymbol, Option.map_eq_none_iff, List.find?_eq_none]
    intro s hs hpre
    obtain ⟨c, hc, hne⟩ := (Option.any_eq_true _ _).1 (hhead s hs)
    obtain ⟨w, hw⟩ := List.head?_eq_some_iff.1 hc
    rw [hw, List.isPrefixOf, Bool.and_eq_true, beq_iff_eq] at hpre
    exact bne_iff_ne.1 hne hpre.1
  rw [scanToken, if_neg (by simp [startsNumeral, startsWith]), hstart]
  dsimp only
  rw [if_neg (by simp [isWordChar]), hsymbol]
  rfl

/-- A comment goes up to the end of its line, whatever follows up to a quote. -/
lemma skipLine_eq (cs : List Char) : ∃ used, cs = used ++ cs.dropWhile (· != '\n') ∧
    (∀ c ∈ (cs.dropWhile (· != '\n')).head?, c = '\n') ∧
      ∀ ⦃rest' : List Char⦄, Near (cs.dropWhile (· != '\n')) rest' →
        (used ++ rest').dropWhile (· != '\n') = rest' := by
  have hfront : ∀ c ∈ cs.takeWhile (· != '\n'), (c != '\n') = true :=
    fun c => List.mem_takeWhile_imp
  have hback : ∀ c ∈ (cs.dropWhile (· != '\n')).head?, c = '\n' := fun c hc => by
    have hstop := List.head?_dropWhile_not (· != '\n') cs
    rw [hc] at hstop
    simpa using hstop
  refine ⟨_, List.takeWhile_append_dropWhile.symm, hback, fun rest' hrest => ?_⟩
  rw [← hrest.head?_eq] at hback
  exact (takeWhile_dropWhile_append hfront fun c hc => by simpa using hback c hc).2

/-- How many steps a text may take. -/
def weight (fresh : Bool) (cs : List Char) : Nat := 2 * cs.length + fresh.toNat

/-- **A step within a line.** -/
lemma goOn_eq_some {a : Step} (h : goOn depth cs = some (a, rest)) :
    ∃ used, used ≠ [] ∧ cs = used ++ rest ∧ IsCut used rest ∧
      (∀ w, a.1 = some (.word w) → used = w.toList) ∧
        ∀ ⦃rest' : List Char⦄, Near rest rest' →
          goOn depth (used ++ rest') = some (a, rest') := by
  revert h
  fun_cases goOn depth cs with
  | case1 => nofun
  | case2 rest hrest => nofun
  | case3 rest hrest =>
      rintro ⟨⟩
      refine ⟨['\\', '\n'], by simp, rfl, isCut_of_getLast? rfl (by decide),
        fun w hw => (by cases hw), fun rest' hnear => ?_⟩
      rw [List.cons_append, List.singleton_append, goOn, hnear.isEmpty_eq, if_neg hrest]
  | case4 c rest hcs hblank =>
      rintro ⟨⟩
      have hc : ¬ IsNameChar c ∧ c ≠ '\\' := by
        simp only [Bool.or_eq_true, decide_eq_true_eq] at hblank
        rcases hblank with (rfl | rfl) | rfl <;> decide
      refine ⟨[c], by simp, rfl, isCut_of_getLast? rfl hc.1, fun w hw => (by cases hw),
        fun rest' hnear => ?_⟩
      rw [List.singleton_append, goOn, if_pos hblank]
      exact fun _ h => absurd h hc.2
  | case5 rest hcs hblank =>
      rintro ⟨⟩
      obtain ⟨used, hrest, hstop, hused⟩ := skipLine_eq rest
      refine ⟨'#' :: used, by simp, congrArg ('#' :: ·) hrest, Or.inr (Or.inl fun c hc => ?_),
        fun w hw => (by cases hw), fun rest' hnear => ?_⟩
      · obtain rfl := hstop c hc
        decide
      · rw [List.cons_append, goOn, if_neg (by decide), if_pos rfl, hused hnear]
        exact fun _ h => by cases h
  | case6 rest hcs hblank hcomment =>
      rintro ⟨⟩
      refine ⟨['\n'], by simp, rfl, isCut_of_getLast? rfl (by decide), fun w hw => ?_,
        fun rest' hnear => rfl⟩
      split at hw <;> cases hw
  | case7 c rest hcs hblank hcomment hline =>
      intro h
      obtain ⟨⟨⟨t, depth'⟩, tail⟩, hscan, h⟩ := Option.map_eq_some_iff.1 h
      cases h
      obtain ⟨used, hne, heq, hcut, hword, hused⟩ := scanToken_eq_some hscan
      refine ⟨used, hne, heq, hcut, fun w hw => hword w (Option.some.inj hw),
        fun rest' hnear => ?_⟩
      obtain ⟨d, used, rfl⟩ := List.exists_cons_of_ne_nil hne
      obtain ⟨rfl, rfl⟩ := List.cons.inj heq
      rw [List.cons_append, goOn, if_neg hblank, if_neg hcomment, if_neg hline,
        ← List.cons_append, hused hnear]
      · rfl
      · rintro more rfl -
        rw [scanToken_backslash] at hscan
        cases hscan

lemma lineStart_eq_some {a : Step} {column : Nat} (h : lineStart depth column cs = some (a, rest)) :
    ∃ used, cs = used ++ rest ∧ IsCut used rest ∧ a.1 = none ∧
      weight a.2.2 rest < weight true cs ∧
        ∀ ⦃rest' : List Char⦄, Near rest rest' →
          lineStart depth column (used ++ rest') = some (a, rest') := by
  cases cs with
  | nil => cases h
  | cons c cs =>
      rw [lineStart] at h
      split at h
      · next hc =>
          cases h
          subst hc
          refine ⟨['\n'], rfl, isCut_of_getLast? rfl (by decide), rfl, ?_, fun rest' _ => rfl⟩
          simp only [weight, List.length_cons, Bool.toNat_true]
          omega
      · next hline =>
          split at h
          · next hc =>
              cases h
              subst hc
              obtain ⟨used, hcs, hstop, hused⟩ := skipLine_eq cs
              cases hskip : cs.dropWhile (· != '\n') with
              | nil =>
                  rw [hskip] at hcs hused
                  refine ⟨'#' :: used, congrArg ('#' :: ·) hcs, Or.inr (Or.inl (by simp)), rfl,
                    ?_, fun rest' hnear => ?_⟩
                  · simp only [weight, List.length_cons, List.drop_nil, List.length_nil]
                    omega
                  · obtain rfl := hnear.nil_left
                    rw [List.cons_append, lineStart, if_neg (by decide), if_pos rfl,
                      hused (.refl [])]
                    rfl
              | cons d more =>
                  rw [hskip] at hcs hused hstop
                  obtain rfl := hstop d rfl
                  have hlast : ('#' :: used ++ ['\n']).getLast? = some '\n' := List.getLast?_concat
                  refine ⟨'#' :: used ++ ['\n'], by simp [hcs],
                    isCut_of_getLast? hlast (by decide), rfl, ?_, fun rest' hnear => ?_⟩
                  · have hlength := congrArg List.length hcs
                    simp only [List.length_append, List.length_cons] at hlength
                    simp only [weight, List.length_cons, List.drop_succ_cons, List.drop_zero,
                      Bool.toNat_true]
                    omega
                  · rw [List.append_assoc, List.cons_append, lineStart, if_neg (by decide),
                      if_pos rfl, List.singleton_append, hused (.cons '\n' hnear)]
                    rfl
          · next hcomment =>
              split at h
              · next hcolumn =>
                  cases h
                  refine ⟨[], rfl, Or.inl rfl, rfl, Nat.lt_succ_self _, fun rest' hnear => ?_⟩
                  obtain ⟨cs', rfl⟩ : ∃ cs', rest' = c :: cs' :=
                    List.head?_eq_some_iff.1 hnear.head?_eq
                  rw [List.nil_append, lineStart, if_neg hline, if_neg hcomment, if_pos hcolumn]
              · cases h

/-- **A step at the start of a line.** -/
lemma startLine_eq_some {a : Step} (h : startLine depth cs = some (a, rest)) :
    ∃ used, cs = used ++ rest ∧ IsCut used rest ∧ a.1 = none ∧
      weight a.2.2 rest < weight true cs ∧
      ∀ ⦃rest' : List Char⦄, Near rest rest' →
        startLine depth (used ++ rest') = some (a, rest') := by
  obtain ⟨⟨column, tail⟩, hmargin, hstart⟩ := Option.bind_eq_some_iff.1 h
  obtain ⟨used, rfl, hblank, hused⟩ := margin_eq_some hmargin
  obtain ⟨more, rfl, hcut, hnone, hweight, hmore⟩ := lineStart_eq_some hstart
  refine ⟨used ++ more, (List.append_assoc used more rest).symm, ?_, hnone, ?_,
    fun rest' hnear => ?_⟩
  · by_cases hnil : more = []
    · subst hnil
      rw [List.append_nil]
      rcases hlast : used.getLast? with _ | c
      · exact Or.inl (List.getLast?_eq_none_iff.1 hlast)
      · refine isCut_of_getLast? hlast ?_
        have hnames : ∀ c ∈ '\n' :: marginChars, ¬ IsNameChar c := by
          simp [marginChars, IsNameChar]
        exact hnames c (hblank c (List.mem_of_getLast? hlast))
    · exact hcut.append used hnil
  · simp only [weight, List.length_append] at hweight ⊢
    omega
  · rw [startLine, List.append_assoc, hused (hnear.append more)]
    exact hmore hnear

/-- **A step cuts off a part that is a part of the source, and the same part whatever follows up to
a quote.** -/
theorem next_eq_some {a : Step} (h : next depth fresh cs = some (a, rest)) :
    ∃ used, cs = used ++ rest ∧ IsCut used rest ∧ weight a.2.2 rest < weight fresh cs ∧
      (∀ w, a.1 = some (.word w) → used = w.toList) ∧
        ∀ ⦃rest' : List Char⦄, Near rest rest' →
          next depth fresh (used ++ rest') = some (a, rest') := by
  cases fresh with
  | true =>
      obtain ⟨used, hcs, hcut, hnone, hweight, hused⟩ := startLine_eq_some h
      exact ⟨used, hcs, hcut, hweight, fun w hw => (by rw [hnone] at hw; cases hw), hused⟩
  | false =>
      obtain ⟨used, hne, rfl, hcut, hword, hused⟩ := goOn_eq_some h
      refine ⟨used, rfl, hcut, ?_, hword, hused⟩
      have hlength := List.length_pos_iff.2 hne
      have hle := Bool.toNat_le a.2.2
      simp only [weight, List.length_append]
      omega

lemma next_eq_none_of_atEnd (depth : Nat) (h : atEnd fresh cs) : next depth fresh cs = none := by
  cases fresh with
  | true =>
      obtain ⟨⟨column, tail⟩, hmargin, htail⟩ := (Option.any_eq_true _ _).1 h
      obtain rfl : tail = [] := List.isEmpty_iff.1 htail
      rw [next, if_pos rfl, startLine, hmargin]
      rfl
  | false =>
      obtain rfl : cs = [] := List.isEmpty_iff.1 h
      rfl

end Steps

/-! ## All tokens -/

/-- **The tokens of a text from a place on.** -/
def tokensFrom (depth : Nat) (fresh : Bool) (cs : List Char) : Option (List Token) :=
  tokensWithin (weight fresh cs + 1) depth fresh cs

/-- **The tokens of a text without null characters.** -/
lemma ofText?_eq_some {cs : List Char} {ts : List Token} : Token.ofText? cs = some ts ↔
    '\x00' ∉ unifyLineEnds cs ∧ tokensFrom 0 true (unifyLineEnds cs) = some ts := by
  by_cases hnull : '\x00' ∈ unifyLineEnds cs
  · simp [Token.ofText?, hnull]
  · simp [Token.ofText?, hnull, tokensFrom, weight]

/-- More steps than the weight of the text are not needed. -/
lemma tokensWithin_eq {n m depth : Nat} {fresh : Bool} {cs : List Char} (hn : weight fresh cs < n)
    (hm : weight fresh cs < m) : tokensWithin n depth fresh cs = tokensWithin m depth fresh cs := by
  induction n generalizing m depth fresh cs with
  | zero => exact absurd hn (Nat.not_lt_zero _)
  | succ n ih =>
      obtain ⟨m, rfl⟩ := Nat.exists_eq_succ_of_ne_zero (Nat.ne_of_gt (Nat.zero_lt_of_lt hm))
      rw [tokensWithin_succ, tokensWithin_succ]
      refine if_congr Iff.rfl rfl (Option.bind_congr fun p hp => ?_)
      obtain ⟨-, -, -, hweight, -⟩ := next_eq_some hp
      have hsame : tokensWithin n p.1.2.1 p.1.2.2 p.2 = tokensWithin m p.1.2.1 p.1.2.2 p.2 :=
        ih (by omega) (by omega)
      rw [hsame]

/-- **The tokens are those of the first step and those behind it.** -/
lemma tokensFrom_eq (depth : Nat) (fresh : Bool) (cs : List Char) :
    tokensFrom depth fresh cs = if atEnd fresh cs then some [] else
      (next depth fresh cs).bind fun p =>
        (tokensFrom p.1.2.1 p.1.2.2 p.2).map (p.1.1.toList ++ ·) := by
  rw [tokensFrom, tokensWithin_succ]
  refine if_congr Iff.rfl rfl (Option.bind_congr fun p hp => ?_)
  obtain ⟨-, -, -, hweight, -⟩ := next_eq_some hp
  rw [tokensFrom, tokensWithin_eq hweight (Nat.lt_succ_self _)]

/-! ## Cuts of a source -/

/-- **Where the cutting of a source stands**: the depth of brackets, whether a line starts here,
and the pieces that are left. -/
structure Cursor where
  depth : Nat
  fresh : Bool
  rest : List Piece

/-- **A token with the pieces of the source that it is made of.** -/
structure Cut where
  token : Token
  own : List Piece

/-- **The cuts on the way from one place of a source to another.**  What lies between tokens leaves
no cut. -/
inductive Run (labels : List String) : Cursor → List Cut → Cursor → Prop where
  | refl (r : Cursor) : Run labels r [] r
  | step {depth : Nat} {fresh : Bool} {own rest : List Piece} {a : Step} {cuts : List Cut}
      {r : Cursor}
      (h : next depth fresh (expand labels (own ++ rest)) = some (a, expand labels rest))
      (more : Run labels ⟨a.2.1, a.2.2, rest⟩ cuts r) :
      Run labels ⟨depth, fresh, own ++ rest⟩ (a.1.toList.map (Cut.mk · own) ++ cuts) r

section Runs

variable {labels : List String} {r r' : Cursor} {cuts : List Cut}

/-- Nothing but a margin is left of the source. -/
def Cursor.AtEnd (labels : List String) (r : Cursor) : Prop := atEnd r.fresh (expand labels r.rest)

/-- **The tokens of a text are cut out of its source.** -/
theorem exists_run {depth : Nat} {fresh : Bool} {ps : List Piece} {ts : List Token}
    (h : tokensFrom depth fresh (expand labels ps) = some ts) :
    ∃ cuts r, Run labels ⟨depth, fresh, ps⟩ cuts r ∧ r.AtEnd labels ∧
      ts = cuts.map Cut.token := by
  induction hw : weight fresh (expand labels ps) using Nat.strong_induction_on
    generalizing depth fresh ps ts with
  | h n ih =>
  rw [tokensFrom_eq] at h
  split at h
  · next hend =>
      cases h
      exact ⟨[], ⟨depth, fresh, ps⟩, .refl _, hend, rfl⟩
  · obtain ⟨⟨a, rest⟩, hnext, h⟩ := Option.bind_eq_some_iff.1 h
    obtain ⟨ts, hts, rfl⟩ := Option.map_eq_some_iff.1 h
    obtain ⟨used, hcs, hcut, hweight, -⟩ := next_eq_some hnext
    -- the step ends between two pieces
    obtain ⟨own, rest, rfl, rfl, rfl⟩ := exists_of_isCut hcs hcut
    obtain ⟨cuts, r, hrun, hend, rfl⟩ := ih _ (hw ▸ hweight) hts rfl
    refine ⟨_, r, .step hnext hrun, hend, ?_⟩
    cases a.1 <;> rfl

lemma tokensFrom_of_run (h : Run labels r cuts r') :
    tokensFrom r.depth r.fresh (expand labels r.rest)
      = (tokensFrom r'.depth r'.fresh (expand labels r'.rest)).map (cuts.map Cut.token ++ ·) := by
  induction h with
  | refl r => simp
  | @step depth fresh own rest a cuts r hnext more ih =>
      have hend : ¬ atEnd fresh (expand labels (own ++ rest)) := fun hend => by
        rw [next_eq_none_of_atEnd depth hend] at hnext
        cases hnext
      rw [tokensFrom_eq, if_neg hend, hnext, Option.bind_some, ih, Option.map_map]
      congr 1
      funext ts
      cases a.1 <;> simp

/-- What is left was there before. -/
lemma Run.exists_append (h : Run labels r cuts r') : ∃ front, r.rest = front ++ r'.rest := by
  induction h with
  | refl r => exact ⟨[], rfl⟩
  | @step depth fresh own rest a cuts r hnext more ih =>
      obtain ⟨front, hrest⟩ := ih
      exact ⟨own ++ front, by rw [List.append_assoc]; exact congrArg (own ++ ·) hrest⟩

/-- **A word has its own text.** -/
lemma Run.expand_own (h : Run labels r cuts r') {cut : Cut} (hcut : cut ∈ cuts) {w : String}
    (hw : cut.token = .word w) : expand labels cut.own = w.toList := by
  induction h with
  | refl r => cases hcut
  | @step depth fresh own rest a cuts r hnext more ih =>
      rcases List.mem_append.1 hcut with hmem | hmem
      · obtain ⟨t, ht, rfl⟩ := List.mem_map.1 hmem
        obtain ⟨used, hcs, -, -, hword, -⟩ := next_eq_some hnext
        obtain rfl : t = .word w := hw
        rw [expand_append, List.append_cancel_right_eq] at hcs
        rw [hcs, hword w (Option.mem_toList.1 ht)]
      · exact ih hmem

/-- **How a source goes on behind a quote makes no difference to the cuts in front of it.** -/
theorem Run.quote {d d' : Nat} {f f' : Bool} {front ps : List Piece}
    (h : Run labels ⟨d, f, front ++ .typed '\'' :: ps⟩ cuts ⟨d', f', .typed '\'' :: ps⟩)
    (qs : List Piece) :
    Run labels ⟨d, f, front ++ .typed '\'' :: qs⟩ cuts ⟨d', f', .typed '\'' :: qs⟩ := by
  generalize hr : (⟨d, f, front ++ .typed '\'' :: ps⟩ : Cursor) = r at h
  generalize hr' : (⟨d', f', .typed '\'' :: ps⟩ : Cursor) = r' at h
  induction h generalizing d f front with
  | refl r =>
      subst hr'
      obtain ⟨rfl, rfl, hfront⟩ := Cursor.mk.inj hr
      obtain rfl : front = [] := List.append_left_eq_self.1 hfront
      exact .refl _
  | @step depth fresh own rest a cuts r hnext more ih =>
      subst hr'
      obtain ⟨rfl, rfl, hfront⟩ := Cursor.mk.inj hr
      obtain ⟨mid, rfl⟩ : ∃ mid, rest = mid ++ .typed '\'' :: ps := more.exists_append
      rw [← List.append_assoc, List.append_cancel_right_eq] at hfront
      subst hfront
      rw [List.append_assoc]
      refine .step ?_ (ih rfl rfl)
      obtain ⟨used, hcs, -, -, -, hused⟩ := next_eq_some hnext
      rw [expand_append, List.append_cancel_right_eq] at hcs
      subst hcs
      have hnear : Near (expand labels (mid ++ .typed '\'' :: ps))
          (expand labels (mid ++ .typed '\'' :: qs)) := by
        rw [expand_append, expand_append]
        exact (Near.quote _ _).append _
      rw [expand_append]
      exact hused hnear

end Runs

/-! ## Formulas -/

/-- The pieces of a source, without the blanks around it, that are cut into tokens. -/
def sourcePieces (source : String) : List Piece := unifyEnds (pieces (trimChars source.toList))

/-- The labels of the placeholders of a source. -/
def sourceLabels (source : String) : List String := gather [] (pieces (trimChars source.toList))

/-- **A source is a formula if it holds no null character and its tokens have a tree that has a
term.** -/
theorem compile_eq_ok_iff {source : String} {f : Formula} :
    compile source = .ok f ↔
      '\x00' ∉ expand (sourceLabels source) (sourcePieces source) ∧ ∃ ts tree term,
        tokensFrom 0 true (expand (sourceLabels source) (sourcePieces source)) = some ts ∧
          Syntax.ofTokens? ts = some tree ∧
            tree.term? (bindings (sourceLabels source)) = some term ∧
              f = ⟨source, sourceLabels source, term.guarded⟩ := by
  have hchars := substitute_eq [] (trimChars source.toList)
  have htext {tree : Syntax} : Syntax.ofText? (String.ofList
      (expand (sourceLabels source) (pieces (trimChars source.toList)))) = some tree ↔
        '\x00' ∉ expand (sourceLabels source) (sourcePieces source) ∧ ∃ ts,
          tokensFrom 0 true (expand (sourceLabels source) (sourcePieces source)) = some ts ∧
            Syntax.ofTokens? ts = some tree := by
    rw [Syntax.ofText?, String.toList_ofList, Option.bind_eq_some_iff, sourcePieces,
      expand_unifyEnds]
    simp only [ofText?_eq_some, and_assoc, exists_and_left]
  constructor
  · intro h
    have htree : (Syntax.ofText? (String.ofList
        (expand (sourceLabels source) (pieces (trimChars source.toList))))).isSome := by
      rw [compile, hchars] at h
      dsimp only at h
      split at h
      · cases h
      · split at h
        · cases h
        · next tree htree => exact Option.isSome_iff_exists.2 ⟨tree, htree⟩
    obtain ⟨tree, htree⟩ := Option.isSome_iff_exists.1 htree
    obtain ⟨-, term, hterm, rfl⟩ := (compile_eq_ok hchars htree).1 h
    obtain ⟨hnull, ts, hts, htree⟩ := htext.1 htree
    exact ⟨hnull, ts, tree, term, hts, htree, hterm, rfl⟩
  · rintro ⟨hnull, ts, tree, term, hts, htree, hterm, rfl⟩
    exact (compile_eq_ok hchars (htext.2 ⟨hnull, ts, hts, htree⟩)).2
      ⟨(Syntax.isSome_term? tree).1 (hterm ▸ rfl), term, hterm, rfl⟩

end Crosswalk.Formula
