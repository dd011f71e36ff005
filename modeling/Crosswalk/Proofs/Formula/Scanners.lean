import Crosswalk.Formula.Token
import Mathlib.Data.List.Find
import Mathlib.Data.List.TakeWhile

/-!
# What the scanners of formulas use up

A token is scanned off the front of a text.  A scanner may look ahead, but what it looks for has no
single quotes in it: it makes no difference how the text goes on behind the next one.

* `Near` — texts that are alike up to a single quote.
* `Steady` — **a scanner that uses up a part of the text**, and the same part of every text that
  is near to it; `Steady.bind`, `Steady.ite` and others put such scanners together.
* `scanNumeral_steady`, `scanQuotation_eq_some`, `scanWord_eq_some`, `scanSymbol_eq_some`,
  `margin_eq_some` — the scanners of the tokens, and where what they use up ends.
-/

namespace Crosswalk.Formula

/-! ## Texts that are alike up to a quote -/

/-- **Texts that are alike up to a quote.**  Behind the first one they may differ. -/
inductive Near : List Char → List Char → Prop where
  | refl (cs : List Char) : Near cs cs
  | quote (cs cs' : List Char) : Near ('\'' :: cs) ('\'' :: cs')
  | cons (c : Char) {cs cs' : List Char} (h : Near cs cs') : Near (c :: cs) (c :: cs')

namespace Near

variable {cs cs' : List Char} {c : Char}

lemma append (front : List Char) (h : Near cs cs') : Near (front ++ cs) (front ++ cs') := by
  induction front with
  | nil => exact h
  | cons c front ih => exact .cons c ih

lemma nil_left (h : Near [] cs) : cs = [] := by
  cases h
  rfl

lemma head?_eq (h : Near cs cs') : cs'.head? = cs.head? := by
  cases h <;> rfl

lemma isEmpty_eq (h : Near cs cs') : cs'.isEmpty = cs.isEmpty := by
  cases h <;> rfl

/-- What has no quote stands in front of both or of neither. -/
lemma isPrefixOf_eq {w : List Char} (h : Near cs cs') (hw : '\'' ∉ w) :
    w.isPrefixOf cs' = w.isPrefixOf cs := by
  induction w generalizing cs cs' with
  | nil => cases h <;> simp
  | cons x w ih =>
      rw [List.mem_cons, not_or] at hw
      cases h with
      | refl => rfl
      | quote =>
          have hx : (x == '\'') = false := by simpa using Ne.symm hw.1
          simp [List.isPrefixOf, hx]
      | cons c h => rw [List.isPrefixOf, List.isPrefixOf, ih h hw.2]

end Near

/-! ## Numerals -/

/-- The words that can follow a numeral directly. -/
def numeralEnds : List (List Char) :=
  [['a', 'n', 'd'], ['e', 'l', 's', 'e'], ['f', 'o', 'r'], ['i', 'f'], ['i', 'n'], ['i', 's'],
    ['o', 'r'], ['n', 'o', 't']]

lemma endsNumeral_eq (cs : List Char) :
    endsNumeral cs = (numeralEnds.any (·.isPrefixOf cs) || !cs.head?.any isWordChar) := by
  fun_cases endsNumeral cs <;> simp [numeralEnds, List.isPrefixOf]
  next c rest h₁ h₂ h₃ h₄ h₅ h₆ h₇ h₈ =>
    rintro (⟨rfl, t, rfl⟩ | ⟨rfl, t, rfl⟩ | ⟨rfl, t, rfl⟩ | ⟨rfl, t, rfl⟩ |
      ⟨rfl, t, rfl⟩ |
      ⟨rfl, t, rfl⟩ | ⟨rfl, t, rfl⟩ | ⟨rfl, t, rfl⟩)
    · exact (h₁ t rfl rfl).elim
    · exact (h₂ t rfl rfl).elim
    · exact (h₃ t rfl rfl).elim
    · exact (h₄ t rfl rfl).elim
    · exact (h₅ t rfl rfl).elim
    · exact (h₆ t rfl rfl).elim
    · exact (h₇ t rfl rfl).elim
    · exact (h₈ t rfl rfl).elim

lemma Near.endsNumeral_eq {cs cs' : List Char} (h : Near cs cs') :
    endsNumeral cs' = endsNumeral cs := by
  rw [Formula.endsNumeral_eq, Formula.endsNumeral_eq, h.head?_eq]
  congr 1
  simp only [numeralEnds, List.any_cons, List.any_nil]
  have hw : ∀ w ∈ numeralEnds, w.isPrefixOf cs' = w.isPrefixOf cs :=
    fun w hw => h.isPrefixOf_eq (by revert hw w; decide)
  simp only [numeralEnds, List.forall_mem_cons] at hw
  simp [hw]

/-- Behind a numeral no name goes on. -/
lemma not_of_endsNumeral {cs : List Char} {c : Char} (h : endsNumeral cs) (hc : c ∈ cs.head?) :
    c ≠ 'v' ∧ c.isDigit = false := by
  obtain ⟨cs, rfl⟩ := List.head?_eq_some_iff.1 hc
  rw [Formula.endsNumeral_eq, Bool.or_eq_true, List.any_eq_true] at h
  rcases h with ⟨w, hw, hpre⟩ | h
  · -- the words begin with other letters
    have hhead : ∀ w ∈ numeralEnds, w.head?.any fun x => x != 'v' && !x.isDigit := by decide
    obtain ⟨x, hx, hletter⟩ := (Option.any_eq_true _ _).1 (hhead w hw)
    obtain ⟨w, rfl⟩ := List.head?_eq_some_iff.1 hx
    obtain ⟨rfl, -⟩ : x = c ∧ _ := by simpa [List.isPrefixOf] using hpre
    simpa using hletter
  · have hword : isWordChar c = false := by simpa using h
    simp only [isWordChar, Bool.or_eq_false_iff] at hword
    constructor
    · rintro rfl
      revert hword
      decide
    · simp_all [Char.isAlphanum]

/-! ## Steady scanners -/

/-- **A steady scanner** uses up a part of the text, and whatever follows it up to a quote, it uses
the same part for the same result. -/
def Steady {α : Type} (f : List Char → Option (α × List Char)) : Prop :=
  ∀ ⦃cs : List Char⦄ ⦃a : α⦄ ⦃rest : List Char⦄, f cs = some (a, rest) →
    ∃ used, cs = used ++ rest ∧ ∀ ⦃rest' : List Char⦄, Near rest rest' →
      f (used ++ rest') = some (a, rest')

namespace Steady

variable {α β : Type} {f g : List Char → Option (α × List Char)} {p : List Char → Bool}

lemma length_le (hf : Steady f) {cs rest : List Char} {a : α} (h : f cs = some (a, rest)) :
    rest.length ≤ cs.length := by
  obtain ⟨used, rfl, -⟩ := hf h
  simp

lemma congr (hg : Steady g) (h : ∀ cs, f cs = g cs) : Steady f := (funext h : f = g) ▸ hg

lemma pure (a : α) : Steady fun cs => some (a, cs) := by
  rintro cs _ _ ⟨⟩
  exact ⟨[], rfl, fun _ _ => rfl⟩

lemma fail : Steady fun _ => (none : Option (α × List Char)) := by
  rintro _ _ _ ⟨⟩

/-- One scanner behind the other. -/
lemma bind {f : List Char → Option (β × List Char)}
    {g : β → List Char → Option (α × List Char)} (hf : Steady f) (hg : ∀ b, Steady (g b)) :
    Steady fun cs => (f cs).bind fun q => g q.1 q.2 := by
  intro cs a rest h
  obtain ⟨⟨b, mid⟩, hb, ha⟩ := Option.bind_eq_some_iff.1 h
  obtain ⟨used, rfl, hused⟩ := hf hb
  obtain ⟨more, rfl, hmore⟩ := hg b ha
  refine ⟨used ++ more, (List.append_assoc used more rest).symm, fun rest' hrest => ?_⟩
  simp only [List.append_assoc, hused (hrest.append more), Option.bind_some, hmore hrest]

/-- What tells two scanners apart does not look behind a quote. -/
lemma ite (hp : ∀ ⦃cs cs' : List Char⦄, Near cs cs' → p cs' = p cs) (hf : Steady f)
    (hg : Steady g) :
    Steady fun cs => if p cs then f cs else g cs := by
  intro cs a rest h
  dsimp only at h
  split at h
  · next hcs =>
      obtain ⟨used, rfl, hused⟩ := hf h
      exact ⟨used, rfl,
        fun rest' hrest => by simp only [hp (hrest.append used), hcs, if_true, hused hrest]⟩
  · next hcs =>
      obtain ⟨used, rfl, hused⟩ := hg h
      exact ⟨used, rfl, fun rest' hrest => by simp [hp (hrest.append used), hcs, hused hrest]⟩

lemma choose {P : Prop} [Decidable P] (hf : Steady f) (hg : Steady g) :
    Steady fun cs => if P then f cs else g cs := by
  by_cases hP : P
  · simpa only [hP, if_true] using hf
  · simpa only [hP, if_false] using hg

/-- A scanner behind a character. -/
lemma behind {f : Char → List Char → Option (α × List Char)} (hf : ∀ c, Steady (f c)) :
    Steady fun cs => match cs with | [] => none | c :: rest => f c rest := by
  intro cs a rest h
  cases cs with
  | nil => cases h
  | cons c cs =>
      obtain ⟨used, rfl, hused⟩ := hf c h
      exact ⟨c :: used, rfl, fun rest' hrest => hused hrest⟩

end Steady

section Digits

variable {isDigit : Char → Bool} {c d : Char}

lemma scanDigits_underscore (hc : c ≠ '_') (cs : List Char) :
    scanDigits isDigit (c :: '_' :: cs)
      = if isDigit c then (scanDigits isDigit cs).map fun p => (c :: p.1, p.2) else none := by
  rw [scanDigits]
  · split
    · cases scanDigits isDigit cs <;> rfl
    · rfl
  · exact hc

lemma scanDigits_cons (hc : c ≠ '_') (hd : d ≠ '_') (cs : List Char) :
    scanDigits isDigit (c :: d :: cs)
      = if isDigit c then
          if isDigit d then (scanDigits isDigit (d :: cs)).map fun p => (c :: p.1, p.2)
          else some ([c], d :: cs)
        else none := by
  rw [scanDigits]
  · split
    · split
      · cases scanDigits isDigit (d :: cs) <;> rfl
      · rfl
    · rfl
  · exact hc
  · exact hd

/-- Digits are scanned up to the first other character, and there is one at least. -/
lemma scanDigits_eq_some {cs ds rest : List Char}
    (h : scanDigits isDigit cs = some (ds, rest)) :
    ∃ used, used ≠ [] ∧ cs = used ++ rest ∧
      ∀ ⦃rest' : List Char⦄, Near rest rest' →
        scanDigits isDigit (used ++ rest') = some (ds, rest') := by
  fun_induction scanDigits isDigit cs generalizing ds rest with
  | case1 | case2 | case4 | case7 | case9 => cases h
  | case3 c cs hc _ hdigit =>
      rename_i ih
      obtain ⟨⟨ds', rest'⟩, hscan, heq⟩ := Option.bind_eq_some_iff.1 h
      cases heq
      obtain ⟨used, -, rfl, hnear⟩ := ih hscan
      refine ⟨c :: '_' :: used, List.cons_ne_nil _ _, rfl, fun rest' hrest => ?_⟩
      rw [List.cons_append, List.cons_append, scanDigits_underscore hc, if_pos hdigit, hnear hrest]
      rfl
  | case5 c d cs hc hd hdigit hdigit' ih =>
      obtain ⟨⟨ds', rest'⟩, hscan, heq⟩ := Option.bind_eq_some_iff.1 h
      cases heq
      obtain ⟨used, hused, heq, hnear⟩ := ih hscan
      obtain ⟨x, used, rfl⟩ := List.exists_cons_of_ne_nil hused
      obtain ⟨rfl, rfl⟩ := List.cons.inj heq
      refine ⟨c :: d :: used, List.cons_ne_nil _ _, rfl, fun rest' hrest => ?_⟩
      rw [List.cons_append, List.cons_append, scanDigits_cons hc hd, if_pos hdigit, if_pos hdigit',
        ← List.cons_append, hnear hrest]
      rfl
  | case6 c d cs hc hd hdigit hdigit' =>
      cases h
      refine ⟨[c], List.cons_ne_nil _ _, rfl, fun rest' hrest => ?_⟩
      obtain ⟨cs', rfl⟩ : ∃ cs', rest' = d :: cs' := List.head?_eq_some_iff.1 hrest.head?_eq
      rw [List.singleton_append, scanDigits_cons hc hd, if_pos hdigit, if_neg hdigit']
  | case8 c hc hdigit =>
      cases h
      refine ⟨[c], List.cons_ne_nil _ _, rfl, fun rest' hrest => ?_⟩
      obtain rfl := hrest.nil_left
      rw [List.append_nil, scanDigits, if_pos hdigit]
      exact hc

lemma scanDigits_steady : Steady (scanDigits isDigit) := by
  intro cs ds rest h
  obtain ⟨used, -, hcs, hused⟩ := scanDigits_eq_some h
  exact ⟨used, hcs, hused⟩

end Digits

/-- A test of the first character. -/
lemma Near.any_head?_eq {cs cs' : List Char} (p : Char → Bool) (h : Near cs cs') :
    cs'.head?.any p = cs.head?.any p := by
  rw [h.head?_eq]

/-- What has to follow digits in a base. -/
lemma bind_endsNumeral (base : Nat) (r : Option (List Char × List Char)) :
    (do
      let (ds, rest) ← r
      if rest.head?.any Char.isDigit || !endsNumeral rest then none
      some (Literal.int (valueOfDigits base ds), rest)) = r.bind fun q =>
        if q.2.head?.any Char.isDigit || !endsNumeral q.2 then none
        else some (Literal.int (valueOfDigits base q.1), q.2) := by
  cases r with
  | none => rfl
  | some q =>
      simp only [Option.bind_eq_bind, Option.bind_some]
      split <;> rfl

lemma scanBased_steady (base : Nat) (isDigit : Char → Bool) :
    Steady (scanBased base isDigit) := by
  have hends : ∀ ds : List Char, Steady fun cs =>
      if cs.head?.any Char.isDigit || !endsNumeral cs then none
      else some (Literal.int (valueOfDigits base ds), cs) := fun ds =>
    .ite (fun cs cs' h => by rw [h.any_head?_eq, h.endsNumeral_eq]) .fail (.pure _)
  have hscanDigits : Steady (scanDigits isDigit) := scanDigits_steady
  have hdigits := hscanDigits.bind hends
  -- one underscore may stand behind the mark of the base
  refine (Steady.ite (p := fun cs => cs.head?.any (· = '_')) (fun cs cs' h => h.any_head?_eq _)
    (.behind fun _ => hdigits) hdigits).congr fun cs => ?_
  cases cs with
  | nil => exact bind_endsNumeral base _
  | cons c cs =>
      by_cases hc : c = '_'
      · subst hc
        exact bind_endsNumeral base _
      · simp only [List.head?_cons, Option.any_some, hc, decide_false, Bool.false_eq_true,
          if_false]
        rw [scanBased]
        · exact bind_endsNumeral base _
        · exact fun r h => hc (List.cons.inj h).1

lemma scanWhole_steady : Steady scanWhole := by
  have hdigits : Steady (scanDigits Char.isDigit) := scanDigits_steady
  refine (Steady.ite (p := fun cs => cs.head?.any (· = '.')) (fun cs cs' h => h.any_head?_eq _)
    (.pure []) hdigits).congr fun cs => ?_
  fun_cases scanWhole cs with
  | case1 rest => rfl
  | case2 cs h =>
      cases cs with
      | nil => rfl
      | cons c cs =>
          have hc : c ≠ '.' := fun hc => h cs (by rw [hc])
          simp [hc]

lemma scanFraction_steady : Steady scanFraction := by
  have hdigits : Steady fun cs => if cs.head?.any Char.isDigit then
        (scanDigits Char.isDigit cs).bind fun q => some (some q.1, q.2)
      else some (some [], cs) :=
    .ite (fun cs cs' h => h.any_head?_eq _) (scanDigits_steady.bind fun ds => .pure _) (.pure _)
  refine (Steady.ite (p := fun cs => cs.head?.any (· = '.')) (fun cs cs' h => h.any_head?_eq _)
    (.behind fun _ => hdigits) (.pure none)).congr fun cs => ?_
  fun_cases scanFraction cs with
  | case1 rest h => simp [h]
  | case2 rest h => simp [h]
  | case3 cs h =>
      cases cs with
      | nil => rfl
      | cons c cs =>
          have hc : c ≠ '.' := fun hc => h cs (by rw [hc])
          simp [hc]

/-- The first two characters pass tests. -/
def startsWith (p q : Char → Bool) (cs : List Char) : Bool :=
  cs.head?.any p && cs.tail.head?.any q

lemma Near.startsWith_eq {cs cs' : List Char} {p : Char → Bool} (q : Char → Bool)
    (h : Near cs cs') (hp : p '\'' = false) : startsWith p q cs' = startsWith p q cs := by
  cases h with
  | refl => rfl
  | quote => simp [startsWith, hp]
  | cons c h => rw [startsWith, startsWith, List.tail_cons, List.tail_cons, h.any_head?_eq]; rfl

lemma scanExponent_steady : Steady scanExponent := by
  have hvalue : ∀ sign : Nat → Int, Steady fun cs =>
      (scanDigits Char.isDigit cs).bind fun q => some (some (sign (valueOfDigits 10 q.1)), q.2) :=
    fun sign => scanDigits_steady.bind fun ds => .pure (some (sign (valueOfDigits 10 ds)))
  have hsigned : Steady fun cs => if cs.head?.any (· = '+') then
        match cs with
        | [] => none
        | _ :: cs =>
          (scanDigits Char.isDigit cs).bind fun q =>
            some (some ((valueOfDigits 10 q.1 : Nat) : Int), q.2)
      else if cs.head?.any (· = '-') then
        match cs with
        | [] => none
        | _ :: cs =>
          (scanDigits Char.isDigit cs).bind fun q =>
            some (some (-(valueOfDigits 10 q.1 : Int)), q.2)
      else
        (scanDigits Char.isDigit cs).bind fun q =>
          some (some ((valueOfDigits 10 q.1 : Nat) : Int), q.2) :=
    .ite (fun cs cs' h => h.any_head?_eq _) (.behind fun _ => hvalue Int.ofNat)
      (.ite (fun cs cs' h => h.any_head?_eq _) (.behind fun _ => hvalue fun n => -(n : Int))
        (hvalue Int.ofNat))
  -- a letter `e` begins an exponent if a sign or a digit is behind it
  refine (Steady.ite (p := startsWith (fun c => c = 'e' || c = 'E')
      fun c => c = '+' || c = '-' || c.isDigit) (fun cs cs' h => h.startsWith_eq _ rfl)
    (.behind fun _ => hsigned) (.pure none)).congr fun cs => ?_
  fun_cases scanExponent cs with
  | case1 c hc more => simp [startsWith, hc]
  | case2 c hc more => simp [startsWith, hc]
  | case3 c hc more hplus hminus hdigit =>
      cases more with
      | nil => simp at hdigit
      | cons d more =>
          have hd : d ≠ '+' ∧ d ≠ '-' :=
            ⟨fun h => hplus more (by rw [h]), fun h => hminus more (by rw [h])⟩
          have hdigit' : d.isDigit = true := by simpa using hdigit
          simp [startsWith, hc, hd, hdigit']
  | case4 c hc more hplus hminus hdigit =>
      cases more with
      | nil => simp [startsWith]
      | cons d more =>
          have hd : d ≠ '+' ∧ d ≠ '-' :=
            ⟨fun h => hplus more (by rw [h]), fun h => hminus more (by rw [h])⟩
          have hdigit' : d.isDigit = false := by simpa using hdigit
          simp [startsWith, hd, hdigit']
  | case5 c more hc => simp [startsWith, hc]
  | case6 => rfl

lemma scanDecimal_finish_steady (whole : List Char) (fraction? : Option (List Char))
    (exponent? : Option Int) (value : Binary64) :
    Steady (scanDecimal.finish whole fraction? exponent? value) := by
  exact .ite (p := fun cs => !endsNumeral cs) (fun cs cs' h => by rw [h.endsNumeral_eq]) .fail
    (.choose (.pure _) (.choose .fail (.choose .fail (.pure _))))

lemma scanDecimal_steady : Steady scanDecimal := by
  have hlast : ∀ whole fraction? exponent? value, Steady fun cs =>
      if cs.head?.any (fun c => c = 'j' || c = 'J') then
        match cs with
        | [] => none
        | _ :: tail => if endsNumeral tail then some (Literal.imaginary value, tail) else none
      else scanDecimal.finish whole fraction? exponent? value cs :=
    fun whole fraction? exponent? value => .ite (fun cs cs' h => h.any_head?_eq _)
      (.behind fun _ => .ite (fun cs cs' h => h.endsNumeral_eq) (.pure _) .fail)
      (scanDecimal_finish_steady whole fraction? exponent? value)
  refine (scanWhole_steady.bind fun whole => scanFraction_steady.bind fun fraction? =>
    scanExponent_steady.bind fun exponent? => hlast whole fraction? exponent?
      (Binary64.ofDecimal false ⟨valueOfDigits 10 (whole ++ fraction?.getD []),
        exponent?.getD 0 - (fraction?.getD []).length⟩)).congr fun cs => ?_
  rw [scanDecimal]
  simp only [Option.bind_eq_bind]
  refine Option.bind_congr fun q _ => Option.bind_congr fun q' _ =>
    Option.bind_congr fun q'' _ => ?_
  obtain ⟨exponent?, rest⟩ := q''
  cases rest with
  | nil => rfl
  | cons c tail => by_cases hc : c = 'j' ∨ c = 'J' <;> simp [hc]

lemma scanNumeral_steady : Steady scanNumeral := by
  have hbased : ∀ c : Char, Steady fun cs =>
      if c = 'x' ∨ c = 'X' then scanBased 16 isHexDigit cs
      else if c = 'o' ∨ c = 'O' then scanBased 8 (fun d => '0' ≤ d && d ≤ '7') cs
      else scanBased 2 (fun d => d = '0' || d = '1') cs :=
    fun c => .choose (scanBased_steady _ _) (.choose (scanBased_steady _ _) (scanBased_steady _ _))
  refine (Steady.ite (p := startsWith (· = '0') fun c => c ∈ ['x', 'X', 'o', 'O', 'b', 'B'])
    (fun cs cs' h => h.startsWith_eq _ rfl) (.behind fun _ => .behind hbased)
    scanDecimal_steady).congr fun cs => ?_
  fun_cases scanNumeral cs with
  | case1 c rest hc => rcases hc with rfl | rfl <;> rfl
  | case2 c rest hx hc => rcases hc with rfl | rfl <;> rfl
  | case3 c rest hx ho hc => rcases hc with rfl | rfl <;> rfl
  | case4 c rest hx ho hb => simp_all [startsWith]
  | case5 cs h =>
      cases cs with
      | nil => rfl
      | cons z cs =>
          cases cs with
          | nil => simp [startsWith]
          | cons c cs =>
              have hz : z ≠ '0' := fun hz => h c cs (by rw [hz])
              simp [startsWith, hz]

/-- A numeral in a base ends where it may. -/
lemma endsNumeral_of_scanBased {base : Nat} {isDigit : Char → Bool} {cs rest : List Char}
    {l : Literal} (h : scanBased base isDigit cs = some (l, rest)) : endsNumeral rest := by
  obtain ⟨⟨ds, more⟩, -, h⟩ := Option.bind_eq_some_iff.1 h
  dsimp only at h
  split at h
  · cases h
  · next hends =>
      cases h
      simpa using (not_or.1 (mt Bool.or_eq_true_iff.2 hends)).2

lemma endsNumeral_of_finish {whole : List Char} {fraction? : Option (List Char)}
    {exponent? : Option Int} {value : Binary64} {cs rest : List Char} {l : Literal}
    (h : scanDecimal.finish whole fraction? exponent? value cs = some (l, rest)) :
    endsNumeral rest ∧ rest = cs := by
  rw [scanDecimal.finish] at h
  split at h
  · cases h
  · next hends =>
      have hrest : rest = cs := by
        split at h
        · cases h
          rfl
        · split at h
          · cases h
          · split at h <;> cases h
            rfl
      exact ⟨hrest ▸ by simpa using hends, hrest⟩

/-- Digits in front of a point are not empty, unless the point comes first. -/
lemma scanWhole_length {cs ds rest : List Char} (h : scanWhole cs = some (ds, rest)) :
    rest.length < cs.length ∨ ∃ more, rest = '.' :: more ∧ rest = cs := by
  revert h
  fun_cases scanWhole cs with
  | case1 more =>
      rintro ⟨⟩
      exact Or.inr ⟨more, rfl, rfl⟩
  | case2 cs =>
      intro h
      obtain ⟨used, hused, rfl, -⟩ := scanDigits_eq_some h
      have hpos := List.length_pos_iff.2 hused
      exact Or.inl (by rw [List.length_append]; omega)

lemma scanFraction_length {cs rest : List Char} {ds? : Option (List Char)}
    (h : scanFraction ('.' :: cs) = some (ds?, rest)) : rest.length ≤ cs.length := by
  rw [scanFraction] at h
  split at h
  · obtain ⟨⟨ds, more⟩, hscan, h⟩ := Option.bind_eq_some_iff.1 h
    cases h
    exact scanDigits_steady.length_le hscan
  · cases h
    exact Nat.le_refl _

lemma endsNumeral_of_scanDecimal {cs rest : List Char} {l : Literal}
    (h : scanDecimal cs = some (l, rest)) : endsNumeral rest ∧ rest.length < cs.length := by
  rw [scanDecimal] at h
  obtain ⟨⟨whole, more⟩, hwhole, h⟩ := Option.bind_eq_some_iff.1 h
  obtain ⟨⟨fraction?, more'⟩, hfraction, h⟩ := Option.bind_eq_some_iff.1 h
  obtain ⟨⟨exponent?, more''⟩, hexponent, h⟩ := Option.bind_eq_some_iff.1 h
  have hlength : more''.length < cs.length := by
    have hle := scanExponent_steady.length_le hexponent
    have hle' := scanFraction_steady.length_le hfraction
    rcases scanWhole_length hwhole with hlt | ⟨tail, rfl, rfl⟩
    · omega
    · have := scanFraction_length hfraction
      rw [List.length_cons]
      omega
  have hends : endsNumeral rest ∧ rest.length ≤ more''.length := by
    dsimp only at h
    split at h
    · next c tail _ =>
        split at h
        · split at h
          · next hends =>
              cases h
              exact ⟨hends, Nat.le_succ _⟩
          · cases h
        · obtain ⟨hends, rfl⟩ := endsNumeral_of_finish h
          exact ⟨hends, Nat.le_refl _⟩
    · obtain ⟨hends, rfl⟩ := endsNumeral_of_finish h
      exact ⟨hends, Nat.le_refl _⟩
  exact ⟨hends.1, by omega⟩

/-- **A numeral ends where it may**, and it is not empty. -/
lemma endsNumeral_of_scanNumeral {cs rest : List Char} {l : Literal}
    (h : scanNumeral cs = some (l, rest)) : endsNumeral rest ∧ rest.length < cs.length := by
  have hbased : ∀ {base isDigit} {more : List Char},
      scanBased base isDigit more = some (l, rest) →
        endsNumeral rest ∧ rest.length < more.length + 2 := fun h =>
    ⟨endsNumeral_of_scanBased h, by have := (scanBased_steady _ _).length_le h; omega⟩
  revert h
  fun_cases scanNumeral cs with
  | case1 | case2 | case3 => exact hbased
  | case4 | case5 => exact endsNumeral_of_scanDecimal

/-! ## Quotations -/

section Quotations

variable {quote : Char} {triple : Bool} {cs body rest : List Char}

lemma scanToQuote_escape (c : Char) (cs : List Char) :
    scanToQuote quote triple ('\\' :: c :: cs)
      = (scanToQuote quote triple cs).map fun p => ('\\' :: c :: p.1, p.2) := by
  rw [scanToQuote]
  cases scanToQuote quote triple cs <;> rfl

lemma scanToQuote_cons {c : Char} (hc : c ≠ '\\') (cs : List Char) :
    scanToQuote quote triple (c :: cs)
      = if c = quote && (!triple || cs.take 2 == [quote, quote]) then
          some ([], if triple then cs.drop 2 else cs)
        else if c = '\n' && !triple then none
        else (scanToQuote quote triple cs).map fun p => (c :: p.1, p.2) := by
  rw [scanToQuote]
  · split
    · rfl
    · split
      · rfl
      · cases scanToQuote quote triple cs <;> rfl
  · exact fun _ _ h _ => hc h

/-- A quotation is used up to its closing quote, whatever follows. -/
lemma scanToQuote_eq_some (hq : quote ≠ '\\')
    (h : scanToQuote quote triple cs = some (body, rest)) :
    ∃ used, cs = used ++ rest ∧ used.getLast? = some quote ∧
      (if triple then 3 else 1) ≤ used.length ∧
      ∀ rest', scanToQuote quote triple (used ++ rest') = some (body, rest') := by
  fun_induction scanToQuote quote triple cs generalizing body rest with
  | case1 | case4 | case5 => cases h
  | case2 c cs ih =>
      obtain ⟨⟨body, rest⟩, hscan, h⟩ := Option.bind_eq_some_iff.1 h
      cases h
      obtain ⟨used, rfl, hlast, hlength, hused⟩ := ih hscan
      refine ⟨'\\' :: c :: used, rfl, ?_, ?_, fun rest' => ?_⟩
      · rw [List.getLast?_cons, List.getLast?_cons, hlast]
        rfl
      · simp only [List.length_cons]
        omega
      · rw [List.cons_append, List.cons_append, scanToQuote_escape, hused]
        rfl
  | case3 c cs _ hquote =>
      obtain ⟨rfl, htriple⟩ : c = quote ∧
          (triple = false ∨ cs.take 2 = [quote, quote]) := by
        simpa using hquote
      cases triple with
      | false =>
          cases h
          refine ⟨[c], rfl, rfl, Nat.le_refl _, fun rest' => ?_⟩
          rw [List.singleton_append, scanToQuote_cons hq]
          simp
      | true =>
          cases h
          have hcs : cs = [c, c] ++ cs.drop 2 := by
            rw [← htriple.resolve_left (by decide), List.take_append_drop]
          refine ⟨[c, c, c], by rw [if_pos rfl]; exact congrArg (c :: ·) hcs, rfl, Nat.le_refl _,
            fun rest' => ?_⟩
          rw [List.cons_append, scanToQuote_cons hq]
          simp
  | case6 c cs _ hquote hline hc ih =>
      obtain ⟨⟨body, rest⟩, hscan, h⟩ := Option.bind_eq_some_iff.1 h
      cases h
      obtain ⟨used, rfl, hlast, hlength, hused⟩ := ih hscan
      refine ⟨c :: used, rfl, ?_, ?_, fun rest' => ?_⟩
      · rw [List.getLast?_cons, hlast]
        rfl
      · rw [List.length_cons]
        omega
      · -- two more quotes would stand in the part that is used
        have htake : triple = true → (used ++ rest').take 2 = (used ++ rest).take 2 := by
          rintro rfl
          rw [List.take_append_of_le_length (by simp at hlength; omega),
            List.take_append_of_le_length (by simp at hlength; omega)]
        rw [List.cons_append, scanToQuote_cons hc, if_neg, if_neg hline, hused]
        · rfl
        · cases triple with
          | false => exact hquote
          | true => rwa [htake rfl]

/-- The quotation with given marks and given characters between its quotes. -/
def quotationOf (marks body : List Char) : Option Quotation :=
  let raw := marks.contains 'r'
  if marks.contains 'f' then some (.fields raw body)
  else if marks.contains 'b' then
    (if raw then (if body.any (0x80 ≤ ·.toNat) then none else some (body.map Char.toNat))
      else decodeOctets body).map .octets
  else (if raw then some body else decodeText body).map fun cs =>
    .text (String.ofList cs) (marks.contains 'u')

/-- Two more quotes behind the first one. -/
def isTriple (quote : Char) (cs : List Char) : Bool := cs.take 2 == [quote, quote]

lemma scanQuotation_eq (marks : List Char) (quote : Char) (cs : List Char) :
    scanQuotation marks quote cs
      = (scanToQuote quote (isTriple quote cs) (if isTriple quote cs then cs.drop 2 else cs)).bind
          fun p => (quotationOf marks p.1).map fun q => (q, p.2) := by
  rw [scanQuotation]
  refine Option.bind_congr fun p _ => ?_
  obtain ⟨body, rest⟩ := p
  rw [quotationOf]
  dsimp only
  split
  · rfl
  · split
    · split
      · split <;> rfl
      · cases decodeOctets body <;> rfl
    · split
      · rfl
      · cases decodeText body <;> rfl

/-- **A quotation ends with its quote**, and what follows it up to the next quote makes no
difference. -/
lemma scanQuotation_eq_some {marks : List Char} {q : Quotation} (hq : quote ≠ '\\')
    (h : scanQuotation marks quote cs = some (q, rest)) :
    ∃ used, cs = used ++ rest ∧ used.getLast? = some quote ∧
      ∀ ⦃rest' : List Char⦄, Near rest rest' →
      scanQuotation marks quote (used ++ rest') = some (q, rest') := by
  rw [scanQuotation_eq] at h
  obtain ⟨⟨body, rest⟩, hscan, h⟩ := Option.bind_eq_some_iff.1 h
  obtain ⟨q, hbody, h⟩ := Option.map_eq_some_iff.1 h
  cases h
  obtain ⟨used, hcs, hlast, hlength, hused⟩ := scanToQuote_eq_some hq hscan
  cases htriple : isTriple quote cs with
  | true =>
      rw [htriple] at hcs hused hlength
      have hfront : cs = [quote, quote] ++ (used ++ rest) := by
        rw [← hcs, if_pos rfl, ← eq_of_beq htriple, List.take_append_drop]
      refine ⟨quote :: quote :: used, hfront, ?_, fun rest' _ => ?_⟩
      · rw [List.getLast?_cons, List.getLast?_cons, hlast]
        rfl
      · have htriple' : isTriple quote (quote :: quote :: (used ++ rest')) = true := by
          simp [isTriple]
        rw [scanQuotation_eq, List.cons_append, List.cons_append, htriple', if_pos rfl]
        simp only [List.drop_succ_cons, List.drop_zero, hused rest', Option.bind_some, hbody,
          Option.map_some]
  | false =>
      rw [htriple, if_neg (by decide)] at hcs
      rw [htriple] at hused hlength
      subst hcs
      refine ⟨used, rfl, hlast, fun rest' hrest => ?_⟩
      have htriple' : isTriple quote (used ++ rest') = false := by
        rw [← htriple, isTriple, isTriple]
        obtain ⟨c, used, rfl⟩ := List.exists_cons_of_ne_nil (List.ne_nil_of_length_pos hlength)
        cases used with
        | nil =>
            have htake : rest'.take 1 = rest.take 1 := by
              rw [List.take_one, List.take_one, hrest.head?_eq]
            simp [htake]
        | cons d used => rfl
      rw [scanQuotation_eq, htriple', if_neg (by decide), hused rest']
      simp only [Option.bind_some, hbody, Option.map_some]

/-- A quote. -/
def IsQuote (c : Char) : Prop := c = '"' ∨ c = '\''

instance (c : Char) : Decidable (IsQuote c) := inferInstanceAs (Decidable (_ ∨ _))

lemma quotationStart?_quote {a : Char} (ha : IsQuote a) (cs : List Char) :
    quotationStart? (a :: cs) = some ([], a, cs) := by
  rcases ha with rfl | rfl <;> rcases cs with _ | ⟨b, _ | ⟨c, cs⟩⟩ <;> rfl

lemma quotationStart?_mark {a b : Char} (ha : ¬ IsQuote a) (hb : IsQuote b) (cs : List Char) :
    quotationStart? (a :: b :: cs)
      = if a.toLower ∈ ['r', 'u', 'b', 'f'] then some ([markForm a], b, cs) else none := by
  obtain ⟨ha, ha'⟩ := not_or.1 ha
  rcases hb with rfl | rfl <;> rcases cs with _ | ⟨c, cs⟩ <;> simp [quotationStart?, ha, ha']

lemma quotationStart?_marks {a b c : Char} (ha : ¬ IsQuote a) (hb : ¬ IsQuote b)
    (cs : List Char) :
    quotationStart? (a :: b :: c :: cs)
      = if IsQuote c ∧
          [a.toLower, b.toLower] ∈ [['b', 'r'], ['r', 'b'], ['f', 'r'], ['r', 'f']] then
          some ([a.toLower, b.toLower], c, cs)
        else none := by
  obtain ⟨ha, ha'⟩ := not_or.1 ha
  obtain ⟨hb, hb'⟩ := not_or.1 hb
  by_cases hc : IsQuote c
  · rcases hc with rfl | rfl <;> simp [quotationStart?, ha, ha', hb, hb', IsQuote]
  · obtain ⟨hc, hc'⟩ := not_or.1 hc
    simp [quotationStart?, ha, ha', hb, hb', hc, hc', IsQuote]

/-- The marks of a quotation and its quote tell that it is one. -/
lemma quotationStart?_eq_some {marks tail : List Char}
    (h : quotationStart? cs = some (marks, quote, tail)) :
    IsQuote quote ∧ ∃ front, cs = front ++ quote :: tail ∧
      ∀ tail', quotationStart? (front ++ quote :: tail') = some (marks, quote, tail') := by
  rcases cs with _ | ⟨a, cs⟩
  · cases h
  by_cases ha : IsQuote a
  · rw [quotationStart?_quote ha] at h
    cases h
    exact ⟨ha, [], rfl, fun tail' => quotationStart?_quote ha tail'⟩
  rcases cs with _ | ⟨b, cs⟩
  · obtain ⟨ha, ha'⟩ := not_or.1 ha
    simp [quotationStart?, ha, ha'] at h
  by_cases hb : IsQuote b
  · rw [quotationStart?_mark ha hb] at h
    split at h
    · next hmark =>
        cases h
        exact ⟨hb, [a], rfl,
          fun tail' => (quotationStart?_mark ha hb tail').trans (if_pos hmark)⟩
    · cases h
  rcases cs with _ | ⟨c, cs⟩
  · obtain ⟨ha, ha'⟩ := not_or.1 ha
    obtain ⟨hb, hb'⟩ := not_or.1 hb
    simp [quotationStart?, ha, ha', hb, hb'] at h
  rw [quotationStart?_marks ha hb] at h
  split at h
  · next hmarks =>
      cases h
      exact ⟨hmarks.1, [a, b], rfl,
        fun tail' => (quotationStart?_marks ha hb tail').trans (if_pos hmarks)⟩
  · cases h

/-- Where no quotation starts, none starts in a text that is alike up to a quote. -/
lemma Near.quotationStart?_eq_none {cs' : List Char} (h : Near cs cs')
    (hcs : quotationStart? cs = none) : quotationStart? cs' = none := by
  have hquote : IsQuote '\'' := Or.inr rfl
  cases h with
  | refl => exact hcs
  | quote => simp [quotationStart?_quote hquote] at hcs
  | @cons a cs cs' h =>
      by_cases ha : IsQuote a
      · simp [quotationStart?_quote ha] at hcs
      cases h with
      | refl => exact hcs
      | quote cs cs' =>
          rw [quotationStart?_mark ha hquote] at hcs ⊢
          split at hcs
          · cases hcs
          · next hmark => rw [if_neg hmark]
      | @cons b cs cs' h =>
          by_cases hb : IsQuote b
          · rw [quotationStart?_mark ha hb] at hcs ⊢
            split at hcs
            · cases hcs
            · next hmark => rw [if_neg hmark]
          · -- the character behind two that are no quotes is the same in both texts
            cases h with
            | refl => exact hcs
            | quote cs cs' =>
                rw [quotationStart?_marks ha hb] at hcs ⊢
                split at hcs
                · cases hcs
                · next hmark => rw [if_neg hmark]
            | @cons c cs cs' h =>
                rw [quotationStart?_marks ha hb] at hcs ⊢
                split at hcs
                · cases hcs
                · next hmark => rw [if_neg hmark]

end Quotations

/-! ## Words and symbols -/

/-- **A word ends where no name goes on.** -/
lemma scanWord_eq_some {cs rest : List Char} {w : String} (h : scanWord cs = some (w, rest)) :
    w.toList ≠ [] ∧ cs = w.toList ++ rest ∧ (∀ c ∈ rest.head?, isWordChar c = false) ∧
      ∀ ⦃rest' : List Char⦄, Near rest rest' →
        scanWord (w.toList ++ rest') = some (w, rest') := by
  have hfront : ∀ c ∈ cs.takeWhile isWordChar, isWordChar c := fun c => List.mem_takeWhile_imp
  have hback : ∀ c ∈ (cs.dropWhile isWordChar).head?, isWordChar c = false := fun c hc => by
    have hstop := List.head?_dropWhile_not isWordChar cs
    rw [hc] at hstop
    simpa using hstop
  rw [scanWord] at h
  split at h
  · cases h
  · next c more hw =>
      split at h
      · next hname =>
          cases h
          rw [String.toList_ofList]
          refine ⟨by rw [hw]; exact List.cons_ne_nil _ _, List.takeWhile_append_dropWhile.symm,
            hback, fun rest' hrest => ?_⟩
          have hstop : rest'.takeWhile isWordChar = [] ∧ rest'.dropWhile isWordChar = rest' := by
            rw [← hrest.head?_eq] at hback
            cases rest' with
            | nil => exact ⟨rfl, rfl⟩
            | cons d rest' => simp [hback d rfl]
          rw [scanWord, List.takeWhile_append_of_pos hfront, List.dropWhile_append_of_pos hfront,
            hstop.1, hstop.2, List.append_nil, hw]
          exact if_pos hname
      · cases h

lemma notMem_of_mem_symbols {s : String} (h : s ∈ symbols) : '\'' ∉ s.toList := by
  revert h s
  decide

/-- A symbol is used up, whatever follows it up to a quote. -/
lemma scanSymbol_eq_some {cs rest : List Char} {s : String} (h : scanSymbol cs = some (s, rest)) :
    s ∈ symbols ∧ cs = s.toList ++ rest ∧
      ∀ ⦃rest' : List Char⦄, Near rest rest' →
        scanSymbol (s.toList ++ rest') = some (s, rest') := by
  have hrest : ∀ {cs : List Char}, s.toList.isPrefixOf cs →
      cs = s.toList ++ cs.drop s.length := by
    intro cs hpre
    obtain ⟨more, rfl⟩ := List.isPrefixOf_iff_prefix.1 hpre
    rw [← String.length_toList, List.drop_left]
  obtain ⟨s, hfind, heq⟩ := Option.map_eq_some_iff.1 h
  cases heq
  have hpre := List.find?_some hfind
  refine ⟨List.mem_of_find?_eq_some hfind, hrest hpre, fun rest' hnear => ?_⟩
  have hsame : ∀ t ∈ symbols, t.toList.isPrefixOf (s.toList ++ rest')
      = t.toList.isPrefixOf cs := by
    intro t ht
    rw [hrest hpre]
    exact (hnear.append s.toList).isPrefixOf_eq (notMem_of_mem_symbols ht)
  rw [scanSymbol, List.find?_congr hsame, hfind, Option.map_some, ← String.length_toList,
    List.drop_left]

lemma getLast?_of_mem_symbols {s : String} (h : s ∈ symbols) :
    ∃ c ∈ s.toList.getLast?, c ≠ '_' ∧ c ≠ 'v' ∧ c.isDigit = false := by
  have hall : ∀ s ∈ symbols, s.toList.getLast?.any fun c =>
      c != '_' && c != 'v' && !c.isDigit := by
    decide
  obtain ⟨c, hc, hname⟩ := (Option.any_eq_true _ _).1 (hall s h)
  exact ⟨c, hc, by simpa [and_assoc] using hname⟩

/-! ## Margins -/

/-- The characters that a margin is made of. -/
def marginChars : List Char := [' ', '\t', '\x0c', '\\']

lemma margin_of_head? {column first : Nat} {cs : List Char}
    (h : ∀ c ∈ cs.head?, c ∉ marginChars) :
    margin column first cs = some (if first = 0 then column else first, cs) := by
  cases cs with
  | nil => rfl
  | cons c cs =>
      have hc := h c rfl
      simp only [marginChars, List.mem_cons, List.not_mem_nil, or_false, not_or] at hc
      obtain ⟨h₁, h₂, h₃, h₄⟩ := hc
      rw [margin] <;> simp_all

/-- A margin is used up, whatever follows it up to a quote. -/
lemma margin_eq_some {column first col : Nat} {cs rest : List Char}
    (h : margin column first cs = some (col, rest)) :
    ∃ used, cs = used ++ rest ∧ (∀ c ∈ used, c ∈ '\n' :: marginChars) ∧
      ∀ ⦃rest' : List Char⦄, Near rest rest' →
        margin column first (used ++ rest') = some (col, rest') := by
  fun_induction margin column first cs with
  | case1 column first cs ih | case2 column first cs ih | case3 column first cs ih =>
      obtain ⟨used, rfl, hblank, hused⟩ := ih h
      exact ⟨_ :: used, rfl, List.forall_mem_cons.2 ⟨by decide, hblank⟩,
        fun rest' hrest => hused hrest⟩
  | case4 | case6 => cases h
  | case5 column first cs hcs ih =>
      obtain ⟨used, rfl, hblank, hused⟩ := ih h
      refine ⟨'\\' :: '\n' :: used, rfl,
        List.forall_mem_cons.2 ⟨by decide, List.forall_mem_cons.2 ⟨by decide, hblank⟩⟩,
        fun rest' hrest => ?_⟩
      rw [List.cons_append, List.cons_append, margin, (hrest.append used).isEmpty_eq, if_neg hcs]
      exact hused hrest
  | case7 column first cs h₁ h₂ h₃ h₄ h₅ =>
      cases h
      refine ⟨[], rfl, List.forall_mem_nil _, fun rest' hrest => margin_of_head? fun c hc => ?_⟩
      rw [List.nil_append, hrest.head?_eq] at hc
      obtain ⟨cs, rfl⟩ := List.head?_eq_some_iff.1 hc
      simp only [marginChars, List.mem_cons, List.not_mem_nil, or_false, not_or]
      refine ⟨?_, ?_, ?_, ?_⟩
      · rintro rfl
        exact h₁ cs rfl
      · rintro rfl
        exact h₂ cs rfl
      · rintro rfl
        exact h₃ cs rfl
      · rintro rfl
        exact h₅ cs rfl

end Crosswalk.Formula
