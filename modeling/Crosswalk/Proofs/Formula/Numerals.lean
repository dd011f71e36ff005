import Crosswalk.Formula.Value
import Mathlib.Data.Bool.AllAny
import Mathlib.Data.List.Induction
import Mathlib.Tactic.IntervalCases

/-!
# Numerals are read

Two grammars meet where a field is read, and they are unlike each other: a numeral is recognised by
its characters in any script, and read from a form where these have become ASCII characters.  What
is recognised is read all the same, with one exception: a numeral without point and exponent that
has too many digits.

* `isDigit_plainNumeralChar` — **digits of every script become ASCII digits**, and nothing else
  does.
* `isSome_readDouble?` — a numeral is read as a double.
* `readInteger?_of_whole` — a whole numeral is read as its number unless it has too many digits.
* `natAbs_readInteger?_lt` — how large a number can be that is read.
-/

namespace Crosswalk

/-! ## Characters -/

section Characters

variable {c : Char}

/-- A digit of a script other than ASCII stands above it, and is no blank. -/
lemma decimalValue?_of_le (h : 0x7f ≤ c.toNat) {d : Nat} (hd : decimalValue? c = some d) :
    d < 10 ∧ isBlank c = false := by
  -- the ten digits of a script stand between the blanks
  have hzeros : ∀ z ∈ decimalZeros.toList, z + 9 < 0x7f ∨ (0xa0 < z ∧ z + 9 < 0x1680) ∨
      (0x1680 < z ∧ z + 9 < 0x2000) ∨ 0x3000 < z := by decide
  unfold decimalValue? at hd
  simp only at hd
  split at hd
  · split at hd
    · next hascii => simp only [Bool.and_eq_true, decide_eq_true_eq] at hascii; omega
    · cases hd
  · obtain ⟨z, hz, rfl⟩ := Option.map_eq_some_iff.1 hd
    have hmem := Array.mem_of_find?_eq_some hz
    have hrange := Array.find?_some hz
    simp only [Bool.and_eq_true, decide_eq_true_eq] at hrange
    have hzone := hzeros z (by simpa using hmem)
    refine ⟨by omega, ?_⟩
    simp only [isBlank, Bool.or_eq_false_iff, Bool.and_eq_false_iff, decide_eq_false_iff_not,
      beq_eq_false_iff_ne]
    omega

/-- What becomes of a character beyond ASCII: a space, a digit or a mark. -/
lemma plainNumeralChar_cases (h : 0x7f ≤ c.toNat) :
    (isDecimal c = false ∧ (plainNumeralChar c = ' ' ∨ plainNumeralChar c = '?')) ∨
      isDecimal c = true ∧ ∃ d < 10, plainNumeralChar c = Char.ofNat (0x30 + d) := by
  have hnot : ¬ c.toNat < 0x7f := Nat.not_lt.2 h
  unfold plainNumeralChar isDecimal
  rw [if_neg hnot]
  cases hd : decimalValue? c with
  | none => by_cases hblank : isBlank c = true <;> simp [hblank]
  | some d =>
      obtain ⟨hlt, hblank⟩ := decimalValue?_of_le h hd
      simp only [hblank, Bool.false_eq_true, if_false]
      exact Or.inr ⟨rfl, d, hlt, rfl⟩

/-- **Digits of every script become ASCII digits**, and nothing else does. -/
lemma isDigit_plainNumeralChar (c : Char) : (plainNumeralChar c).isDigit = isDecimal c := by
  by_cases h : c.toNat < 0x7f
  · have hdecimal : isDecimal c = true ↔ '0'.toNat ≤ c.toNat ∧ c.toNat ≤ '9'.toNat := by
      have h' : c.toNat < 0x80 := by omega
      simp only [isDecimal, decimalValue?, h', if_true]
      by_cases hd : 0x30 ≤ c.toNat ∧ c.toNat ≤ 0x39 <;> simp [hd]
    rw [plainNumeralChar, if_pos h, Bool.eq_iff_iff, Char.isDigit_iff_toNat, hdecimal]
  · rcases plainNumeralChar_cases (Nat.not_lt.1 h) with ⟨hnot, hc | hc⟩ | ⟨hdec, d, hd, hc⟩
    · rw [hc, hnot]
      rfl
    · rw [hc, hnot]
      rfl
    · rw [hc, hdec]
      interval_cases d <;> rfl

/-- The marks of a numeral, which stand for themselves alone; an underscore is one of them. -/
def numeralMarks : List Char := ['-', '+', '.', 'e', 'E', '_']

lemma plainNumeralChar_eq_iff {a : Char} (ha : a ∈ numeralMarks) :
    plainNumeralChar c = a ↔ c = a := by
  -- checked mark by mark, because a search through all characters would not end
  have hmarks : ∀ a ∈ numeralMarks, a.toNat < 0x7f ∧ ' ' ≠ a ∧ '?' ≠ a ∧
      ∀ d < 10, Char.ofNat (0x30 + d) ≠ a := List.all_iff_forall_prop.1 (by decide)
  obtain ⟨hlt, hspace, hquestion, hdigit⟩ := hmarks a ha
  by_cases h : c.toNat < 0x7f
  · rw [plainNumeralChar, if_pos h]
  · have hne : c ≠ a := by
      rintro rfl
      exact h hlt
    refine iff_of_false ?_ hne
    rcases plainNumeralChar_cases (Nat.not_lt.1 h) with ⟨-, hc | hc⟩ | ⟨-, d, hd, hc⟩
    · rwa [hc]
    · rwa [hc]
    · rw [hc]
      exact hdigit d hd

/-- A character that may stand in a numeral, underscores apart. -/
def InNumeral (c : Char) : Prop := isDecimal c = true ∨ c ∈ ['-', '+', '.', 'e', 'E']

lemma InNumeral.plain (h : InNumeral c) :
    (plainNumeralChar c).isDigit = true ∨ plainNumeralChar c ∈ ['-', '+', '.', 'e', 'E'] := by
  rcases h with h | h
  · exact Or.inl ((isDigit_plainNumeralChar c).trans h)
  · have hmark : c ∈ numeralMarks := List.mem_append_left ['_'] h
    rw [(plainNumeralChar_eq_iff hmark).2 rfl]
    exact Or.inr h

/-- The characters that a numeral becomes are neither spaces nor letters of a word. -/
lemma InNumeral.plain_not (h : InNumeral c) :
    isAsciiSpace (plainNumeralChar c) = false ∧ plainNumeralChar c ≠ '_' ∧
      (plainNumeralChar c).toLower ∉ ['i', 'n'] := by
  have hmarks : ∀ a ∈ ['-', '+', '.', 'e', 'E'], isAsciiSpace a = false ∧ a ≠ '_' ∧
      a.toLower ∉ ['i', 'n'] := List.all_iff_forall_prop.1 (by decide)
  rcases h.plain with hd | hmark
  · obtain ⟨hlow, hhigh⟩ := Char.isDigit_iff_toNat.1 hd
    have hdigits : ∀ n < 10, isAsciiSpace (Char.ofNat (0x30 + n)) = false ∧
        Char.ofNat (0x30 + n) ≠ '_' ∧
          (Char.ofNat (0x30 + n)).toLower ∉ ['i', 'n'] := by decide
    have h48 : '0'.toNat = 48 := rfl
    have h57 : '9'.toNat = 57 := rfl
    have hn := hdigits ((plainNumeralChar c).toNat - 48) (by omega)
    have hsum : 0x30 + ((plainNumeralChar c).toNat - 48) = (plainNumeralChar c).toNat := by omega
    rwa [hsum, Char.ofNat_toNat] at hn
  · exact hmarks _ hmark

end Characters

/-! ## Numerals as they are recognised -/

section Recognised

variable {cs : List Char}

lemma takeSign_cases (cs : List Char) :
    takeSign cs = (false, cs) ∨ ∃ s ∈ ['-', '+'], cs = s :: (takeSign cs).2 := by
  cases cs with
  | nil => exact Or.inl rfl
  | cons c cs =>
      by_cases hminus : c = '-'
      · subst hminus
        exact Or.inr ⟨'-', by simp, rfl⟩
      · by_cases hplus : c = '+'
        · subst hplus
          exact Or.inr ⟨'+', by simp, rfl⟩
        · left
          rw [takeSign]
          · rintro rest h
            exact hminus (List.cons.inj h).1
          · rintro rest h
            exact hplus (List.cons.inj h).1

/-- Signs are taken off a numeral before or after its characters became plain. -/
lemma takeSign_map (cs : List Char) :
    takeSign (cs.map plainNumeralChar) =
      ((takeSign cs).1, (takeSign cs).2.map plainNumeralChar) := by
  cases cs with
  | nil => rfl
  | cons c cs =>
      by_cases hminus : c = '-'
      · subst hminus
        rfl
      · by_cases hplus : c = '+'
        · subst hplus
          rfl
        · have hm := (plainNumeralChar_eq_iff (c := c) (a := '-') (by decide)).not.2 hminus
          have hp := (plainNumeralChar_eq_iff (c := c) (a := '+') (by decide)).not.2 hplus
          rw [List.map_cons, takeSign, takeSign, List.map_cons]
          · exact fun rest h => hminus (List.cons.inj h).1
          · exact fun rest h => hplus (List.cons.inj h).1
          · exact fun rest h => hm (List.cons.inj h).1
          · exact fun rest h => hp (List.cons.inj h).1

lemma inNumeral_of_takeSign (h : ∀ c ∈ (takeSign cs).2, InNumeral c) :
    ∀ c ∈ cs, InNumeral c := by
  rcases takeSign_cases cs with heq | ⟨s, hs, heq⟩
  · rwa [heq] at h
  · rw [heq]
    refine List.forall_mem_cons.2 ⟨Or.inr ?_, h⟩
    have hsign : s = '-' ∨ s = '+' := by simpa using hs
    rcases hsign with rfl | rfl <;> decide

lemma takeWhile_decimal (cs : List Char) :
    (cs.map plainNumeralChar).takeWhile Char.isDigit =
      (cs.takeWhile isDecimal).map plainNumeralChar := by
  rw [List.takeWhile_map]
  congr 2
  exact funext isDigit_plainNumeralChar

lemma dropWhile_decimal (cs : List Char) :
    (cs.map plainNumeralChar).dropWhile Char.isDigit =
      (cs.dropWhile isDecimal).map plainNumeralChar := by
  rw [List.dropWhile_map]
  congr 2
  exact funext isDigit_plainNumeralChar

lemma isDecimal_of_mem_takeWhile {c : Char} (h : c ∈ cs.takeWhile isDecimal) :
    isDecimal c = true :=
  List.all_eq_true.1 (List.all_takeWhile) c h

namespace Value

lemma inNumeral_of_tail (h : isExponentTail cs = true) : ∀ c ∈ cs, InNumeral c := by
  cases cs with
  | nil => exact fun c hc => absurd hc List.not_mem_nil
  | cons m rest =>
      simp only [isExponentTail, Bool.and_eq_true, Bool.or_eq_true, decide_eq_true_eq] at h
      obtain ⟨hm, -, hall⟩ := h
      refine List.forall_mem_cons.2 ⟨?_, inNumeral_of_takeSign fun c hc => ?_⟩
      · rcases hm with rfl | rfl <;> exact Or.inr (by decide)
      · exact Or.inl (List.all_eq_true.1 hall c hc)

/-- A numeral behind its sign: digits, perhaps a point with more digits, and the tail. -/
lemma body_of_isNumeral (h : isNumeral cs = true) :
    ((takeSign cs).2.takeWhile isDecimal ≠ [] ∧
        isExponentTail ((takeSign cs).2.dropWhile isDecimal) = true ∧
        ((takeSign cs).2.dropWhile isDecimal).head? ≠ some '.') ∨
      ∃ rest, (takeSign cs).2.dropWhile isDecimal = '.' :: rest ∧
        ((takeSign cs).2.takeWhile isDecimal ≠ [] ∨ rest.takeWhile isDecimal ≠ []) ∧
        isExponentTail (rest.dropWhile isDecimal) = true := by
  unfold isNumeral at h
  simp only at h
  split at h
  · next rest heq =>
      simp only [Bool.and_eq_true, Bool.not_eq_true', Bool.and_eq_false_iff,
        List.isEmpty_eq_false_iff]
        at h
      exact Or.inr ⟨rest, heq, h.1, h.2⟩
  · next hne =>
      simp only [Bool.and_eq_true, Bool.not_eq_true', List.isEmpty_eq_false_iff] at h
      refine Or.inl ⟨h.1, h.2, fun hhead => ?_⟩
      obtain ⟨rest, hrest⟩ := List.head?_eq_some_iff.1 hhead
      exact hne rest hrest

lemma inNumeral_of_isNumeral (h : isNumeral cs = true) : ∀ c ∈ cs, InNumeral c := by
  refine inNumeral_of_takeSign fun c hc => ?_
  rw [← List.takeWhile_append_dropWhile (p := isDecimal) (l := (takeSign cs).2)] at hc
  rcases List.mem_append.1 hc with hc | hc
  · exact Or.inl (isDecimal_of_mem_takeWhile hc)
  rcases body_of_isNumeral h with ⟨-, htail, -⟩ | ⟨rest, heq, -, htail⟩
  · exact inNumeral_of_tail htail c hc
  · rw [heq] at hc
    rcases List.mem_cons.1 hc with rfl | hc
    · exact Or.inr (by decide)
    · rw [← List.takeWhile_append_dropWhile (p := isDecimal) (l := rest)] at hc
      rcases List.mem_append.1 hc with hc | hc
      · exact Or.inl (isDecimal_of_mem_takeWhile hc)
      · exact inNumeral_of_tail htail c hc

end Value

end Recognised

/-! ## Numerals as they are read -/

section Read

variable {cs : List Char}

/-- Nothing is cut off at the ends of a numeral. -/
lemma numeralBody_ofList (h : ∀ c ∈ cs, InNumeral c) :
    numeralBody (String.ofList cs) = cs.map plainNumeralChar := by
  have hspace : ∀ l : List Char, (∀ c ∈ l, isAsciiSpace c = false) →
      l.dropWhile isAsciiSpace = l := by
    intro l hl
    cases l with
    | nil => rfl
    | cons c l => exact List.dropWhile_cons_of_neg (by simp [hl c List.mem_cons_self])
  have hplain : ∀ c ∈ cs.map plainNumeralChar, isAsciiSpace c = false := by
    intro c hc
    obtain ⟨d, hd, rfl⟩ := List.mem_map.1 hc
    exact (h d hd).plain_not.1
  simp only [numeralBody, String.toList_ofList]
  rw [hspace _ hplain, hspace _ fun c hc => hplain c (List.mem_reverse.1 hc), List.reverse_reverse]

lemma withoutUnderscores?_eq_some (h : '_' ∉ cs) : withoutUnderscores? cs = some cs := by
  fun_induction withoutUnderscores? cs with
  | case1 => rfl
  | case2 => simp at h
  | case3 => rfl
  | case4 => simp at h
  | case5 => simp at h
  | case6 => simp at h
  | case7 a rest _ _ _ ih => simp [ih fun hmem => h (List.mem_cons_of_mem _ hmem)]

/-- The exponent of a numeral is read. -/
lemma isSome_readExponent? (h : Value.isExponentTail cs = true) :
    (readExponent? (cs.map plainNumeralChar)).isSome := by
  cases cs with
  | nil => rfl
  | cons m rest =>
      simp only [Value.isExponentTail, Bool.and_eq_true, Bool.or_eq_true, decide_eq_true_eq,
        Bool.not_eq_true', List.isEmpty_eq_false_iff] at h
      obtain ⟨hm, hne, hall⟩ := h
      have hmark : plainNumeralChar m = 'e' ∨ plainNumeralChar m = 'E' :=
        hm.imp (plainNumeralChar_eq_iff (by decide)).2 (plainNumeralChar_eq_iff (by decide)).2
      have hdigits : ((takeSign rest).2.map plainNumeralChar).all Char.isDigit = true := by
        rw [List.all_map]
        simpa [Function.comp_def, isDigit_plainNumeralChar] using hall
      simp only [List.map_cons, readExponent?, hmark, if_true, takeSign_map, hdigits]
      simp [hne]

/-- The mantissa of a numeral is read, and the exponent behind it. -/
lemma isSome_readDecimal? (h : Value.isNumeral cs = true) :
    (readDecimal? ((takeSign cs).2.map plainNumeralChar)).isSome := by
  have hread : ∀ (digits : List Char) (places : Nat) (tail : List Char), digits ≠ [] →
      takeMantissa ((takeSign cs).2.map plainNumeralChar) =
        (digits, places, tail.map plainNumeralChar) →
      Value.isExponentTail tail = true →
        (readDecimal? ((takeSign cs).2.map plainNumeralChar)).isSome := by
    intro digits places tail hne hmantissa htail
    obtain ⟨e, he⟩ := Option.isSome_iff_exists.1 (isSome_readExponent? htail)
    simp [readDecimal?, hmantissa, he, hne]
  rcases Value.body_of_isNumeral h with ⟨hwhole, htail, hpoint⟩ | ⟨rest, heq, hne, htail⟩
  · refine hread (((takeSign cs).2.takeWhile isDecimal).map plainNumeralChar) 0
      ((takeSign cs).2.dropWhile isDecimal) (by simpa using hwhole) ?_ htail
    simp only [takeMantissa, takeWhile_decimal, dropWhile_decimal]
    split
    · next rest hrest =>
        refine absurd ?_ hpoint
        obtain ⟨c, l, hl, hc, -⟩ := List.map_eq_cons_iff.1 hrest
        rw [hl, List.head?_cons, (plainNumeralChar_eq_iff (by decide)).1 hc]
    · rfl
  · refine hread (((takeSign cs).2.takeWhile isDecimal).map plainNumeralChar ++
        (rest.takeWhile isDecimal).map plainNumeralChar) (rest.takeWhile isDecimal).length
      (rest.dropWhile isDecimal) ?_ ?_ htail
    · simp only [ne_eq, List.append_eq_nil_iff, List.map_eq_nil_iff]
      tauto
    · have hp : plainNumeralChar '.' = '.' := (plainNumeralChar_eq_iff (by decide)).2 rfl
      simp only [takeMantissa, takeWhile_decimal, dropWhile_decimal, heq, List.map_cons, hp,
        List.length_map]

/-- A decimal numeral is no word, so it is read as the double nearest to a decimal number. -/
lemma readDouble?_of_isNumeral (h : Value.isNumeral cs = true) :
    readDouble? (String.ofList cs) = Binary64.ofDecimal (takeSign cs).1 <$>
      readDecimal? ((takeSign cs).2.map plainNumeralChar) := by
  have hcs := Value.inNumeral_of_isNumeral h
  have hunderscore : '_' ∉ cs.map plainNumeralChar := by
    intro hmem
    obtain ⟨c, hc, heq⟩ := List.mem_map.1 hmem
    exact (hcs c hc).plain_not.2.1 heq
  have hword : ∀ a ∈ ['i', 'n'],
      a ∉ ((takeSign cs).2.map plainNumeralChar).map Char.toLower := by
    intro a ha hmem
    obtain ⟨b, hb, rfl⟩ := List.mem_map.1 hmem
    obtain ⟨c, hc, rfl⟩ := List.mem_map.1 hb
    have hcs' : c ∈ cs := by
      rcases takeSign_cases cs with heq | ⟨s, -, heq⟩
      · rwa [heq] at hc
      · rw [heq]
        exact List.mem_cons_of_mem _ hc
    exact (hcs c hcs').plain_not.2.2 ha
  have hinf : ((takeSign cs).2.map plainNumeralChar).map Char.toLower ≠ "inf".toList := fun heq =>
    hword 'i' (by decide) (heq ▸ by decide)
  have hinfinity : ((takeSign cs).2.map plainNumeralChar).map Char.toLower ≠ "infinity".toList :=
    fun heq => hword 'i' (by decide) (heq ▸ by decide)
  have hnan : ((takeSign cs).2.map plainNumeralChar).map Char.toLower ≠ "nan".toList := fun heq =>
    hword 'n' (by decide) (heq ▸ by decide)
  simp only [readDouble?, numeralBody_ofList hcs, withoutUnderscores?_eq_some hunderscore,
    Option.bind_eq_bind, Option.bind_some, takeSign_map]
  rw [if_neg (not_or.2 ⟨hinf, hinfinity⟩), if_neg hnan]

/-- **A decimal numeral is read as a double.** -/
lemma isSome_readDouble? (h : Value.isNumeral cs = true) :
    (readDouble? (String.ofList cs)).isSome := by
  rw [readDouble?_of_isNumeral h, Option.map_eq_map, Option.isSome_map]
  exact isSome_readDecimal? h

lemma Binary64.ofDecimal_ne_nan (negative : Bool) (d : Decimal) : ofDecimal negative d ≠ nan := by
  have hratio : ∀ num den, ofRatio negative num den ≠ nan := by
    intro num den
    unfold ofRatio
    split <;> nofun
  unfold ofDecimal
  simp only
  split_ifs
  · nofun
  · nofun
  · nofun
  · exact hratio _ _
  · exact hratio _ _

/-- No numeral is read as the undefined number. -/
lemma readDouble?_ne_nan (h : Value.isNumeral cs = true) {x : Binary64}
    (hx : readDouble? (String.ofList cs) = some x) : x ≠ .nan := by
  rw [readDouble?_of_isNumeral h] at hx
  obtain ⟨d, -, rfl⟩ := Option.map_eq_some_iff.1 hx
  exact Binary64.ofDecimal_ne_nan _ d

/-- **The number that digits denote**, of whatever script: a digit counts once, and what is in
front of it ten times. -/
def digitsNumber (cs : List Char) : Nat := cs.foldl (fun n c => n * 10 + (decimalValue? c).getD 0) 0

/-- **The whole number that a sign and digits denote.** -/
def wholeNumber (cs : List Char) : Int :=
  if (takeSign cs).1 then -(digitsNumber (takeSign cs).2 : Int) else digitsNumber (takeSign cs).2

/-- A digit of any script is read as what it is worth. -/
lemma digitValue?_plainNumeralChar {c : Char} (h : isDecimal c = true) :
    ∃ d < 10, decimalValue? c = some d ∧ digitValue? (plainNumeralChar c) = some d := by
  obtain ⟨d, hd⟩ := Option.isSome_iff_exists.1 h
  by_cases hascii : c.toNat < 0x7f
  · have hvalue := hd
    rw [decimalValue?] at hvalue
    simp only [show c.toNat < 0x80 by omega, if_true, Bool.and_eq_true, decide_eq_true_eq,
      Option.ite_none_right_eq_some, Option.some_inj] at hvalue
    obtain ⟨⟨hlow, hhigh⟩, rfl⟩ := hvalue
    refine ⟨_, by omega, hd, ?_⟩
    rw [plainNumeralChar, if_pos hascii, digitValue?, if_pos]
    exact ⟨Char.le_def.2 hlow, Char.le_def.2 hhigh⟩
  · obtain ⟨hlt, hblank⟩ := decimalValue?_of_le (Nat.not_lt.1 hascii) hd
    refine ⟨d, hlt, hd, ?_⟩
    rw [plainNumeralChar, if_neg hascii, hblank, hd]
    simp only [Bool.false_eq_true, if_false]
    interval_cases d <;> rfl

/-- Digits are read one by one. -/
lemma basedDigits?_of_digits (h : ∀ c ∈ cs, isDecimal c = true) :
    basedDigits? 10 (cs.map plainNumeralChar)
      = some (cs.map fun c => (decimalValue? c).getD 0) := by
  induction cs with
  | nil => rfl
  | cons c cs ih =>
      obtain ⟨hc, hcs⟩ := List.forall_mem_cons.1 h
      obtain ⟨d, hd, hvalue, hread⟩ := digitValue?_plainNumeralChar hc
      have hne : plainNumeralChar c ≠ '_' := by
        intro heq
        rw [heq] at hread
        cases hread
      rw [List.map_cons, basedDigits?]
      · simp [hread, hd, ih hcs, hvalue]
      · exact fun _ _ heq => absurd heq hne
      · exact fun heq => absurd heq hne

lemma prefixBase?_of_digits (h : ∀ c ∈ cs, c.isDigit = true) : prefixBase? cs = none := by
  unfold prefixBase?
  split
  · next c _ =>
      have hc : c.isDigit = true := h c (by simp)
      have hletters : ∀ a ∈ ['x', 'X', 'o', 'O', 'b', 'B'], a.isDigit = false :=
        List.all_iff_forall_prop.1 (by decide)
      have hne : ∀ a ∈ ['x', 'X', 'o', 'O', 'b', 'B'], c ≠ a := by
        rintro a ha rfl
        rw [hletters c ha] at hc
        cases hc
      simp only [List.forall_mem_cons] at hne
      simp [hne]
  · rfl

/-- The prefix of a base is never that of the decimal numerals. -/
lemma prefixBase?_ne_ten (body : List Char) : prefixBase? body ≠ some 10 := by
  unfold prefixBase?
  split
  · split
    · decide
    · split
      · decide
      · split <;> decide
  · decide

/-- **A whole numeral is read as the number that it denotes**, unless it has too many digits. -/
lemma readInteger?_of_whole (h : Value.isNumeral cs = true)
    (hwhole : Value.isWholeNumeral cs = true) :
    readInteger? 10 (String.ofList cs)
      = if (takeSign cs).2.length ≤ maxDigits then some (wholeNumber cs) else none := by
  have hall : ∀ c ∈ (takeSign cs).2, isDecimal c = true := List.all_eq_true.1 hwhole
  have hdigits : ∀ c ∈ (takeSign cs).2.map plainNumeralChar, c.isDigit = true := by
    intro c hc
    obtain ⟨d, hd, rfl⟩ := List.mem_map.1 hc
    exact (isDigit_plainNumeralChar d).trans (hall d hd)
  have hne : (takeSign cs).2 ≠ [] := by
    rcases Value.body_of_isNumeral h with ⟨htake, -, -⟩ | ⟨rest, heq, -, -⟩
    · exact fun hnil => htake (by rw [hnil]; rfl)
    · exact fun hnil => by rw [hnil] at heq; cases heq
  have hhead : ((takeSign cs).2.map plainNumeralChar).head? ≠ some '_' := by
    intro hhead
    have hmem := List.mem_of_mem_head? (Option.mem_def.2 hhead)
    cases hdigits '_' hmem
  have hread : readDigits? 10 ((takeSign cs).2.map plainNumeralChar) =
      if (takeSign cs).2.length ≤ maxDigits then some (digitsNumber (takeSign cs).2)
      else none := by
    have hempty : ((takeSign cs).2.map plainNumeralChar).isEmpty = false := by simp [hne]
    have hvalue : digitsValue 10 ((takeSign cs).2.map fun c => (decimalValue? c).getD 0)
        = digitsNumber (takeSign cs).2 := by
      rw [digitsValue, List.foldl_map, digitsNumber]
    simp only [readDigits?, hempty, hhead, basedDigits?_of_digits hall]
    simp [isPowerOfTwoBase, hvalue]
  simp only [readInteger?, numeralBody_ofList (Value.inNumeral_of_isNumeral h), takeSign_map,
    prefixBase?_of_digits hdigits, hread]
  by_cases hmax : (takeSign cs).2.length ≤ maxDigits <;> simp [hmax, wholeNumber]

lemma isSome_readInteger? (h : Value.isNumeral cs = true)
    (hwhole : Value.isWholeNumeral cs = true) :
    (readInteger? 10 (String.ofList cs)).isSome ↔ (takeSign cs).2.length ≤ maxDigits := by
  rw [readInteger?_of_whole h hwhole]
  split <;> simp_all

/-! ## Numbers that are read -/

lemma digitsValue_concat {base : Nat} (ds : List Nat) (d : Nat) :
    digitsValue base (ds ++ [d]) = digitsValue base ds * base + d := by
  simp [digitsValue]

lemma digitsValue_lt {base : Nat} {ds : List Nat} (h : ∀ d ∈ ds, d < base) :
    digitsValue base ds < base ^ ds.length := by
  induction ds using List.reverseRecOn with
  | nil => simp [digitsValue]
  | append_singleton ds d ih =>
      have hd : d < base := h d (by simp)
      have hds := ih fun d' hd' => h d' (List.mem_append_left _ hd')
      rw [digitsValue_concat, List.length_append, List.length_singleton, pow_succ]
      calc digitsValue base ds * base + d < digitsValue base ds * base + base := by omega
        _ = (digitsValue base ds + 1) * base := (Nat.succ_mul _ _).symm
        _ ≤ base ^ ds.length * base := Nat.mul_le_mul_right _ hds

lemma basedDigits?_lt {base : Nat} {ds : List Nat} (h : basedDigits? base cs = some ds) :
    ∀ d ∈ ds, d < base := by
  fun_induction basedDigits? base cs generalizing ds with
  | case1 => cases h; simp
  | case2 => cases h
  | case3 c rest _ ih => exact ih h
  | case4 => cases h
  | case5 c rest _ _ ih =>
      obtain ⟨d, -, h⟩ := Option.bind_eq_some_iff.1 h
      split at h
      · next hlt =>
          obtain ⟨rest, hrest, rfl⟩ := Option.map_eq_some_iff.1 h
          exact List.forall_mem_cons.2 ⟨hlt, ih hrest⟩
      · cases h

lemma lt_digitBound {n len : Nat} (h : n < 10 ^ len) (hlen : len ≤ maxDigits) :
    n < digitBound := by
  unfold digitBound
  generalize maxDigits = most at hlen
  exact lt_of_lt_of_le h (Nat.pow_le_pow_right (by decide) hlen)

/-- A number that is read in decimal digits has not too many of them. -/
lemma natAbs_readInteger?_lt {text : String} {i : Int} (h : readInteger? 10 text = some i) :
    i.natAbs < digitBound := by
  have hread : ∀ {body : List Char} {n : Nat}, readDigits? 10 body = some n →
      n < digitBound := by
    intro body n hn
    simp only [readDigits?] at hn
    split at hn
    · cases hn
    · obtain ⟨ds, hds, hn⟩ := Option.bind_eq_some_iff.1 hn
      split at hn
      · next hlen =>
          cases hn
          have hlen : ds.length ≤ maxDigits := by simpa [isPowerOfTwoBase] using hlen
          exact lt_digitBound (digitsValue_lt (basedDigits?_lt hds)) hlen
      · cases hn
  simp only [readInteger?, prefixBase?_ne_ten, if_false] at h
  obtain ⟨n, hn, h⟩ := Option.bind_eq_some_iff.1 h
  have hlt := hread hn
  cases h
  split <;> simpa using hlt

end Read

end Crosswalk
