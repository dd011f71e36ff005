import Crosswalk.Json.Reader
import Crosswalk.Proofs.Sequence
import Mathlib.Tactic.IntervalCases

/-!
# Texts and whole numbers in JSON

What is written of a text or a whole number is read as that, whatever comes behind it.  A text ends
at its closing quote, since a quote inside of it is escaped.  A number ends where a character
cannot be part of it.

* `Json.readText_escapeChar` — one character of a text.
* **`Json.readText_escapedText`** — a text.
* `Json.Stops` — what may come behind a number.
* **`Json.readScalar_int`** — a whole number, if it has not too many digits.
-/

namespace Crosswalk.Json

/-! ## Texts -/

/-- A control character is escaped by the unit that it is. -/
lemma unitEscape_control {n : Nat} (hn : n < 0x20) :
    ∃ a b c d, unitEscape n = ['\\', 'u', a, b, c, d] ∧ unit? a b c d = some n := by
  interval_cases n <;> exact ⟨_, _, _, _, rfl, rfl⟩

/-- A control character is no half of a character. -/
lemma unitChar_control {n : Nat} (hn : n < 0x20) :
    isHighUnit n = false ∧ unitChar n = Char.ofNat n := by
  interval_cases n <;> exact ⟨rfl, rfl⟩

lemma readText_unitEscape {n : Nat} (hn : n < 0x20) (cs : List Char) :
    readText (unitEscape n ++ cs)
      = (readText cs).map fun (t, after) => (Char.ofNat n :: t, after) := by
  obtain ⟨a, b, c, d, hescape, hunit⟩ := unitEscape_control hn
  obtain ⟨hhigh, hchar⟩ := unitChar_control hn
  rw [hescape]
  simp only [List.cons_append, List.nil_append]
  rw [readText.eq_def]
  split
  · next h => cases h
  · next h => simp at h
  · next h =>
      -- two units in a row: the first one is a character of its own
      simp only [List.cons.injEq, true_and] at h
      obtain ⟨rfl, rfl, rfl, rfl, rfl⟩ := h
      rw [hunit]
      split
      · next hsome _ =>
          obtain rfl := Option.some_inj.1 hsome
          simp only [hhigh, hchar, Bool.false_and, Bool.false_eq_true, if_false]
          cases readText _ <;> rfl
      · next hsome _ =>
          obtain rfl := Option.some_inj.1 hsome
          rw [hchar]
          cases readText _ <;> rfl
      · next hnone => cases hnone
  · next h =>
      simp only [List.cons.injEq, true_and] at h
      obtain ⟨rfl, rfl, rfl, rfl, rfl⟩ := h
      rw [hunit, Option.bind_eq_bind, Option.bind_some, hchar]
      cases readText cs <;> rfl
  · next hno h =>
      simp only [List.cons.injEq, true_and] at h
      exact (hno a b c d cs h.1.symm h.2.symm).elim
  · next hno h =>
      simp only [List.cons.injEq] at h
      exact (hno 'u' _ h.1.symm h.2.symm).elim

/-- A character behind a backslash, other than the mark of a unit. -/
lemma readText_shortEscape {e c : Char} (he : shortEscape? e = some c) (cs : List Char) :
    readText ('\\' :: e :: cs) = (readText cs).map fun (t, after) => (c :: t, after) := by
  have hu : e ≠ 'u' := by
    rintro rfl
    cases he
  rw [readText.eq_def]
  split
  · next h => cases h
  · next h => simp at h
  · next h => exact (hu (List.cons.inj (List.cons.inj h).2).1).elim
  · next h => exact (hu (List.cons.inj (List.cons.inj h).2).1).elim
  · next h =>
      simp only [List.cons.injEq, true_and] at h
      obtain ⟨rfl, rfl⟩ := h
      rw [he, Option.bind_eq_bind, Option.bind_some]
      cases readText cs <;> rfl
  · next hno h =>
      simp only [List.cons.injEq] at h
      exact (hno e cs h.1.symm h.2.symm).elim

/-- A character that stands for itself. -/
lemma readText_plain {c : Char} (hquote : c ≠ '"') (hslash : c ≠ '\\') (hmin : 0x20 ≤ c.toNat)
    (cs : List Char) :
    readText (c :: cs) = (readText cs).map fun (t, after) => (c :: t, after) := by
  rw [readText.eq_def]
  split
  · next h => cases h
  · next h => exact (hquote (List.cons.inj h).1).elim
  · next h => exact (hslash (List.cons.inj h).1).elim
  · next h => exact (hslash (List.cons.inj h).1).elim
  · next h => exact (hslash (List.cons.inj h).1).elim
  · next h =>
      obtain ⟨rfl, rfl⟩ := List.cons.inj h
      rw [if_neg (by simpa [hslash] using hmin)]
      cases readText cs <;> rfl

/-- **A character of a text** is read as this character. -/
theorem readText_escapeChar (c : Char) (cs : List Char) :
    readText (escapeChar false c ++ cs) = (readText cs).map fun (t, after) => (c :: t, after) := by
  have hof : Char.ofNat c.toNat = c := Char.ofNat_toNat c
  unfold escapeChar
  split_ifs with hquote hslash hn hr ht hf hb hcontrol hascii
  · rw [hquote]
    exact readText_shortEscape rfl cs
  · rw [hslash]
    exact readText_shortEscape rfl cs
  · rw [hn]
    exact readText_shortEscape rfl cs
  · rw [hr]
    exact readText_shortEscape rfl cs
  · rw [ht]
    exact readText_shortEscape rfl cs
  · refine readText_shortEscape ?_ cs
    rw [← hof, hf]
    rfl
  · refine readText_shortEscape ?_ cs
    rw [← hof, hb]
    rfl
  · exact (readText_unitEscape hcontrol cs).trans (by rw [hof])
  · cases hascii
  · exact readText_plain hquote hslash (by omega) cs

lemma readText_closing (cs : List Char) : readText ('"' :: cs) = some ([], cs) := by
  rw [readText]

/-- **A text is read up to its closing quote.** -/
theorem readText_escapedText (s : String) (cs : List Char) :
    readText (s.toList.flatMap (escapeChar false) ++ '"' :: cs) = some (s.toList, cs) := by
  induction s.toList with
  | nil => exact readText_closing cs
  | cons c t ih =>
      rw [List.flatMap_cons, List.append_assoc, readText_escapeChar, ih]
      rfl

/-! ## Words and numbers -/

/-- **What may come behind a number**: nothing, or a character that cannot be part of it. -/
def Stops (cs : List Char) : Prop :=
  ∀ c, cs.head? = some c → ¬ isDigit c ∧ c ≠ '.' ∧ c ≠ 'e' ∧ c ≠ 'E'

lemma isDigit_of_mem_toDigits {n : Nat} {c : Char} (h : c ∈ Nat.toDigits 10 n) : isDigit c := by
  have hdigit : c.isDigit = true := Nat.isDigit_of_mem_toDigits (by decide) (by decide) h
  rw [Char.isDigit, Bool.and_eq_true, decide_eq_true_iff, decide_eq_true_iff] at hdigit
  rw [isDigit, Bool.and_eq_true, decide_eq_true_iff, decide_eq_true_iff]
  exact hdigit

lemma takeWhile_digits {ds cs : List Char} (hds : ∀ c ∈ ds, isDigit c) (hcs : Stops cs) :
    (ds ++ cs).takeWhile isDigit = ds ∧ (ds ++ cs).dropWhile isDigit = cs :=
  takeWhile_dropWhile_append hds fun c hc => Bool.eq_false_iff.2 (hcs c hc).1

/-- The first digit of a number other than zero is not zero. -/
lemma eq_zero_of_toDigits {n : Nat} {ds : List Char} (h : Nat.toDigits 10 n = '0' :: ds) :
    n = 0 := by
  induction n using Nat.strong_induction_on generalizing ds with
  | _ n ih =>
      by_cases hn : n < 10
      · rw [Nat.toDigits_of_lt_base hn] at h
        have hchar := (List.cons.inj h).1
        interval_cases n <;> first | rfl | cases hchar
      · rw [Nat.toDigits_of_base_le (by decide) (by omega)] at h
        cases hds : Nat.toDigits 10 (n / 10) with
        | nil => exact absurd hds Nat.toDigits_ne_nil
        | cons d rest =>
            rw [hds, List.cons_append] at h
            have := ih (n / 10) (by omega) (hds.trans (congrArg (· :: rest) (List.cons.inj h).1))
            omega

lemma wholeDigits_toDigits (n : Nat) {cs : List Char} (hcs : Stops cs) :
    wholeDigits (Nat.toDigits 10 n ++ cs) = some (Nat.toDigits 10 n, cs) := by
  by_cases hn : n = 0
  · subst hn
    rfl
  · have hdigits : ∀ c ∈ Nat.toDigits 10 n, isDigit c := fun c hc => isDigit_of_mem_toDigits hc
    obtain ⟨htake, hdrop⟩ := takeWhile_digits hdigits hcs
    cases hds : Nat.toDigits 10 n with
    | nil => exact absurd hds Nat.toDigits_ne_nil
    | cons d ds =>
        rw [hds, List.cons_append] at htake hdrop
        have hd : isDigit d := isDigit_of_mem_toDigits (hds ▸ List.mem_cons_self)
        rw [List.cons_append, wholeDigits, if_pos hd, htake, hdrop]
        rintro rfl
        exact hn (eq_zero_of_toDigits hds)

lemma fractionDigits_of_stops {cs : List Char} (hcs : Stops cs) : fractionDigits cs = ([], cs) := by
  cases cs with
  | nil => rfl
  | cons c cs =>
      have hc := (hcs c rfl).2.1
      rw [fractionDigits]
      rintro rest h
      exact hc (List.cons.inj h).1

lemma exponentOf_of_stops {cs : List Char} (hcs : Stops cs) : exponentOf cs = (none, cs) := by
  cases cs with
  | nil => rfl
  | cons c cs =>
      have hc := (hcs c rfl).2.2
      rw [exponentOf, if_neg (by simpa using hc)]

/-- A number below the bound has not too many digits. -/
lemma length_toDigits_le {n : Nat} (h : n < digitBound) :
    (Nat.toDigits 10 n).length ≤ maxDigits := by
  have hpos : 0 < maxDigits := by decide
  unfold digitBound at h
  generalize maxDigits = k at h hpos
  exact (Nat.length_toDigits_le_iff (by decide) hpos).2 h

section Numbers

variable {cs whole rest : List Char}

lemma readNumber_minus (h : wholeDigits cs = some (whole, rest)) (hrest : Stops rest)
    (hlen : whole.length ≤ maxDigits) :
    readNumber ('-' :: cs) = .ok (int (-(Nat.ofDigitChars 10 whole 0 : Nat)), rest) := by
  unfold readNumber
  simp only [h, fractionDigits_of_stops hrest, exponentOf_of_stops hrest]
  rw [if_neg (Nat.not_lt.2 hlen)]
  rfl

lemma readNumber_plain (hsign : cs.head? ≠ some '-') (h : wholeDigits cs = some (whole, rest))
    (hrest : Stops rest) (hlen : whole.length ≤ maxDigits) :
    readNumber cs = .ok (int (Nat.ofDigitChars 10 whole 0 : Nat), rest) := by
  unfold readNumber
  split
  next negative body heq =>
  split at heq
  · exact absurd rfl hsign
  · obtain ⟨rfl, rfl⟩ := Prod.mk.inj heq
    simp only [h, fractionDigits_of_stops hrest, exponentOf_of_stops hrest]
    rw [if_neg (Nat.not_lt.2 hlen)]
    rfl

end Numbers

/-- A whole number is read to its end, if it has not too many digits. -/
lemma readNumber_wholeText {i : Int} (hi : i.natAbs < digitBound) {cs : List Char}
    (hcs : Stops cs) :
    readNumber (wholeText i ++ cs) = .ok (.int i, cs) := by
  have hlen := length_toDigits_le hi
  have hvalue : Nat.ofDigitChars 10 (Nat.toDigits 10 i.natAbs) 0 = i.natAbs :=
    Nat.ofDigitChars_toDigits (by decide) (by decide)
  have hwhole := wholeDigits_toDigits i.natAbs hcs
  rw [wholeText]
  split
  · rw [List.cons_append, List.nil_append, List.cons_append, readNumber_minus hwhole hcs hlen,
      hvalue]
    have hvalue' : -(i.natAbs : Int) = i := by omega
    rw [hvalue']
  · have hsign : (Nat.toDigits 10 i.natAbs ++ cs).head? ≠ some '-' := by
      rw [List.head?_append_of_ne_nil _ Nat.toDigits_ne_nil]
      intro h
      cases isDigit_of_mem_toDigits (List.mem_of_mem_head? h)
    rw [List.nil_append, readNumber_plain hsign hwhole hcs hlen, hvalue]
    have hvalue' : (i.natAbs : Int) = i := by omega
    rw [hvalue']

/-- The text of a whole number starts with a digit, or with a sign and a digit. -/
lemma head_wholeText (i : Int) : (∃ d cs, wholeText i = d :: cs ∧ isDigit d) ∨
    ∃ d cs, wholeText i = '-' :: d :: cs ∧ isDigit d := by
  cases hds : Nat.toDigits 10 i.natAbs with
  | nil => exact absurd hds Nat.toDigits_ne_nil
  | cons d ds =>
      have hd : isDigit d := isDigit_of_mem_toDigits (hds ▸ List.mem_cons_self)
      rw [wholeText, hds]
      split
      · exact Or.inr ⟨d, ds, rfl, hd⟩
      · exact Or.inl ⟨d, ds, rfl, hd⟩

/-- No word starts with a digit, nor with a sign and a digit. -/
lemma word?_digit {d : Char} (hd : isDigit d) (cs : List Char) :
    ∀ w ∈ ["null", "true", "false", "NaN", "Infinity", "-Infinity"],
      word? w (d :: cs) = none ∧ word? w ('-' :: d :: cs) = none := by
  have hne : d ≠ 'n' ∧ d ≠ 't' ∧ d ≠ 'f' ∧ d ≠ 'N' ∧ d ≠ 'I' ∧ d ≠ '-' := by
    refine ⟨?_, ?_, ?_, ?_, ?_, ?_⟩ <;> (rintro rfl; cases hd)
  obtain ⟨hn, ht, hf, hN, hI, hsign⟩ := hne
  simp [word?, Ne.symm hn, Ne.symm ht, Ne.symm hf, Ne.symm hN, Ne.symm hI, Ne.symm hsign]

/-- **A whole number is no word**, and is read to its end. -/
theorem readScalar_int {i : Int} (hi : i.natAbs < digitBound) {cs : List Char} (hcs : Stops cs) :
    readScalar (wholeText i ++ cs) = .ok (.int i, cs) := by
  have hwords : ∀ w ∈ ["null", "true", "false", "NaN", "Infinity", "-Infinity"],
      word? w (wholeText i ++ cs) = none := by
    intro w hw
    rcases head_wholeText i with ⟨d, ds, heq, hd⟩ | ⟨d, ds, heq, hd⟩
    · rw [heq]
      exact (word?_digit hd _ w hw).1
    · rw [heq]
      exact (word?_digit hd _ w hw).2
  have hnumber := readNumber_wholeText hi hcs
  rw [readScalar]
  simp only [List.mem_cons, List.not_mem_nil, or_false, forall_eq_or_imp, forall_eq] at hwords
  simp only [List.findSome?, hwords]
  exact hnumber

end Crosswalk.Json
