import Crosswalk.Proofs.Formula.WholeNumbers
import Crosswalk.Proofs.Number.Shortest

/-!
# The plain form of a double reads back

The plain form lays the digits of a decimal number out around a point, with zeros between the two
if need be, or writes its exponent.  Either way it is a numeral with a point or an exponent, and
what it denotes differs from the decimal number by zeros at the end of the digits only.

* `numeralText` — digits, a point with more digits and an exponent, as characters.
* `readDecimal?_numeralText`, `isNumeral_numeralText` — such characters are a numeral, read as
  what they say.
* `Decimal.exists_plainText_eq` — **what the plain form denotes.**
* **`Binary64.readDouble?_text`** — the plain form of a double other than zero is read as this
  double. -/

namespace Crosswalk

/-! ## Digits -/

section Digits

variable {ds : List Char}

lemma digitsNumber_append (ds es : List Char) :
    digitsNumber (ds ++ es) = digitsNumber ds * 10 ^ es.length + digitsNumber es := by
  induction es using List.reverseRecOn with
  | nil => simp [digitsNumber]
  | append_singleton es c ih =>
      rw [← List.append_assoc, digitsNumber_concat, digitsNumber_concat, ih, List.length_append,
        List.length_singleton, Nat.pow_succ]
      ring

lemma digitsNumber_zeros (k : Nat) : digitsNumber (List.replicate k '0') = 0 := by
  induction k with
  | zero => rfl
  | succ k ih =>
      rw [List.replicate_succ', digitsNumber_concat, ih]
      rfl

lemma digitsNumber_zeros_append (k : Nat) (ds : List Char) :
    digitsNumber (List.replicate k '0' ++ ds) = digitsNumber ds := by
  rw [digitsNumber_append, digitsNumber_zeros, Nat.zero_mul, Nat.zero_add]

lemma digitsNumber_append_zeros (ds : List Char) (k : Nat) :
    digitsNumber (ds ++ List.replicate k '0') = digitsNumber ds * 10 ^ k := by
  rw [digitsNumber_append, digitsNumber_zeros, Nat.add_zero, List.length_replicate]

/-- Only zeros are taken off. -/
lemma exists_withoutTrailingZeros (ds : List Char) :
    ∃ k, ds = withoutTrailingZeros ds ++ List.replicate k '0' := by
  have hzeros : ds.reverse.takeWhile (· == '0')
      = List.replicate (ds.reverse.takeWhile (· == '0')).length '0' := by
    refine List.eq_replicate_of_mem fun c hc => ?_
    exact eq_of_beq (List.all_eq_true.1 List.all_takeWhile c hc)
  refine ⟨(ds.reverse.takeWhile (· == '0')).length, ?_⟩
  rw [withoutTrailingZeros, ← List.reverse_replicate, ← hzeros, ← List.reverse_append,
    List.takeWhile_append_dropWhile, List.reverse_reverse]

/-- An ASCII digit, as every function that reads digits has it. -/
lemma ascii_digit {c : Char} (h : c.isDigit = true) :
    plainNumeralChar c = c ∧ isBlank c = false ∧ isDecimal c = true ∧
      decimalValue? c = some (c.toNat - 48) := by
  obtain ⟨hlow, hhigh⟩ := Char.isDigit_iff_toNat.1 h
  have h48 : '0'.toNat = 48 := rfl
  have h57 : '9'.toNat = 57 := rfl
  have hascii : c.toNat < 0x7f := by omega
  have hplain : plainNumeralChar c = c := by rw [plainNumeralChar, if_pos hascii]
  have hvalue : decimalValue? c = some (c.toNat - 48) := by
    have hlow' : 0x30 ≤ c.toNat := by omega
    have hhigh' : c.toNat ≤ 0x39 := by omega
    have hsmall : c.toNat < 0x80 := by omega
    simp [decimalValue?, hsmall, hlow', hhigh']
  refine ⟨hplain, ?_, by rw [isDecimal, hvalue]; rfl, hvalue⟩
  simp only [isBlank, Bool.or_eq_false_iff, Bool.and_eq_false_iff, decide_eq_false_iff_not,
    beq_eq_false_iff_ne]
  omega

/-- The two readings of ASCII digits agree. -/
lemma digitsValue_of_ascii (h : ∀ c ∈ ds, c.isDigit = true) :
    digitsValue 10 (ds.map fun d => d.toNat - 48) = digitsNumber ds := by
  induction ds using List.reverseRecOn with
  | nil => rfl
  | append_singleton ds c ih =>
      have hc := (ascii_digit (h c (by simp))).2.2.2
      rw [List.map_append, List.map_singleton, digitsValue_concat, digitsNumber_concat,
        ih fun d hd => h d (List.mem_append_left _ hd), hc, Option.getD_some]

end Digits

/-! ## Numerals with a point or an exponent -/

/-- An exponent, which may be missing. -/
def exponentPart : Option Int → List Char
  | none => []
  | some e => exponentText 'e' e

/-- **Digits, a point with more digits and an exponent**, the last two of which may be missing. -/
def numeralText (whole fraction : List Char) (e : Option Int) : List Char :=
  whole ++ (pointed fraction ++ exponentPart e)

/-- The two parts of a numeral are digits, and the first is not missing. -/
structure NumeralDigits (whole fraction : List Char) : Prop where
  /-- There are digits in front of the point. -/
  ne_nil : whole ≠ []
  /-- Nothing else is there. -/
  whole_digits : ∀ c ∈ whole, c.isDigit = true
  /-- Behind the point there are digits only. -/
  fraction_digits : ∀ c ∈ fraction, c.isDigit = true

/-- The number that such a numeral denotes. -/
def numeralDecimal (whole fraction : List Char) (e : Option Int) : Decimal :=
  ⟨digitsNumber (whole ++ fraction), e.getD 0 - fraction.length⟩

section Numerals

variable {whole fraction : List Char} {e : Option Int}

lemma exponentText_eq (e : Int) :
    ∃ ds, exponentText 'e' e = 'e' :: (if e < 0 then '-' else '+') :: ds ∧
    ds ≠ [] ∧ (∀ c ∈ ds, c.isDigit = true) ∧ digitsNumber ds = e.natAbs := by
  refine ⟨(paddedDigits 2 e.natAbs).toList, rfl, ?_⟩
  simp only [paddedDigits, String.toList_ofList]
  refine ⟨by simp [Nat.toDigits_ne_nil],
    List.forall_mem_append.2 ⟨?_,
      fun c => Nat.isDigit_of_mem_toDigits (by decide) (by decide)⟩, ?_⟩
  · intro c hc
    rw [List.eq_of_mem_replicate hc]
    rfl
  · rw [digitsNumber_zeros_append, (digitsNumber_toDigits _).1]

/-- The exponent is read as it was written. -/
lemma readExponent?_exponentText (e : Int) : readExponent? (exponentText 'e' e) = some e := by
  obtain ⟨ds, htext, hne, hdigits, hvalue⟩ := exponentText_eq e
  have hsign : takeSign ((if e < 0 then '-' else '+') :: ds) = (decide (e < 0), ds) := by
    by_cases hneg : e < 0 <;> simp [hneg, takeSign]
  have hall : ds.all Char.isDigit = true := List.all_eq_true.2 hdigits
  rw [htext, readExponent?, if_pos (Or.inl rfl), hsign]
  simp only [List.isEmpty_eq_false_iff.2 hne, hall, digitsValue_of_ascii hdigits, hvalue]
  by_cases hneg : e < 0
  · simp only [hneg, decide_true, if_true, Bool.not_true, Bool.or_false, Bool.false_eq_true,
      if_false]
    rw [Int.ofNat_natAbs_of_nonpos hneg.le, Int.neg_neg]
  · simp only [hneg, decide_false, if_false, Bool.not_true, Bool.or_false, Bool.false_eq_true]
    rw [Int.natAbs_of_nonneg (Int.not_lt.1 hneg)]

lemma isExponentTail_exponentText (e : Int) : Value.isExponentTail (exponentText 'e' e) = true := by
  obtain ⟨ds, htext, hne, hdigits, -⟩ := exponentText_eq e
  have hsign : (takeSign ((if e < 0 then '-' else '+') :: ds)).2 = ds := by
    split <;> rfl
  have hall : ds.all isDecimal = true :=
    List.all_eq_true.2 fun c hc => (ascii_digit (hdigits c hc)).2.2.1
  rw [htext, Value.isExponentTail, hsign]
  simp [hall, hne]

/-- What stands behind the digits in front of the point. -/
lemma head_rest (fraction : List Char) (e : Option Int) {p : Char → Bool} (hpoint : p '.' = false)
    (hmark : p 'e' = false) :
    (∀ c ∈ (pointed fraction ++ exponentPart e).head?, p c = false) ∧
      ∀ c ∈ (exponentPart e).head?, p c = false := by
  have htail : ∀ c ∈ (exponentPart e).head?, p c = false := by
    cases e with
    | none => simp [exponentPart]
    | some e => simp [exponentPart, exponentText, hmark]
  refine ⟨?_, htail⟩
  cases fraction with
  | nil => exact htail
  | cons c fraction => simp [pointed, hpoint]

/-- **A numeral is read as what it denotes.** -/
lemma readDecimal?_numeralText (h : NumeralDigits whole fraction) :
    readDecimal? (numeralText whole fraction e) = some (numeralDecimal whole fraction e) := by
  obtain ⟨hhead, htail⟩ := head_rest fraction e (p := Char.isDigit) rfl rfl
  obtain ⟨htake, hdrop⟩ := takeWhile_dropWhile_append h.whole_digits hhead
  obtain ⟨htake', hdrop'⟩ := takeWhile_dropWhile_append h.fraction_digits htail
  have hmantissa : takeMantissa (numeralText whole fraction e)
      = (whole ++ fraction, fraction.length, exponentPart e) := by
    rw [numeralText, takeMantissa, htake, hdrop]
    cases fraction with
    | nil =>
        cases e <;> simp [pointed, exponentPart, exponentText]
    | cons c fraction =>
        simp only [pointed, List.isEmpty_cons, Bool.false_eq_true, if_false,
          List.cons_append] at htake' hdrop' ⊢
        rw [htake', hdrop']
  have hexponent : readExponent? (exponentPart e) = some (e.getD 0) := by
    cases e with
    | none => rfl
    | some e => exact readExponent?_exponentText e
  have hdigits : ∀ c ∈ whole ++ fraction, c.isDigit = true :=
    List.forall_mem_append.2 ⟨h.whole_digits, h.fraction_digits⟩
  have hempty : (whole ++ fraction).isEmpty = false := by simp [h.ne_nil]
  simp only [readDecimal?, hmantissa, hempty, hexponent, Bool.false_eq_true, if_false,
    Option.bind_eq_bind, Option.bind_some, digitsValue_of_ascii hdigits, numeralDecimal]

/-- **It is a numeral**, with a sign in front or without, and no whole one if there is a point or an
exponent. -/
lemma isNumeral_numeralText {cs : List Char} (h : NumeralDigits whole fraction)
    (hcs : (takeSign cs).2 = numeralText whole fraction e) :
    Value.isNumeral cs = true ∧
      (fraction ≠ [] ∨ e.isSome → Value.isWholeNumeral cs = false) := by
  have hdigit : ∀ c : Char, c.isDigit = true → isDecimal c = true :=
    fun c h => (ascii_digit h).2.2.1
  obtain ⟨hhead, htail⟩ := head_rest fraction e (p := isDecimal) rfl rfl
  obtain ⟨htake, hdrop⟩ :=
    takeWhile_dropWhile_append (fun c hc => hdigit c (h.whole_digits c hc)) hhead
  obtain ⟨htake', hdrop'⟩ :=
    takeWhile_dropWhile_append (fun c hc => hdigit c (h.fraction_digits c hc)) htail
  have hexponent : Value.isExponentTail (exponentPart e) = true := by
    cases e with
    | none => rfl
    | some e => exact isExponentTail_exponentText e
  refine ⟨?_, fun hmore => ?_⟩
  · rw [Value.isNumeral, hcs, numeralText]
    simp only [htake, hdrop]
    cases fraction with
    | nil =>
        have hpoint : ∀ rest, exponentPart e ≠ '.' :: rest := by
          cases e <;> simp [exponentPart, exponentText]
        simp only [pointed, List.isEmpty_nil, if_true, List.nil_append]
        simp [h.ne_nil, hexponent]
    | cons c fraction =>
        simp only [pointed, List.isEmpty_cons, Bool.false_eq_true, if_false,
          List.cons_append] at htake' hdrop' ⊢
        rw [htake', hdrop', hexponent]
        simp
  · -- the point or the mark of the exponent is no digit
    have hmark : ∃ c ∈ numeralText whole fraction e, isDecimal c = false := by
      rcases hmore with hfrac | hexp
      · exact ⟨'.', by simp [numeralText, pointed, hfrac], rfl⟩
      · obtain ⟨k, rfl⟩ := Option.isSome_iff_exists.1 hexp
        exact ⟨'e', by simp [numeralText, exponentPart, exponentText], rfl⟩
    rw [Value.isWholeNumeral, hcs, List.all_eq_false]
    simpa using hmark

/-- A numeral begins with a digit, so nothing in it is taken for a sign. -/
lemma takeSign_numeralText (h : NumeralDigits whole fraction) (negative : Bool) (e : Option Int) :
    takeSign ((if negative then ['-'] else []) ++ numeralText whole fraction e)
      = (negative, numeralText whole fraction e) := by
  cases negative with
  | true => rfl
  | false =>
      obtain ⟨c, whole, rfl⟩ := List.exists_cons_of_ne_nil h.ne_nil
      rcases takeSign_cases (numeralText (c :: whole) fraction e) with heq | ⟨s, hs, heq⟩
      · exact heq
      · obtain rfl : c = s := (List.cons.inj heq).1
        have hc : c.isDigit = true := h.whole_digits c List.mem_cons_self
        rcases List.mem_pair.1 hs with rfl | rfl <;> cases hc

/-- Nothing is cut off at the ends of a numeral, signed or not. -/
lemma trimChars_numeralText {cs : List Char} (h : NumeralDigits whole fraction)
    (hcs : (takeSign cs).2 = numeralText whole fraction e) :
    trimChars cs = cs ∧ (takeSign cs).2.map plainNumeralChar = (takeSign cs).2 := by
  have hmarks : ∀ c ∈ ['-', '+', '.', 'e'], isBlank c = false ∧ plainNumeralChar c = c :=
    List.all_iff_forall_prop.1 (by decide)
  have hdigit : ∀ {ds : List Char}, (∀ c ∈ ds, c.isDigit = true) →
      ∀ c ∈ ds, isBlank c = false ∧ plainNumeralChar c = c :=
    fun hds c hc => ⟨(ascii_digit (hds c hc)).2.1, (ascii_digit (hds c hc)).1⟩
  have hexponent : ∀ c ∈ exponentPart e, isBlank c = false ∧ plainNumeralChar c = c := by
    cases e with
    | none => exact fun c hc => absurd hc List.not_mem_nil
    | some e =>
        obtain ⟨ds, htext, -, hdigits, -⟩ := exponentText_eq e
        rw [exponentPart, htext]
        have hsign : ∀ c ∈ [if e < 0 then '-' else '+'],
            isBlank c = false ∧ plainNumeralChar c = c := by
          split <;> exact List.forall_mem_singleton.2 (hmarks _ (by decide))
        exact List.forall_mem_cons.2 ⟨hmarks _ (by decide),
          List.forall_mem_append.2 ⟨hsign, hdigit hdigits⟩⟩
  have hpointed : ∀ c ∈ pointed fraction, isBlank c = false ∧ plainNumeralChar c = c := by
    unfold pointed
    split
    · exact fun c hc => absurd hc List.not_mem_nil
    · exact List.forall_mem_cons.2 ⟨hmarks _ (by decide), hdigit h.fraction_digits⟩
  have hbody : ∀ c ∈ (takeSign cs).2, isBlank c = false ∧ plainNumeralChar c = c := by
    rw [hcs]
    exact List.forall_mem_append.2 ⟨hdigit h.whole_digits,
      List.forall_mem_append.2 ⟨hpointed, hexponent⟩⟩
  have hplain : ∀ c ∈ cs, isBlank c = false ∧ plainNumeralChar c = c := by
    rcases takeSign_cases cs with heq | ⟨s, hs, heq⟩
    · rwa [heq] at hbody
    · rw [heq]
      refine List.forall_mem_cons.2 ⟨hmarks s ?_, hbody⟩
      exact List.mem_append_left ['.', 'e'] hs
  exact ⟨trimChars_of_not_blank fun c hc => (hplain c hc).1,
    (List.map_congr_left fun c hc => (hbody c hc).2).trans (List.map_id _)⟩

end Numerals

/-! ## The plain form -/

/-- **Digits laid out around a point** denote the number they come from, up to zeros at their
end. -/
lemma splitAtPoint_decimal {ds : List Char} (position : Int) (hne : ds ≠ [])
    (hds : ∀ c ∈ ds, c.isDigit = true) :
    NumeralDigits (splitAtPoint ds position).1 (splitAtPoint ds position).2 ∧
      ∃ k : Nat, numeralDecimal (splitAtPoint ds position).1 (splitAtPoint ds position).2 none
        = ⟨digitsNumber ds * 10 ^ k, position - ds.length - k⟩ := by
  have hzeros : ∀ k, ∀ c ∈ List.replicate k '0', c.isDigit = true := by
    intro k c hc
    rw [List.eq_of_mem_replicate hc]
    rfl
  unfold splitAtPoint numeralDecimal
  by_cases hposition : position ≤ 0
  · simp only [if_pos hposition]
    refine ⟨⟨by simp, by simp, List.forall_mem_append.2 ⟨hzeros _, hds⟩⟩, 0, ?_⟩
    have hnumber : digitsNumber (['0'] ++ (List.replicate (-position).toNat '0' ++ ds))
        = digitsNumber ds := by
      rw [← List.append_assoc]
      exact digitsNumber_zeros_append ((-position).toNat + 1) ds
    rw [hnumber]
    simp
    omega
  · simp only [if_neg hposition]
    have hp : 0 < position.toNat := by omega
    have hcast : (position.toNat : Int) = position := by omega
    generalize position.toNat = p at hp hcast
    refine ⟨⟨?_, List.forall_mem_append.2 ⟨fun c hc => hds c (List.mem_of_mem_take hc), hzeros _⟩,
      fun c hc => hds c (List.mem_of_mem_drop hc)⟩, p - ds.length, ?_⟩
    · have htake : ds.take p ≠ [] := by simp [hne, hp.ne']
      simp [htake]
    · rcases Nat.le_total ds.length p with hshort | hlong
      · rw [List.take_of_length_le hshort, List.drop_of_length_le hshort, List.append_nil,
          digitsNumber_append_zeros]
        simp
        omega
      · rw [Nat.sub_eq_zero_of_le hlong, List.replicate_zero, List.append_nil,
          List.take_append_drop]
        simp
        omega

/-- A zero behind the point changes nothing. -/
lemma numeralDecimal_point_zero (whole : List Char) : numeralDecimal whole ['0'] none
    = ⟨(numeralDecimal whole [] none).digits * 10 ^ 1,
      (numeralDecimal whole [] none).exponent - 1⟩ := by
  have hzero : ['0'] = List.replicate 1 '0' := rfl
  rw [numeralDecimal, numeralDecimal, hzero, digitsNumber_append_zeros]
  simp

namespace Decimal

variable {d : Decimal}

/-- **The plain form of a decimal number**, on which that of a magnitude is laid out. -/
def plainText (d : Decimal) : List Char :=
  let ds := Nat.toDigits 10 d.digits
  let position : Int := d.exponent + ds.length
  let kept := withoutTrailingZeros ds
  if -3 ≤ position ∧ position ≤ 16 then
    let (whole, fraction) := splitAtPoint kept position
    whole ++ (if fraction.isEmpty then ['.', '0'] else pointed fraction)
  else kept.take 1 ++ pointed (kept.drop 1) ++ exponentText 'e' (position - 1)

/-- **The digits that are kept** are digits of the number.  Zeros behind them make no difference,
whether those of the number or others. -/
lemma kept_digits {ds kept : List Char} (h : d.digits ≠ 0) (hds : Nat.toDigits 10 d.digits = ds)
    (hkept : withoutTrailingZeros ds = kept) :
    kept ≠ [] ∧ (∀ c ∈ kept, c.isDigit = true) ∧ ∀ (D : Decimal) (k : Nat),
      D = ⟨digitsNumber kept * 10 ^ k, d.exponent + ds.length - kept.length - k⟩ →
        ∀ negative, Binary64.ofDecimal negative D = Binary64.ofDecimal negative d := by
  subst hds hkept
  obtain ⟨hnumber, -⟩ := digitsNumber_toDigits d.digits
  have hdigits : ∀ c ∈ Nat.toDigits 10 d.digits, c.isDigit = true :=
    fun c => Nat.isDigit_of_mem_toDigits (by decide) (by decide)
  generalize Nat.toDigits 10 d.digits = ds at hnumber hdigits ⊢
  obtain ⟨z, hz⟩ := exists_withoutTrailingZeros ds
  generalize withoutTrailingZeros ds = kept at hz ⊢
  have hvalue : d.digits = digitsNumber kept * 10 ^ z := by
    rw [← hnumber, hz, digitsNumber_append_zeros]
  have hlength : (ds.length : Int) = kept.length + z := by
    rw [hz, List.length_append, List.length_replicate, Nat.cast_add]
  refine ⟨?_, fun c hc => hdigits c (hz ▸ List.mem_append_left _ hc), ?_⟩
  · rintro rfl
    rw [hvalue] at h
    exact h (Nat.zero_mul _)
  · rintro D k rfl negative
    have hsame : d = ⟨digitsNumber kept * 10 ^ z, d.exponent⟩ := by rw [← hvalue]
    have hexponent : d.exponent + ds.length - kept.length - k + k = d.exponent + z := by omega
    rw [Binary64.ofDecimal_scale, hexponent, ← Binary64.ofDecimal_scale, ← hsame]

/-- **What the plain form denotes**: it is a numeral with a point or an exponent, which is read as
the same double as the decimal number. -/
lemma exists_plainText_eq (h : d.digits ≠ 0) :
    ∃ whole fraction e, d.plainText = numeralText whole fraction e ∧
      NumeralDigits whole fraction ∧
      (fraction ≠ [] ∨ e.isSome) ∧
      ∀ negative, Binary64.ofDecimal negative (numeralDecimal whole fraction e)
        = Binary64.ofDecimal negative d := by
  obtain ⟨hne, hkept, hread⟩ := kept_digits h rfl rfl
  unfold plainText
  simp only
  generalize (Nat.toDigits 10 d.digits) = ds at hne hkept hread ⊢
  generalize withoutTrailingZeros ds = kept at hne hkept hread ⊢
  generalize d.exponent + (ds.length : Int) = position at hread ⊢
  by_cases hrange : -3 ≤ position ∧ position ≤ 16
  · rw [if_pos hrange]
    obtain ⟨hparts, k, hdecimal⟩ := splitAtPoint_decimal position hne hkept
    generalize splitAtPoint kept position = parts at hparts hdecimal ⊢
    obtain ⟨whole, fraction⟩ := parts
    simp only at hparts hdecimal ⊢
    cases fraction with
    | nil =>
        refine ⟨whole, ['0'], none, by simp [numeralText, pointed, exponentPart],
          ⟨hparts.ne_nil, hparts.whole_digits, by simp⟩, Or.inl (by simp), hread _ (k + 1) ?_⟩
        rw [numeralDecimal_point_zero, hdecimal]
        simp only [Nat.pow_succ, Nat.pow_zero, Nat.one_mul, Nat.mul_assoc, Nat.cast_add,
          Nat.cast_one]
        congr 1
        omega
    | cons c fraction =>
        exact ⟨whole, c :: fraction, none, by simp [numeralText, exponentPart], hparts,
          Or.inl (by simp), hread _ k hdecimal⟩
  · rw [if_neg hrange]
    refine ⟨kept.take 1, kept.drop 1, some (position - 1), by simp [numeralText, exponentPart],
      ⟨by simp [hne], fun c hc => hkept c (List.mem_of_mem_take hc),
        fun c hc => hkept c (List.mem_of_mem_drop hc)⟩, Or.inr rfl, hread _ 0 ?_⟩
    have hlength : 0 < kept.length := List.length_pos_of_ne_nil hne
    rw [numeralDecimal, List.take_append_drop, List.length_drop]
    simp only [Option.getD_some, Nat.pow_zero, Nat.mul_one]
    congr 1
    omega

end Decimal

lemma Magnitude.text_number {m : Magnitude} (h : m.significand ≠ 0) :
    m.text .number = m.shortest.plainText := by
  obtain ⟨short, hshort⟩ : ∃ short, short = shortest := ⟨_, rfl⟩
  obtain ⟨shown, hshown⟩ : ∃ shown, shown = text := ⟨_, rfl⟩
  rw [← hshort, ← hshown]
  delta text at hshown
  rw [← hshort] at hshown
  simp only [hshown, if_neg h, PlainForm.number, Bool.and_true, Decimal.plainText]

/-- **The plain form of a double reads back.**  It is a numeral with a point or an exponent, for a
double other than zero. -/
theorem Binary64.readDouble?_text (negative : Bool) {m : Magnitude} (h : m.significand ≠ 0) :
    trimChars ((finite negative m).text .number).toList
      = ((finite negative m).text .number).toList ∧
      Value.isNumeral ((finite negative m).text .number).toList = true ∧
      Value.isWholeNumeral ((finite negative m).text .number).toList = false ∧
      readDouble? ((finite negative m).text .number) = some (finite negative m) := by
  have hreads := Magnitude.ofDecimal_shortest h
  have hdigits : m.shortest.digits ≠ 0 := by
    intro hzero
    rw [ofDecimal_eq, if_pos hzero] at hreads
    cases hreads
    exact h rfl
  obtain ⟨whole, fraction, e, htext, hparts, hmore, hread⟩ :=
    Decimal.exists_plainText_eq hdigits
  rw [text, Magnitude.text_number h, htext, String.toList_ofList]
  have hsign := takeSign_numeralText hparts negative e
  generalize (if negative then ['-'] else []) ++ numeralText whole fraction e = cs at hsign ⊢
  have hbody : (takeSign cs).2 = numeralText whole fraction e := by rw [hsign]
  obtain ⟨hnumeral, hpoint⟩ := isNumeral_numeralText hparts hbody
  obtain ⟨htrim, hplain⟩ := trimChars_numeralText hparts hbody
  refine ⟨htrim, hnumeral, hpoint hmore, ?_⟩
  rw [readDouble?_of_isNumeral hnumeral, hplain, hbody, readDecimal?_numeralText hparts, hsign,
    Option.map_eq_map, Option.map_some, hread, ofDecimal_negative hreads]

end Crosswalk
