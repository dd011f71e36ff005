import Crosswalk.Proofs.Formula.WholeNumbers
import Crosswalk.Source.Column

/-!
# What a position of a column means

A position is the number of a column if it is written in decimal digits, and else the name of a
heading.  That a position is a number is told by marks that look like digits, and some of these are
no decimal digits, as superscripts; such a position is taken for a number, and then it cannot be
read as one.  The same happens to a number with too many digits.  Both get out as a fault that does
not say which source it comes from.

* `IsMisread` — **the positions that are taken for a number and cannot be read.**
* `PositionMeans` — what a position means, case by case.
* **`columnOf_eq_iff`** — a position means nothing else, and the misread ones are all that fail
  otherwise than with a problem of the source. -/

namespace Crosswalk

/-- A text of marks that look like digits. -/
def LooksLikeNumber (token : String) : Prop :=
  token ≠ "" ∧ ∀ c ∈ token.toList, isDigitLike c = true

/-- **A text that is taken for a number and cannot be read**: not all of its marks are decimal
digits, or there are too many of them. -/
def IsMisread (token : String) : Prop :=
  LooksLikeNumber token ∧
    ((∃ c ∈ token.toList, isDecimal c = false) ∨ maxDigits < token.toList.length)

/-- **What the position of a column means.** -/
inductive PositionMeans (source token : String) (headings : Option (List String)) :
    Except Error Nat → Prop where
  /-- Decimal digits of any script are the number of a column. -/
  | number (hne : token ≠ "") (hdigits : ∀ c ∈ token.toList, isDecimal c = true)
      (hlength : token.toList.length ≤ maxDigits) :
      PositionMeans source token headings (.ok (digitsNumber token.toList))
  /-- What is taken for a number and cannot be read is a fault of no source. -/
  | misread (h : IsMisread token) :
      PositionMeans source token headings (.error (.plain (.fault .wrongValue)))
  /-- Nothing is no position. -/
  | empty (h : token = "") :
      PositionMeans source token headings (.error (.source .emptyPosition (some source)))
  /-- A name needs headings. -/
  | unnamed (hne : token ≠ "") (hname : ¬ LooksLikeNumber token) (hnone : headings = none) :
      PositionMeans source token headings
        (.error (.source (.namedWithoutHeadings token) (some source)))
  /-- A name is the first heading that is the same but for the blanks around it. -/
  | heading {front back : List String} {heading : String} (hne : token ≠ "")
      (hname : ¬ LooksLikeNumber token) (hheadings : headings = some (front ++ heading :: back))
      (hfront : ∀ other ∈ front, trim other ≠ token) (hsame : trim heading = token) :
      PositionMeans source token headings (.ok front.length)
  /-- A name that is no heading. -/
  | unknown {names : List String} (hne : token ≠ "") (hname : ¬ LooksLikeNumber token)
      (hheadings : headings = some names) (hnames : ∀ other ∈ names, trim other ≠ token) :
      PositionMeans source token headings
        (.error (.source (.unknownColumn token (names.map trim)) (some source)))

/-! ## Marks that are no digits -/

section Marks

variable {c : Char} {cs : List Char} {token : String}

/-- A mark that looks like a digit and is none counts as a question mark in a numeral. -/
lemma plainNumeralChar_of_mark (hlike : isDigitLike c = true) (hnot : isDecimal c = false) :
    plainNumeralChar c = '?' := by
  have hranges : ∀ r ∈ digitMarkRanges.toList, 0x7f ≤ r.1 ∧
      ((r.2 < 0x1680 ∧ 0xa0 < r.1) ∨ (0x1680 < r.1 ∧ r.2 < 0x2000) ∨
        (0x205f < r.1 ∧ r.2 < 0x3000) ∨
        0x3000 < r.1) := by decide
  rw [isDigitLike, hnot, Bool.false_or] at hlike
  obtain ⟨r, hr, hbounds⟩ := Array.any_eq_true'.1 hlike
  simp only [Bool.and_eq_true, decide_eq_true_eq] at hbounds
  have hzone := hranges r (Array.mem_toList_iff.2 hr)
  have habove : ¬ c.toNat < 0x7f := by omega
  have hblank : isBlank c = false := by
    simp only [isBlank, Bool.or_eq_false_iff, Bool.and_eq_false_iff, decide_eq_false_iff_not,
      beq_eq_false_iff_ne]
    omega
  have hvalue : decimalValue? c = none := by
    simpa [isDecimal] using hnot
  simp only [plainNumeralChar, if_neg habove, hblank, hvalue, Bool.false_eq_true, if_false]

/-- A mark that is no digit of any base stays in the numeral, and keeps it from being read. -/
lemma basedDigits?_of_mark {base : Nat} (h : '?' ∈ cs) : basedDigits? base cs = none := by
  fun_induction basedDigits? base cs with
  | case1 => cases h
  | case2 => rfl
  | case3 c rest _ ih => exact ih (by simpa using h)
  | case4 => rfl
  | case5 c rest _ _ ih =>
      by_cases hc : c = '?'
      · subst hc
        rfl
      · have hrest : '?' ∈ rest := by simpa [Ne.symm hc] using h
        cases hd : digitValue? c <;> simp [ih hrest]

lemma readInteger?_of_mark (hlike : isDigitLike c = true) (hnot : isDecimal c = false)
    (hc : c ∈ token.toList) : readInteger? 10 token = none := by
  have hkeep : ∀ {l : List Char}, '?' ∈ l → '?' ∈ l.dropWhile isAsciiSpace := by
    intro l hl
    rw [← List.takeWhile_append_dropWhile (p := isAsciiSpace) (l := l)] at hl
    rcases List.mem_append.1 hl with hspace | hrest
    · cases List.all_eq_true.1 List.all_takeWhile _ hspace
    · exact hrest
  have hbody : '?' ∈ numeralBody token := by
    have hplain : '?' ∈ token.toList.map plainNumeralChar :=
      List.mem_map.2 ⟨c, hc, plainNumeralChar_of_mark hlike hnot⟩
    exact List.mem_reverse.2 (hkeep (List.mem_reverse.2 (hkeep hplain)))
  have hsigned : '?' ∈ (takeSign (numeralBody token)).2 := by
    rcases takeSign_cases (numeralBody token) with heq | ⟨s, hs, heq⟩
    · rwa [heq]
    · rw [heq] at hbody
      rcases List.mem_cons.1 hbody with rfl | hrest
      · cases hs with
        | tail _ hs => cases hs with
          | tail _ hs => cases hs
      · exact hrest
  simp [readInteger?, prefixBase?_ne_ten, readDigits?, basedDigits?_of_mark hsigned]

/-- Decimal digits are read as their number, unless there are too many of them. -/
lemma readInteger?_of_digits (hne : token ≠ "")
    (hdigits : ∀ c ∈ token.toList, isDecimal c = true) :
    readInteger? 10 token
      = if token.toList.length ≤ maxDigits then some (digitsNumber token.toList : Int)
        else none := by
  have hcs : token.toList ≠ [] := fun hnil => hne (String.toList_eq_nil_iff.1 hnil)
  have hsign := takeSign_of_digits hdigits
  have hnumeral : Value.isNumeral token.toList = true ∧
      Value.isWholeNumeral token.toList = true :=
    isNumeral_of_digits (by rwa [hsign]) (by rwa [hsign])
  have hread := readInteger?_of_whole hnumeral.1 hnumeral.2
  rwa [String.ofList_toList, hsign, wholeNumber, hsign] at hread

lemma isDigitLike_of_isDecimal (h : isDecimal c = true) : isDigitLike c = true := by
  rw [isDigitLike, h, Bool.true_or]

end Marks

/-! ## Headings -/

/-- What is looked for is found where it stands first. -/
lemma findIdx?_append_cons {α : Type} {p : α → Bool} {front back : List α} {x : α}
    (hfront : ∀ y ∈ front, p y = false) (hx : p x = true) :
    (front ++ x :: back).findIdx? p = some front.length := by
  induction front with
  | nil => simp [List.findIdx?_cons, hx]
  | cons y front ih =>
      obtain ⟨hy, hfront⟩ := List.forall_mem_cons.1 hfront
      rw [List.cons_append, List.findIdx?_cons, hy, ih hfront]
      rfl

section Position

variable {source position token : String} {headings : Option (List String)}
  {r r' : Except Error Nat}

lemma looksLikeNumber_iff :
    (!token.isEmpty && token.toList.all isDigitLike) = true ↔ LooksLikeNumber token := by
  simp [LooksLikeNumber]

/-- Every position means something. -/
lemma exists_positionMeans (source token : String) (headings : Option (List String)) :
    ∃ r, PositionMeans source token headings r := by
  by_cases hne : token = ""
  · exact ⟨_, .empty hne⟩
  by_cases hlike : LooksLikeNumber token
  · by_cases hmisread : IsMisread token
    · exact ⟨_, .misread hmisread⟩
    · obtain ⟨hdigits, hlength⟩ := not_or.1 fun h => hmisread ⟨hlike, h⟩
      exact ⟨_, .number hne (by simpa using hdigits) (Nat.not_lt.1 hlength)⟩
  · cases headings with
    | none => exact ⟨_, .unnamed hne hlike rfl⟩
    | some names =>
        cases hfound : names.find? fun heading => decide (trim heading = token) with
        | none => exact ⟨_, .unknown hne hlike rfl (by simpa using hfound)⟩
        | some heading =>
            obtain ⟨hsame, front, back, rfl, hfront⟩ := List.find?_eq_some_iff_append.1 hfound
            exact ⟨_, .heading hne hlike rfl (by simpa using hfront) (by simpa using hsame)⟩

/-- **A position comes to what it means.** -/
lemma columnOf_of_positionMeans (h : PositionMeans source (trim position) headings r) :
    columnOf source position headings = r := by
  unfold columnOf
  generalize trim position = token at h ⊢
  simp only
  cases h with
  | number hne hdigits hlength =>
      have hlike : LooksLikeNumber token :=
        ⟨hne, fun c hc => isDigitLike_of_isDecimal (hdigits c hc)⟩
      rw [if_pos (looksLikeNumber_iff.2 hlike), readInteger?_of_digits hne hdigits, if_pos hlength]
      rfl
  | misread hmisread =>
      obtain ⟨hlike, hcause⟩ := hmisread
      have hread : readInteger? 10 token = none := by
        by_cases hdigits : ∀ c ∈ token.toList, isDecimal c = true
        · rw [readInteger?_of_digits hlike.1 hdigits, if_neg]
          rcases hcause with ⟨c, hc, hnot⟩ | hlength
          · rw [hdigits c hc] at hnot
            cases hnot
          · exact Nat.not_le.2 hlength
        · obtain ⟨c, hc, hnot⟩ : ∃ c ∈ token.toList, isDecimal c = false := by
            simpa using hdigits
          exact readInteger?_of_mark (hlike.2 c hc) hnot hc
      rw [if_pos (looksLikeNumber_iff.2 hlike), hread]
  | empty hempty =>
      subst hempty
      rfl
  | unnamed hne hname hnone =>
      subst hnone
      rw [if_neg (looksLikeNumber_iff.not.2 hname), if_neg (by simpa using hne)]
  | @heading front back heading hne hname hheadings hfront hsame =>
      subst hheadings
      have hfound : (front ++ heading :: back).findIdx? (fun h => decide (trim h = token))
          = some front.length :=
        findIdx?_append_cons (fun other hother => decide_eq_false (hfront other hother))
          (decide_eq_true hsame)
      rw [if_neg (looksLikeNumber_iff.not.2 hname), if_neg (by simpa using hne)]
      simp only [List.findIdx?_map, Function.comp_def, hfound]
  | @unknown names hne hname hheadings hnames =>
      subst hheadings
      have hnone : (names.map trim).findIdx? (fun h => decide (h = token)) = none := by
        simpa [List.findIdx?_eq_none_iff] using hnames
      rw [if_neg (looksLikeNumber_iff.not.2 hname), if_neg (by simpa using hne)]
      simp only [hnone]

/-- **A position comes to what it means and to nothing else**: the number that decimal digits
denote, the first heading of a name, or a problem of the source; only what is taken for a number
and cannot be read fails in another way. -/
theorem columnOf_eq_iff (source position : String) (headings : Option (List String)) :
    (∀ r, columnOf source position headings = r ↔
      PositionMeans source (trim position) headings r) ∧
      (((∃ i, columnOf source position headings = .ok i) ∨
        ∃ problem, columnOf source position headings = .error (.source problem (some source))) ↔
          ¬ IsMisread (trim position)) := by
  have hiff : ∀ r, columnOf source position headings = r ↔
      PositionMeans source (trim position) headings r := by
    intro r
    refine ⟨?_, columnOf_of_positionMeans⟩
    rintro rfl
    obtain ⟨r, hr⟩ := exists_positionMeans source (trim position) headings
    rwa [columnOf_of_positionMeans hr]
  refine ⟨hiff, ?_⟩
  constructor
  · intro hcomes hmisread
    have hfault := columnOf_of_positionMeans (.misread hmisread : PositionMeans source _ headings _)
    rcases hcomes with ⟨i, hi⟩ | ⟨problem, hproblem⟩
    · rw [hfault] at hi
      cases hi
    · rw [hfault] at hproblem
      cases hproblem
  · intro hread
    have hmeans := (hiff _).1 rfl
    generalize columnOf source position headings = r at hmeans ⊢
    cases hmeans with
    | number | heading => exact Or.inl ⟨_, rfl⟩
    | empty | unnamed | unknown => exact Or.inr ⟨_, rfl⟩
    | misread h => exact absurd h hread

end Position

/-- **A position that is no number, and no problem of the source either.** -/
theorem columnOf_superscript : columnOf "ds" "²" none = .error (.plain (.fault .wrongValue)) ∧
    ∃ c ∈ (trim "²").toList, isDecimal c = false := by
  have hmark : ∃ c ∈ (trim "²").toList, isDecimal c = false :=
    ⟨'²', by decide +kernel, by decide +kernel⟩
  have hlike : LooksLikeNumber (trim "²") := looksLikeNumber_iff.1 (by decide +kernel)
  exact ⟨columnOf_of_positionMeans (.misread ⟨hlike, Or.inl hmark⟩), hmark⟩

end Crosswalk
