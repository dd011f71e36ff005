import Crosswalk.Proofs.Formula.Pieces
import Crosswalk.Proofs.Formula.ReadBack
import Crosswalk.Proofs.Pipeline

/-!
# Fields that are read and written again

A step that maps a label to its own value reads the text of a field and writes what it has read.
The text may become another one: blanks, signs, leading zeros, exponents and digits of other
scripts are gone from a numeral, and a number too large for a double becomes a word.  Doing it once
is enough, and a finite number stays the number that it was.

* `Value.normalize` — **the text that a field becomes.**
* `Value.exists_normalize_iff` — which fields become anything.
* `Formula.placeholder`, `Formula.compile_placeholder` — the formula that is nothing but a label.
* `Step.apply_placeholder` — what the step makes of a row.
* **`Value.normalize_again`** — normal texts stay as they are, and numbers keep their exact
  values.
* `applySteps_placeholder_again` — a second step of the kind changes nothing.
-/

namespace Crosswalk

namespace Value

variable {raw text : String} {v : Value}

/-- **The text that a field becomes** when it is read and written again. -/
def normalize (raw : String) : Outcome String := ofField raw >>= format

/-- **What is read can be written.** -/
lemma exists_format_of_ofField (h : ofField raw = .ok v) : ∃ text, v.format = .ok text := by
  cases hformat : v.format with
  | ok text => exact ⟨text, rfl⟩
  | error fault =>
      obtain ⟨-, i, rfl, hlong⟩ := format_eq_error.1 hformat
      exact absurd (natAbs_lt_of_ofField h) (Nat.not_lt.2 hlong)

/-- **Every field becomes a text** but a whole numeral with too many digits. -/
lemma exists_normalize_iff : (∃ text, normalize raw = .ok text) ↔ ¬ IsOverlong raw := by
  constructor
  · rintro ⟨text, h⟩ hlong
    obtain ⟨v, hv, -⟩ := bind_eq_ok.1 h
    rw [ofField_eq_error.2 ⟨rfl, hlong⟩] at hv
    cases hv
  · intro hshort
    cases hread : ofField raw with
    | error fault => exact absurd (ofField_eq_error.1 hread).2 hshort
    | ok v =>
        obtain ⟨text, htext⟩ := exists_format_of_ofField hread
        exact ⟨text, bind_eq_ok.2 ⟨v, hread, htext⟩⟩

/-- What a field is read as and what comes of it after writing are one number, if that is finite. -/
lemma exists_read_normalize (hread : ofField raw = .ok v) (hfinite : v.isFinite = true)
    (h : normalize raw = .ok text) :
    LooksNumeric text = true ∧ ∃ w, ofField text = .ok w ∧ w.exact = v.exact := by
  rw [normalize, hread, ok_bind] at h
  obtain ⟨w, hw, hdefined, hexact⟩ := ofField_format hfinite h
  refine ⟨?_, w, hw, hexact⟩
  rcases exists_of_ofField hw with ⟨hlooks, -⟩ | ⟨-, rfl⟩
  · exact hlooks
  · cases hdefined.1

/-- **A normal text stays as it is**, whether a finite number, a word for another number or no
number. -/
lemma normalize_normalize (h : normalize raw = .ok text) : normalize text = .ok text := by
  obtain ⟨v, hread, hformat⟩ := bind_eq_ok.1 h
  rcases exists_of_ofField hread with ⟨-, hdefined⟩ | ⟨-, rfl⟩
  · cases hfinite : v.isFinite with
    | true =>
        obtain ⟨w, hw, -, -, hwritten⟩ := exists_read_back hfinite hformat
        exact bind_eq_ok.2 ⟨w, hw, hwritten⟩
    | false => exact bind_eq_ok.2 ⟨_, ofField_format_not_finite hdefined.1 hfinite hformat, rfl⟩
  · cases hformat
    exact h

end Value

/-! ## The step that maps a label to its value -/

namespace Formula

/-- **The source of the value under a label.** -/
def placeholder (label : String) : String := "$" ++ label ++ "$"

/-- Whether a tree is a name. -/
def isNameOf (name : String) : Syntax → Bool
  | .name id => id == name
  | _ => false

/-- The name of the first label is a formula of its own. -/
lemma ofText?_firstName : Syntax.ofText? "_v0" = some (.name "_v0") := by
  have hname : (Syntax.ofText? "_v0").any (isNameOf "_v0") = true := by decide +kernel
  cases htree : Syntax.ofText? "_v0" with
  | none =>
      rw [htree] at hname
      cases hname
  | some tree =>
      rw [htree] at hname
      cases tree with
      | name id => rw [eq_of_beq hname]
      | _ => cases hname

section Placeholder

variable {label : String} (hne : label ≠ "") (hdollar : '$' ∉ label.toList)
include hne hdollar

lemma substitute_placeholder :
    substitute [] (trimChars (placeholder label).toList) = ("_v0".toList, [trim label]) := by
  have htrim : trimChars (placeholder label).toList = '$' :: (label.toList ++ '$' :: []) := by
    have hblank : isBlank '$' = false := rfl
    simp [placeholder, trimChars, hblank]
  have hplace : placeholder? (label.toList ++ '$' :: []) = some (label.toList, []) :=
    placeholder?_eq_some_iff.2 ⟨rfl, by simpa using hne, hdollar⟩
  rw [htrim, substitute_eq, pieces_placeholder hplace, pieces_nil]
  simp only [gather, number, expand_hole, expand_nil, List.idxOf?_nil, List.nil_append,
    List.append_nil, List.idxOf_cons_self]
  rfl

/-- **A placeholder alone** is the formula that reads its label, without the blanks around it. -/
lemma compile_placeholder :
    compile (placeholder label)
      = .ok ⟨placeholder label, [trim label], .field (trim label)⟩ := by
  rw [compile, substitute_placeholder hne hdollar]
  simp only [String.ofList_toList, ofText?_firstName]
  rfl

end Placeholder

lemma evaluate_field {source label raw : String} {row : Row} (h : row.get? label = some raw) :
    evaluate ⟨source, [label], .field label⟩ row
      = Aggregation.uncaught (Value.ofField raw) := by
  simp only [evaluate, bind, h]
  cases Value.ofField raw with
  | error fault => rfl
  | ok v => simp [Term.evaluate, Aggregation.uncaught]

end Formula

section Step

variable {label focus source raw : String} {group : Option String} {row out : Row}

lemma Step.computeRow_field (h : row.get? label = some raw) :
    Step.computeRow ⟨source, [label], .field label⟩ focus row
      = (Aggregation.uncaught (Value.normalize raw)).map (row.set focus) := by
  rw [Step.computeRow, Formula.evaluate_field h, Value.normalize]
  cases Value.ofField raw with
  | error fault => rfl
  | ok v => cases hformat : v.format <;> simp [Aggregation.uncaught, hformat, Except.map]

/-- **A row that the step has left** has the normal text of the label under the focus. -/
lemma Step.computeRow_field_eq_ok :
    Step.computeRow ⟨source, [label], .field label⟩ focus row = .ok out ↔
      ∃ raw text, row.get? label = some raw ∧ Value.normalize raw = .ok text ∧
        out = row.set focus text := by
  cases hget : row.get? label with
  | none => simp [Step.computeRow, Formula.evaluate, Formula.bind, hget]
  | some raw =>
      rw [Step.computeRow_field hget]
      cases hnormal : Value.normalize raw <;>
        simp [hnormal, Aggregation.uncaught, Except.map, eq_comm]

/-- **The step finds nothing to change behind itself**, under whatever label it writes. -/
lemma Step.computeRow_field_again
    (h : Step.computeRow ⟨source, [label], .field label⟩ focus row = .ok out) :
    Step.computeRow ⟨source, [label], .field label⟩ focus out = .ok out := by
  obtain ⟨raw, text, hget, htext, rfl⟩ := Step.computeRow_field_eq_ok.1 h
  have hsame : (row.set focus text).set focus text = row.set focus text :=
    Row.set_of_get? (Row.get?_set_self row focus text)
  rw [Step.computeRow_field_eq_ok]
  by_cases hfocus : label = focus
  · subst hfocus
    exact ⟨text, text, Row.get?_set_self row label text, Value.normalize_normalize htext,
      hsame.symm⟩
  · exact ⟨raw, text, (Row.get?_set_ne hfocus).trans hget, htext, hsame.symm⟩

/-- What the step makes of a row alone. -/
lemma Step.apply_placeholder {text : String} (hne : label ≠ "") (hdollar : '$' ∉ label.toList)
    (hget : row.get? (trim label) = some raw) (htext : Value.normalize raw = .ok text) :
    (Step.map (Formula.placeholder label)).apply focus group [row] = .ok [row.set focus text] := by
  have hrow :
      Step.computeRow ⟨Formula.placeholder label, [trim label], .field (trim label)⟩ focus row
      = .ok (row.set focus text) := Step.computeRow_field_eq_ok.2 ⟨raw, text, hget, htext, rfl⟩
  rw [Step.apply, Formula.compile_placeholder hne hdollar, ok_bind, mapM_eq_ok]
  exact .cons hrow .nil

/-- **Reading and writing a field a second time changes nothing.**  A field becomes a text unless
it is a whole numeral with too many digits.  The text that it becomes, which is what a step that
maps a label to its own value leaves, becomes itself; and if the field is read as a finite number,
the text looks like a number too, and is one with the same exact value. -/
theorem Value.normalize_again (raw : String) :
    ((∃ text, normalize raw = .ok text) ↔ ¬ IsOverlong raw) ∧
      ∀ text, normalize raw = .ok text →
        normalize text = .ok text ∧
        (∀ v, ofField raw = .ok v → v.isFinite = true →
          LooksNumeric text = true ∧ ∃ w, ofField text = .ok w ∧ w.exact = v.exact) ∧
        ∀ (label focus : String) (group : Option String) (row : Row), label ≠ "" →
          '$' ∉ label.toList →
          row.get? (trim label) = some raw →
          (Step.map (Formula.placeholder label)).apply focus group [row]
            = .ok [row.set focus text] := by
  refine ⟨exists_normalize_iff, fun text h => ⟨normalize_normalize h, ?_, ?_⟩⟩
  · intro v hread hfinite
    exact exists_read_normalize hread hfinite h
  · intro label focus group row hne hdollar hget
    exact Step.apply_placeholder hne hdollar hget h

example : Value.normalize " +007.50e1 " = .ok "75" := by decide +kernel

example : Value.normalize "-0.00001" = .ok "-1e-05" := by decide +kernel

/-- **A second step of the kind changes nothing**, whatever the rows are. -/
theorem applySteps_placeholder_again (hne : label ≠ "") (hdollar : '$' ∉ label.toList)
    (rows : List Row) :
    applySteps focus group [.map (Formula.placeholder label), .map (Formula.placeholder label)] rows
      = applySteps focus group [.map (Formula.placeholder label)] rows := by
  simp only [applySteps, Step.apply, Formula.compile_placeholder hne hdollar, ok_bind]
  cases hfirst : rows.mapM (Step.computeRow _ focus) with
  | error e => rfl
  | ok outs =>
      have hagain : outs.mapM (Step.computeRow ⟨Formula.placeholder label, [trim label],
          .field (trim label)⟩ focus) = .ok outs := by
        rw [mapM_eq_ok, List.forall₂_same]
        intro out hout
        obtain ⟨row, -, hrow⟩ := exists_of_mapM_ok hfirst out hout
        exact Step.computeRow_field_again hrow
      rw [ok_bind, ok_bind, hagain, ok_bind]

end Step

end Crosswalk
