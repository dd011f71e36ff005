import Crosswalk.Error
import Crosswalk.Formula.Evaluation
import Crosswalk.Formula.Grammar
import Crosswalk.Row

/-!
# Formulas over rows

A formula is written with its labels between dollar signs.  Each label is replaced by a name of its
own, the text that comes out is parsed, and the tree is checked and turned into a term.

* `Formula.bindingName` — the name that stands for the label with a number.
* `Formula.substitute` — **the text with its placeholders replaced**, and the labels in the order
  of their first appearance.
* `Formula.refusal` — why a formula is refused.
* `Formula.compile` — a formula from its source.
* `Formula.evaluate` — **its value on a row.**
-/

namespace Crosswalk

/-- **A formula**: its source, its labels and its term. -/
structure Formula where
  /-- The text that the formula was written as. -/
  source : String
  /-- The labels of its placeholders, in the order of their first appearance. -/
  labels : List String
  /-- What it computes; products and powers are bounded. -/
  term : Formula.Term

namespace Formula

/-- The name that stands for the label with a number. -/
def bindingName (i : Nat) : String := "_v" ++ toString i

/-- The names of labels, with the labels. -/
def bindings (labels : List String) : List (String × String) :=
  labels.mapIdx fun i label => (bindingName i, label)

/-- The number of a label, and the labels with this one among them. -/
def number (labels : List String) (label : String) : Nat × List String :=
  match labels.idxOf? label with
  | some i => (i, labels)
  | none => (labels.length, labels ++ [label])

/-- The characters up to the next dollar sign, if there are any and the sign comes. -/
def placeholder? (cs : List Char) : Option (List Char × List Char) :=
  match cs.takeWhile (· != '$'), cs.dropWhile (· != '$') with
  | c :: label, _ :: rest => some (c :: label, rest)
  | _, _ => none

/-- What a placeholder leaves behind is shorter than what it begins with. -/
theorem placeholder?_rest_lt {cs label rest : List Char}
    (h : placeholder? cs = some (label, rest)) : rest.length < cs.length := by
  have hlen : (cs.dropWhile (· != '$')).length ≤ cs.length :=
    (List.dropWhile_sublist _).length_le
  unfold placeholder? at h
  split at h
  · rename_i c l d r _ hd
    simp only [Option.some.injEq, Prod.mk.injEq] at h
    rw [hd, List.length_cons] at hlen
    rw [← h.2]
    omega
  · simp at h

/-- **A text with its placeholders replaced by names.**  A placeholder is the non-empty text between
two dollar signs; the blanks around its label do not count. -/
def substitute (labels : List String) (cs : List Char) : List Char × List String :=
  match cs with
  | [] => ([], labels)
  | '$' :: rest =>
    match h : placeholder? rest with
    | some (label, after) =>
      have := placeholder?_rest_lt h
      let (i, labels) := number labels (String.ofList (trimChars label))
      let (out, labels) := substitute labels after
      ((bindingName i).toList ++ out, labels)
    | none =>
      let (out, labels) := substitute labels rest
      ('$' :: out, labels)
  | c :: rest =>
    let (out, labels) := substitute labels rest
    (c :: out, labels)
termination_by cs.length

/-- Why a formula with refused places is refused.  A call of something that cannot be written fails
to be reported. -/
def refusal (source : String) (problems : List Problem) : Error :=
  if problems.any Problem.isUnwritable then .plain (.fault .wrongValue)
  else .parse (.refusedFormula source problems) none

/-- **A formula from its source.** -/
def compile (source : String) : Except Error Formula :=
  let (text, labels) := substitute [] (trimChars source.toList)
  if text.isEmpty then .error (.parse .emptyFormula none)
  else match Syntax.ofText? (String.ofList text) with
    | none => .error (.parse (.malformedFormula source) none)
    | some tree =>
      match tree.problems (bindings labels), tree.term? (bindings labels) with
      | [], some term => .ok ⟨source, labels, term.guarded⟩
      | problems, _ => .error (refusal source problems)

/-- A row lacks a label, or the text of one is a numeral that cannot be read. -/
def bind (source : String) (row : Row) : List String → Except Error (List (String × Value))
  | [] => .ok []
  | label :: labels =>
    match row.get? label with
    | none => .error (.evaluation (.unknownLabel label source) none)
    | some raw =>
      match Value.ofField raw with
      | .error f => .error (.plain (.fault f))
      | .ok v => do .ok ((label, v) :: (← bind source row labels))

/-- **The value of a formula on a row.** -/
def evaluate (f : Formula) (row : Row) : Except Error Value := do
  let values ← bind f.source row f.labels
  match f.term.evaluate fun label => (values.lookup label).getD .absent with
  | .ok v => .ok v
  | .error fault => .error (.evaluation (.failed f.source fault) none)

end Formula

end Crosswalk
