import Crosswalk.Pipeline
import Crosswalk.Text.Split

/-!
# The fields of a query

The fields of a node of a query are texts.  A blank field is the same as none.

* `childrenOf` — labels between commas.
* `outputOf` — whether a node is reported.
* `thetaOf` — a remark.
* `Step.ofSegment` — a step from its kind and what follows a colon.
* `stepsOf` — **the steps between semicolons.**
-/

namespace Crosswalk

/-- A field that is given and not blank. -/
def present (raw : Option String) : Option String := raw.filter fun s => !isBlankText s

/-- **Labels between commas**, without the blanks around them. -/
def childrenOf (raw : Option String) : List String :=
  match present raw with
  | none => []
  | some s => (splitAll ',' s.toList).map fun part => String.ofList (trimChars part)

/-- **Whether a node is reported**: `yes` or `true`, and nothing else than `no`, `false` or
nothing. -/
def outputOf (raw : Option String) : Except Error Bool :=
  match lowerText (trim (raw.getD "")) with
  | "yes" | "true" => .ok true
  | "no" | "false" | "" => .ok false
  | _ => .error (.parse (.unknownOutput raw) none)

/-- A remark, without the blanks around it. -/
def thetaOf (raw : Option String) : Option String := (present raw).map trim

/-- **A step from its kind and its argument.** -/
def Step.ofKind (kind argument : String) : Except Error Step :=
  let formula : Except Error Unit := do
    if argument.isEmpty then .error (.parse (.missingFormula kind) none)
    else do
      let _ ← Formula.compile argument
      .ok ()
  if kind = "aggregate" then
    match Aggregation.ofToken? argument with
    | some a => .ok (.aggregate a)
    | none => .error (.parse (.unknownAggregation argument) none)
  else if kind = "filter" then do formula; .ok (.filter argument)
  else if kind = "map" then do formula; .ok (.map argument)
  else .error (.parse (.unknownStep kind) none)

/-- A step from its kind, a colon and its argument. -/
def Step.ofSegment (segment : List Char) : Except Error Step :=
  match splitFirst ':' segment with
  | (_, none) => .error (.parse (.stepWithoutColon (String.ofList (trimChars segment))) none)
  | (kind, some argument) =>
    Step.ofKind (String.ofList (trimChars kind)) (String.ofList (trimChars argument))

/-- **The steps between semicolons**; blank segments are no steps. -/
def stepsOf (raw : Option String) : Except Error (List Step) :=
  match raw with
  | none => .ok []
  | some s => ((splitAll ';' s.toList).filter fun seg => !seg.all isBlank).mapM Step.ofSegment

end Crosswalk
