import Crosswalk.Given
import Crosswalk.Query.Document

/-!
# Given descriptions of nodes

A node may also be described by an object instead of by an element of a document.

* `Step.ofGiven` — a step from an object that says of which kind it is.
* `NodeSpec.ofGiven` — **the description of a node from an object**, or all that is wrong with it.
-/

namespace Crosswalk

/-- The kinds of steps. -/
def Step.kinds : List String := ["aggregate", "filter", "map"]

/-- A step of a kind from the members of its object. -/
def Step.ofMembers (place : String) (kind : String) (given : String → Option Json) :
    Except FieldProblem Step :=
  let formula : Except FieldProblem String := do
    let name := place ++ "." ++ kind ++ ".expression"
    Given.text name (← Given.required name (given "expression"))
  match kind with
  | "filter" => formula.map .filter
  | "map" => formula.map .map
  | _ =>
    match given "aggregation" with
    | none => .ok (.aggregate .any)
    | some j => do
      let names := Aggregation.all.map Aggregation.name
      let name ← Given.choice (place ++ ".aggregate.aggregation") names j
      .ok (.aggregate ((Aggregation.all.find? fun a => a.name = name).getD .any))

/-- **A step from an object** at a place. -/
def Step.ofGiven (place : String) (j : Json) : Except FieldProblem Step :=
  match j with
  | .object members =>
    match members.lookup "kind" with
    | none => .error (.missingTag place "kind")
    | some (.text kind) =>
      if kind ∈ kinds then Step.ofMembers place kind fun name => members.lookup name
      else .error (.unknownTag place "kind" kind kinds)
    | some _ => .error (.missingTag place "kind")
  | _ => .error (.notObject place)

/-- A text, or nothing. -/
def Given.textOrNull (field : String) : Json → Except FieldProblem (Option String)
  | .null => .ok none
  | j => (Given.text field j).map some

/-- **The description of a node from the members of an object**, or all that is wrong with it. -/
def NodeSpec.ofGiven (given : String → Option Json) : Except (List FieldProblem) NodeSpec :=
  let name := Given.field given "name" Given.text
  let label := Given.field given "label" Given.text
  let children := Given.elements "children" Given.text ((given "children").getD (.list []))
  let steps := Given.elements "transformations" Step.ofGiven
    ((given "transformations").getD (.list []))
  let theta := Given.fieldOr given "theta" Given.textOrNull none
  let output := Given.fieldOr given "output" Given.truth false
  let problems := Checked.problems name ++ Checked.problems label ++ problemsOf children ++
    problemsOf steps ++ Checked.problems theta ++ Checked.problems output
  match children, steps with
  | .ok children, .ok steps =>
    Given.collect problems
      (do .ok ⟨⟨← name, ← label, steps, ← theta, ← output⟩, children⟩)
  | _, _ => .error problems

end Crosswalk
