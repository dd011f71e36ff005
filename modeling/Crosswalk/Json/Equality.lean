import Crosswalk.Formula.Arithmetic
import Crosswalk.Json.Value

/-!
# JSON values as keys

Values can be compared and used as keys.  A number is equal to every number of the same value, and
the truth values count as one and zero.

* `Json.isTrue` — the truth of a value.
* `Json.equals` — **equality of values.**
* `Json.sortByKey?` — entries in the order of their keys, if all keys are of one kind.
-/

namespace Crosswalk.Json

/-- A number or truth value as a value to calculate with. -/
def number? : Json → Option Value
  | bool b => some (.bool b)
  | int i => some (.int i)
  | float x => some (.float x)
  | _ => none

/-- **The truth of a value**: nothing, zero and everything empty are false. -/
def isTrue : Json → Bool
  | null => false
  | bool b => b
  | int i => i != 0
  | float x => !x.isZero
  | text s => !s.isEmpty
  | list items => !items.isEmpty
  | object members => !members.isEmpty

/-- Equality of values that are neither lists nor objects. -/
def scalarsEqual (a b : Json) : Bool :=
  match a, b with
  | null, null => true
  | text s, text t => s == t
  | a, b =>
    match a.number?, b.number? with
    | some x, some y => Value.equal x y
    | _, _ => false

mutual

/-- **Equality of values.** -/
def equals : Json → Json → Bool
  | list xs, b =>
    match b with
    | list ys => itemsEqual xs ys
    | _ => false
  | object ms, b =>
    match b with
    | object ns => ms.length == ns.length && membersIn ns ms
    | _ => false
  | null, b => scalarsEqual null b
  | bool x, b => scalarsEqual (bool x) b
  | int x, b => scalarsEqual (int x) b
  | float x, b => scalarsEqual (float x) b
  | text s, b => scalarsEqual (text s) b

/-- Equality of the elements of two lists. -/
def itemsEqual : List Json → List Json → Bool
  | [], ys => ys.isEmpty
  | x :: xs, ys =>
    match ys with
    | y :: ys => equals x y && itemsEqual xs ys
    | [] => false

/-- Whether an object has all of some members. -/
def membersIn (ns : List (String × Json)) : List (String × Json) → Bool
  | [] => true
  | (name, v) :: ms =>
    (match ns.lookup name with
      | some w => equals v w
      | none => false) && membersIn ns ms

end

/-- Whether a number does not exceed another. -/
def numberAtMost (a b : Json) : Bool :=
  match a.number?, b.number? with
  | some x, some y => Value.compareReals? x y != some .gt
  | _, _ => false

/-- Whether a text does not come behind another. -/
def textAtMost (a b : Json) : Bool :=
  match a, b with
  | text s, text t => !(t < s)
  | _, _ => false

/-- Whether a value is a text. -/
def isText : Json → Bool
  | text _ => true
  | _ => false

/-- **Entries in the order of their keys.**  Numbers cannot be put in order with texts. -/
def sortByKey? {α : Type} (entries : List (Json × α)) : Option (List (Json × α)) :=
  if entries.length ≤ 1 then some entries
  else if entries.all fun e => e.1.number?.isSome then
    some (entries.mergeSort fun a b => numberAtMost a.1 b.1)
  else if entries.all fun e => e.1.isText then
    some (entries.mergeSort fun a b => textAtMost a.1 b.1)
  else none

end Crosswalk.Json
