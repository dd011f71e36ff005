/-!
# Texts in parts and in order

* `splitAll` — the parts of a text between a separator; there is always at least one.
* `splitFirst` — what stands in front of the first separator and behind it.
* `sortTexts` — texts in order.
-/

namespace Crosswalk

/-- **The parts between separators.** -/
def splitAll (sep : Char) : List Char → List (List Char)
  | [] => [[]]
  | c :: cs =>
    if c = sep then [] :: splitAll sep cs
    else match splitAll sep cs with
      | part :: parts => (c :: part) :: parts
      | [] => [[c]]

/-- **What stands in front of the first separator and behind it**; nothing stands behind it if there
is none. -/
def splitFirst (sep : Char) (cs : List Char) : List Char × Option (List Char) :=
  match cs.dropWhile (· != sep) with
  | _ :: behind => (cs.takeWhile (· != sep), some behind)
  | [] => (cs, none)

/-- Texts in order, by code points. -/
def sortTexts (xs : List String) : List String := xs.mergeSort fun a b => !(b < a)

end Crosswalk
