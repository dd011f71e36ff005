/-!
# Finding, replacing and cutting out parts of texts

* `occursIn` — whether a text stands anywhere inside another.
* `replaceAll` — every occurrence replaced, from the left, without overlaps.
* `cutOut` — the characters between two positions, counted from the front or from the back.
-/

namespace Crosswalk

/-- Whether `part` stands anywhere inside a text. -/
def occursIn (part : List Char) : List Char → Bool
  | [] => part.isEmpty
  | c :: cs => part.isPrefixOf (c :: cs) || occursIn part cs

/-- Every occurrence of the non-empty text `first :: others` replaced by `new`; the first `skip`
characters belong to an occurrence that is replaced already. -/
def replaceFound (first : Char) (others new : List Char) (skip : Nat) : List Char → List Char
  | [] => []
  | c :: cs =>
    match skip with
    | n + 1 => replaceFound first others new n cs
    | 0 =>
      if (first :: others).isPrefixOf (c :: cs) then
        new ++ replaceFound first others new others.length cs
      else c :: replaceFound first others new 0 cs

/-- **Every occurrence of `old` replaced by `new`.**  The empty text occurs in front of every
character and at the end. -/
def replaceAll (old new cs : List Char) : List Char :=
  match old with
  | [] => new ++ cs.flatMap fun c => c :: new
  | first :: others => replaceFound first others new 0 cs

/-- A position in a text of a given length; a negative one counts from the end. -/
def positionWithin (length : Nat) (i : Int) : Nat :=
  if i < 0 then (i + length).toNat else min i.toNat length

/-- **The characters from one position up to another**, which is not included. -/
def cutOut (start stop : Option Int) (cs : List Char) : List Char :=
  let from_ := (start.map (positionWithin cs.length)).getD 0
  let upTo := (stop.map (positionWithin cs.length)).getD cs.length
  (cs.take upTo).drop from_

end Crosswalk
