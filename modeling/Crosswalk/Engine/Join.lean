import Crosswalk.Row
import Crosswalk.Source.Stream

/-!
# Joining rows with pairs

Rows are joined with the pairs of a source: a row goes with every pair whose key is the text that
the row has under a label, and gets the value of the pair under another label.  The pairs are put
into an index first, so that they are gone through only once.

* `PairIndex` — **the values of every key**, in the order of the pairs.
* `joinRows` — **rows joined with pairs.**
-/

namespace Crosswalk

/-- **The values of every key.** -/
abbrev PairIndex := List (String × List String)

namespace PairIndex

/-- The index with one more pair. -/
def add (p : Pair) : PairIndex → PairIndex
  | [] => [(p.key, [p.value])]
  | (key, values) :: rest =>
    if key = p.key then (key, values ++ [p.value]) :: rest else (key, values) :: add p rest

/-- The index of some pairs. -/
def ofPairs (pairs : List Pair) : PairIndex := pairs.foldl (fun index p => index.add p) []

/-- The values of a key. -/
def valuesOf (index : PairIndex) (key : String) : List String := (index.lookup key).getD []

end PairIndex

/-- A row joined with the pairs of an index. -/
def joinRow (index : PairIndex) (label parent : String) (row : Row) : List Row :=
  match row.get? label with
  | some own => (index.valuesOf own).map fun value => row.set parent value
  | none => []

/-- **Rows joined with pairs**: rows in order, and for every row its pairs in order. -/
def joinRows (rows : List Row) (pairs : List Pair) (label parent : String) : List Row :=
  let index := PairIndex.ofPairs pairs
  rows.flatMap (joinRow index label parent)

end Crosswalk
