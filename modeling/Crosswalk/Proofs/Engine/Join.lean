import Crosswalk.Engine.Join
import Crosswalk.Proofs.Row

/-!
# The join without an index

The index puts the values of every key together.  What is found in it under a key is what going
through the pairs finds, in the same order and as often, so joining with the index is going through
the pairs for every row.

* `PairIndex.valuesOf_ofPairs` — what an index holds.
* `joinRow_ofPairs` — a row joined with an index of pairs.
* `joinRound`, `joinLoops` — **two loops**, over the rows and for every row over all pairs.
* **`joinRows_eq_joinLoops`** — the join is what the loops give out.
-/

namespace Crosswalk

namespace PairIndex

/-- A pair is added behind those of its key. -/
lemma valuesOf_add (index : PairIndex) (p : Pair) (key : String) :
    (index.add p).valuesOf key
      = index.valuesOf key ++ if p.key = key then [p.value] else [] := by
  induction index with
  | nil =>
      by_cases h : p.key = key
      · subst h
        simp [add, valuesOf]
      · simp [add, valuesOf, List.lookup_cons, beq_false_of_ne (Ne.symm h), h]
  | cons entry index ih =>
      obtain ⟨k, values⟩ := entry
      rw [add]
      split
      · next hk =>
          subst hk
          by_cases h : key = p.key
          · subst h
            simp [valuesOf]
          · simp [valuesOf, List.lookup_cons, beq_false_of_ne h, Ne.symm h]
      · next hk =>
          by_cases h : key = k
          · subst h
            simp [valuesOf, Ne.symm hk]
          · simpa [valuesOf, List.lookup_cons, beq_false_of_ne h] using ih

/-- **The values of a key are those of its pairs**, in their order. -/
theorem valuesOf_ofPairs (pairs : List Pair) (key : String) :
    (ofPairs pairs).valuesOf key = (pairs.filter fun p => p.key = key).map Pair.value := by
  have fold : ∀ (ps : List Pair) (index : PairIndex),
      (ps.foldl (fun index p => index.add p) index).valuesOf key
        = index.valuesOf key ++ (ps.filter fun p => p.key = key).map Pair.value := by
    intro ps
    induction ps with
    | nil => exact fun index => (List.append_nil _).symm
    | cons p ps ih =>
        intro index
        rw [List.foldl_cons, ih, valuesOf_add]
        by_cases h : p.key = key <;> simp [h]
  rw [ofPairs, fold]
  rfl

end PairIndex

/-- A row with a text under the label goes with every pair of that key. -/
lemma joinRow_ofPairs {pairs : List Pair} {label parent own : String} {row : Row}
    (h : row.get? label = some own) :
    joinRow (PairIndex.ofPairs pairs) label parent row
      = (pairs.filter fun p => p.key = own).map fun p => row.set parent p.value := by
  rw [joinRow, h]
  simp [PairIndex.valuesOf_ofPairs]

/-! ## Two loops -/

section Loops

variable (pairs : List Pair) (label parent : String)

/-- **One round for a row** behind the rows that are there: if it has a text under the label, all
pairs are gone through, and every pair of that key adds the row with its value under the other
label. -/
def joinRound (joined : List Row) (row : Row) : List Row :=
  match row.get? label with
  | none => joined
  | some own => pairs.foldl (fun joined p =>
      if p.key = own then joined ++ [row.set parent p.value] else joined) joined

/-- **Rows joined with pairs in two loops**, without an index. -/
def joinLoops (rows : List Row) : List Row := rows.foldl (joinRound pairs label parent) []

/-- A round adds what the row joined with the index is. -/
lemma joinRound_eq (joined : List Row) (row : Row) :
    joinRound pairs label parent joined row
      = joined ++ joinRow (PairIndex.ofPairs pairs) label parent row := by
  cases hget : row.get? label with
  | none => simp [joinRound, joinRow, hget]
  | some own =>
      have inner : ∀ (ps : List Pair) (joined : List Row),
          ps.foldl (fun joined p =>
            if p.key = own then joined ++ [row.set parent p.value] else joined) joined
          = joined ++ (ps.filter fun p => p.key = own).map fun p => row.set parent p.value := by
        intro ps
        induction ps with
        | nil => exact fun joined => (List.append_nil joined).symm
        | cons p ps ih =>
            intro joined
            rw [List.foldl_cons, ih]
            by_cases h : p.key = own <;> simp [h]
      rw [joinRow_ofPairs hget, ← inner]
      simp only [joinRound, hget]

/-- So do all rounds for all rows. -/
lemma foldl_joinRound (rows joined : List Row) :
    rows.foldl (joinRound pairs label parent) joined
      = joined ++ joinRows rows pairs label parent := by
  induction rows generalizing joined with
  | nil => exact (List.append_nil joined).symm
  | cons row rows ih =>
      rw [List.foldl_cons, ih, joinRound_eq, List.append_assoc]
      rfl

/-- **The join with an index is the join in two loops**, whatever the rows and the pairs are: keys,
pairs and rows may come more than once, and rows may lack the one label or have the other. -/
theorem joinRows_eq_joinLoops (rows : List Row) :
    joinRows rows pairs label parent = joinLoops pairs label parent rows := by
  rw [joinLoops, foldl_joinRound, List.nil_append]

end Loops

end Crosswalk
