import Crosswalk.Query.Tree

/-!
# Levels of nodes

Nodes are put into levels one after the other.  A node without children goes to the lowest level,
and any other one above the highest of its children.  That needs a table with the heights of the
nodes that have been put before, by what a node is known by; and a level is opened only when it is
the next one.  So there are two things that can be missing.

* `LevelFault` — **what can be missing.**
* `levelsOf` — **the levels of nodes**, whatever nodes are and whatever they are known by.
* `heightLevels` — **the nodes of a query tree by height.**
-/

namespace Crosswalk

/-- **What can be missing** when a node is put into its level. -/
inductive LevelFault where
  /-- The height of one of its children. -/
  | height
  /-- The level. -/
  | level
  deriving DecidableEq, Repr

section Levels

variable {α κ : Type} [DecidableEq κ] (key : α → κ) (below : α → List α)

/-- One more than the greatest height of some nodes in a table; zero without nodes. -/
def heightAbove (heights : List (κ × Nat)) : List α → Except LevelFault Nat
  | [] => .ok 0
  | c :: cs =>
    match heights.lookup (key c) with
    | none => .error .height
    | some h => do
      let others ← heightAbove heights cs
      .ok (max (h + 1) others)

/-- The levels with one more node at a height, which may be that of the next level. -/
def putAtHeight (h : Nat) (t : α) (levels : List (List α)) : Except LevelFault (List (List α)) :=
  let opened := if h = levels.length then levels ++ [[]] else levels
  match opened[h]? with
  | none => .error .level
  | some level => .ok (opened.set h (level ++ [t]))

/-- The levels of nodes behind those that have been put before, whose heights are in the table. -/
def levelsFrom (heights : List (κ × Nat)) (levels : List (List α)) :
    List α → Except LevelFault (List (List α))
  | [] => .ok levels
  | t :: ts => do
    let h ← heightAbove key heights (below t)
    let levels ← putAtHeight h t levels
    levelsFrom ((key t, h) :: heights) levels ts

/-- **The levels of nodes**, lowest first; children come in front of their parents. -/
def levelsOf (order : List α) : Except LevelFault (List (List α)) :=
  levelsFrom key below [] [] order

end Levels

/-- **The nodes of a query tree by height**, lowest first.  Nodes that are equal have the same
height, so a node need not be known by more than what it is.  Nothing is missing if the nodes come
children first. -/
def heightLevels (order : List QueryTree) : List (List QueryTree) :=
  match levelsOf id QueryTree.children order with
  | .ok levels => levels
  | .error _ => []

end Crosswalk
