import Mathlib.Data.Set.Card
import Crosswalk.Proofs.Query.Addresses

/-!
# Walking with a stack

A tree is walked in a loop over a stack of nodes.  A node that has been put on the stack comes to
its top twice: the first time its children are put above it, and the second time, marked, it is
given out.  So a node without a mark stands for all that is below it and for itself, and a marked
one only for itself.  That does not depend on what nodes are, so it can be said of trees, which are
what is given out, and of nodes where they stand, which can be told apart.

* `Traversal.pass`, `Traversal.passes` — **the loop**, pass by pass.
* `IsPostorder` — an order that has the children of a node one after the other, and then the node.
* `Traversal.pass_spec` — **a pass** gives out the beginning of what the stack stands for, and
  leaves a stack for the rest.  `Traversal.passes_spec` says the same of several passes.
* `Traversal.passes_eq` — when the loop ends, and what it has given out then.
* **`walk_located`** — the walk through a tree.
-/

namespace Crosswalk

namespace Traversal

variable {α : Type} {below : α → List α} {order : α → List α}

/-- A stack with more nodes on it, the last one on top. -/
def push (ts : List α) (stack : List (Bool × α)) : List (Bool × α) :=
  ts.foldl (fun stack t => (false, t) :: stack) stack

/-- **One pass of the loop**: what it gives out, and the stack behind it. -/
def pass (below : α → List α) : List (Bool × α) → Option (Option α × List (Bool × α))
  | [] => none
  | (true, t) :: stack => some (some t, stack)
  | (false, t) :: stack => some (none, push (below t).reverse ((true, t) :: stack))

/-- What some passes give out one after the other, and the stack behind them.  With an empty stack
there are no more passes. -/
def passes (below : α → List α) : Nat → List (Bool × α) → List α × List (Bool × α)
  | 0, stack => ([], stack)
  | n + 1, stack =>
    match pass below stack with
    | none => ([], stack)
    | some (given, rest) =>
      let (more, last) := passes below n rest
      (given.toList ++ more, last)

/-- Put on a stack from the last to the first, nodes come off it from the first to the last. -/
lemma push_reverse (ts : List α) (stack : List (Bool × α)) :
    push ts.reverse stack = (ts.map fun t => (false, t)) ++ stack := by
  rw [push, List.foldl_reverse]
  induction ts with
  | nil => rfl
  | cons t ts ih => rw [List.foldr_cons, ih, List.map_cons, List.cons_append]

/-- **Children one after the other, and then the node.** -/
def IsPostorder (below : α → List α) (order : α → List α) : Prop :=
  ∀ t, order t = (below t).flatMap order ++ [t]

/-- What an entry of the stack stands for. -/
def pending (order : α → List α) : Bool × α → List α
  | (true, t) => [t]
  | (false, t) => order t

/-- How many passes an entry of the stack stands for. -/
def turns (order : α → List α) : Bool × α → Nat
  | (true, _) => 1
  | (false, t) => 2 * (order t).length

/-- How many passes a stack stands for. -/
def turnsAll (order : α → List α) (stack : List (Bool × α)) : Nat :=
  (stack.map (turns order)).sum

/-- Children on a stack stand for two passes for every node below. -/
lemma turnsAll_children (ts : List α) (stack : List (Bool × α)) :
    turnsAll order ((ts.map fun t => (false, t)) ++ stack)
      = 2 * (ts.flatMap order).length + turnsAll order stack := by
  induction ts with
  | nil => exact (Nat.zero_add _).symm
  | cons t ts ih =>
      rw [turnsAll] at ih ⊢
      rw [List.map_cons, List.cons_append, List.map_cons, List.sum_cons, ih, turns,
        List.flatMap_cons, List.length_append]
      omega

/-- **A pass** gives out the beginning of what the stack stands for and leaves a stack for the rest,
with one pass less to come. -/
lemma pass_spec (h : IsPostorder below order) {stack rest : List (Bool × α)} {given : Option α}
    (hpass : pass below stack = some (given, rest)) :
    stack.flatMap (pending order) = given.toList ++ rest.flatMap (pending order) ∧
      turnsAll order rest + 1 = turnsAll order stack := by
  rcases stack with _ | ⟨⟨_ | _, t⟩, stack⟩
  · cases hpass
  · -- the node comes back with a mark, below its children
    cases hpass
    rw [push_reverse]
    constructor
    · rw [List.flatMap_cons, pending, h t, List.flatMap_append, List.flatMap_map,
        List.append_assoc]
      rfl
    · rw [turnsAll_children, turnsAll, turnsAll, List.map_cons, List.map_cons, List.sum_cons,
        List.sum_cons, turns, turns, h t, List.length_append, List.length_singleton]
      omega
  · cases hpass
    exact ⟨rfl, Nat.add_comm _ _⟩

/-- Only an empty stack stands for no pass. -/
lemma turnsAll_eq_zero (h : IsPostorder below order) {stack : List (Bool × α)} :
    turnsAll order stack = 0 ↔ stack = [] := by
  rcases stack with _ | ⟨⟨_ | _, t⟩, stack⟩
  · simp [turnsAll]
  · simp [turnsAll, turns, h t]
  · simp [turnsAll, turns]

/-- Only an empty stack ends the loop. -/
lemma eq_nil_of_pass {stack : List (Bool × α)} (h : pass below stack = none) : stack = [] := by
  rcases stack with _ | ⟨⟨_ | _, t⟩, stack⟩
  · rfl
  · cases h
  · cases h

/-- **Several passes** give out the beginning of what the stack stands for and leave a stack for the
rest; as long as there is one, with that many passes less to come. -/
lemma passes_spec (h : IsPostorder below order) (n : Nat) (stack : List (Bool × α)) :
    stack.flatMap (pending order)
        = (passes below n stack).1 ++ (passes below n stack).2.flatMap (pending order) ∧
      turnsAll order (passes below n stack).2 = turnsAll order stack - n := by
  induction n generalizing stack with
  | zero => exact ⟨rfl, rfl⟩
  | succ n ih =>
      cases hpass : pass below stack with
      | none =>
          obtain rfl := eq_nil_of_pass hpass
          simp [passes, hpass, turnsAll]
      | some out =>
          obtain ⟨given, rest⟩ := out
          obtain ⟨hgiven, hone⟩ := pass_spec h hpass
          obtain ⟨hmore, hless⟩ := ih rest
          simp only [passes, hpass]
          refine ⟨?_, ?_⟩
          · rw [hgiven, List.append_assoc, ← hmore]
          · rw [hless, ← hone, Nat.add_sub_add_right]

/-- **The loop ends after two passes for every node**, and not earlier, and has given out the
order. -/
theorem passes_eq (h : IsPostorder below order) (t : α) :
    passes below (2 * (order t).length) [(false, t)] = (order t, []) ∧
      ∀ n < 2 * (order t).length, (passes below n [(false, t)]).2 ≠ [] := by
  have hturns : ∀ n, turnsAll order (passes below n [(false, t)]).2
      = 2 * (order t).length - n := by
    intro n
    rw [(passes_spec h n _).2]
    simp [turnsAll, turns]
  have hend : (passes below (2 * (order t).length) [(false, t)]).2 = [] := by
    rw [← turnsAll_eq_zero h, hturns, Nat.sub_self]
  have hall := (passes_spec h (2 * (order t).length) [(false, t)]).1
  rw [hend, List.flatMap_nil, List.append_nil, List.flatMap_singleton, pending] at hall
  refine ⟨Prod.ext hall.symm hend, fun n hn hnil => ?_⟩
  have hrest := hturns n
  rw [(turnsAll_eq_zero h).2 hnil] at hrest
  omega

end Traversal

open Traversal

namespace QueryTree

lemma isPostorder_walk : IsPostorder children walk := by
  intro t
  rw [show walk = postorder from funext walk_eq_postorder]
  exact t.postorder_eq

lemma nodeCount_eq_length (t : QueryTree) : t.nodeCount = t.located.length := by
  rw [nodeCount, walk_eq_postorder, ← map_tree_located, List.length_map]

/-- The number of nodes is that of the addresses at which there is one. -/
lemma nodeCount_eq_ncard (t : QueryTree) :
    t.nodeCount = {address | (t.subtree? address).isSome}.ncard := by
  have hset : {address | (t.subtree? address).isSome}
      = ((t.located.map Located.address).toFinset : Set (List Nat)) := by
    ext address
    rw [List.coe_toFinset, Set.mem_ofPred_eq, Option.isSome_iff_exists, Set.mem_ofPred_eq,
      List.mem_map]
    constructor
    · rintro ⟨s, hs⟩
      exact ⟨⟨address, s⟩, mem_located.2 hs, rfl⟩
    · rintro ⟨o, ho, rfl⟩
      exact ⟨o.tree, mem_located.1 ho⟩
  rw [hset, Set.ncard_coe_finset, List.toFinset_card_of_nodup t.nodup_located, List.length_map,
    nodeCount_eq_length]

/-- **The walk through a tree.**  The loop ends after two passes for every node, and not earlier.
What it has given out then is the walk: the walks of the children in their order, and then the node
itself.  Run over the nodes where they stand, the same loop gives out every one of them, and none
twice; what it gives out is the walk, apart from where the nodes stand.  And counting the nodes on
the way is counting the addresses at which there is a node. -/
theorem walk_located (t : QueryTree) :
    passes children (2 * t.nodeCount) [(false, t)] = (t.walk, []) ∧
      (∀ n < 2 * t.nodeCount, (passes children n [(false, t)]).2 ≠ []) ∧
      t.walk = t.children.flatMap walk ++ [t] ∧
      passes Located.children (2 * t.nodeCount) [(false, ⟨[], t⟩)] = (t.located, []) ∧
      (t.located.map Located.address).Nodup ∧
      (∀ o, o ∈ t.located ↔ t.subtree? o.address = some o.tree) ∧
      t.walk = t.located.map Located.tree ∧
      t.nodeCount = {address | (t.subtree? address).isSome}.ncard := by
  obtain ⟨hwalk, hnot⟩ := passes_eq isPostorder_walk t
  have hlocated := (passes_eq Located.postorder_eq ⟨[], t⟩).1
  refine ⟨hwalk, hnot, isPostorder_walk t, ?_, t.nodup_located, fun o => mem_located, ?_,
    t.nodeCount_eq_ncard⟩
  · rw [nodeCount_eq_length]
    exact hlocated
  · rw [walk_eq_postorder, map_tree_located]

end QueryTree

end Crosswalk
