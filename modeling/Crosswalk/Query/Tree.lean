import Crosswalk.Query.Document

/-!
# Query trees

The nodes of a query form a tree.  It is built from the root downwards, in the order in which
children are given, with a stack of the nodes that are not complete yet.  A description is used up
by the node that is built from it, so no node can have two places in the tree.

* `QueryTree` — **a tree of nodes.**
* `QueryTree.assemble` — **building**: a step takes a description, or completes a node.
* `QueryTree.ofDocument` — **the tree of a query document**, or what is wrong with it.
* `QueryTree.walk` — the nodes of a tree, children in front of their parents, found with a stack.
* `QueryTree.compile` — the tree of a query document in a file.
-/

namespace Crosswalk

/-- **A tree of nodes.** -/
inductive QueryTree where
  /-- A node over its children. -/
  | node (own : QueryNode) (children : List QueryTree)

namespace QueryTree

/-- The node at the top. -/
def own : QueryTree → QueryNode
  | node n _ => n

/-- The trees below the top. -/
def children : QueryTree → List QueryTree
  | node _ ts => ts

/-- The label of the top. -/
def label (t : QueryTree) : String := t.own.label

/-- Whether nothing is below the top. -/
def isLeaf (t : QueryTree) : Bool := t.children.isEmpty

mutual

/-- Whether two trees are the same. -/
def decEq : (s t : QueryTree) → Decidable (s = t)
  | node a ss, node b ts =>
    if hown : a = b then
      match decEqAll ss ts with
      | isTrue hbelow => isTrue (by rw [hown, hbelow])
      | isFalse hbelow => isFalse fun h => hbelow (node.inj h).2
    else isFalse fun h => hown (node.inj h).1

/-- Whether two lists of trees are the same. -/
def decEqAll : (ss ts : List QueryTree) → Decidable (ss = ts)
  | [], [] => isTrue rfl
  | [], _ :: _ => isFalse nofun
  | _ :: _, [] => isFalse nofun
  | s :: ss, t :: ts =>
    match decEq s t with
    | isFalse hfirst => isFalse fun h => hfirst (List.cons.inj h).1
    | isTrue hfirst =>
      match decEqAll ss ts with
      | isTrue hothers => isTrue (by rw [hfirst, hothers])
      | isFalse hothers => isFalse fun h => hothers (List.cons.inj h).2

end

instance : DecidableEq QueryTree := decEq

/-! ## Building -/

/-- The descriptions by label; of a repeated label the last one counts, at the place of the
first. -/
def byLabel (specs : List NodeSpec) : List NodeSpec :=
  specs.foldl (fun kept spec =>
    if kept.any (·.label = spec.label) then
      kept.map fun s => if s.label = spec.label then spec else s
    else kept ++ [spec]) []

/-- The description with a label, and the others. -/
def take (label : String) : List NodeSpec → Option (NodeSpec × List NodeSpec)
  | [] => none
  | spec :: specs =>
    if spec.label = label then some (spec, specs)
    else (take label specs).map fun (found, others) => (found, spec :: others)

/-- What is left has one description less. -/
theorem length_take {label : String} {specs others : List NodeSpec} {spec : NodeSpec}
    (h : take label specs = some (spec, others)) : others.length + 1 = specs.length := by
  induction specs generalizing others with
  | nil => simp [take] at h
  | cons s specs ih =>
    unfold take at h
    split at h
    · simp only [Option.some.injEq, Prod.mk.injEq] at h
      rw [← h.2, List.length_cons]
    · obtain ⟨⟨found, rest⟩, hrest, heq⟩ := Option.map_eq_some_iff.1 h
      simp only [Prod.mk.injEq] at heq
      obtain ⟨rfl, rfl⟩ := heq
      simp [← ih hrest]

/-- **A node that is being built**: the trees below it that are there, and the labels of those that
are still to come. -/
structure Branch where
  own : QueryNode
  /-- The number of nodes on the path from the root to this one. -/
  depth : Nat
  built : List QueryTree := []
  awaited : List String

/-- The node of a description, with nothing below it yet. -/
def Branch.ofSpec (depth : Nat) (spec : NodeSpec) : Branch :=
  { own := spec.toQueryNode, depth, awaited := spec.children }

/-- A node with one more tree below it. -/
def Branch.put (b : Branch) (t : QueryTree) : Branch := { b with built := b.built ++ [t] }

/-- **The tree that grows from a node**, with the nodes above it, nearest first.  The next label
that is awaited takes its description away and is built before the labels behind it; a node that
awaits nothing is a tree, and is put below the node above it. -/
def assemble (most : Nat) (pending : List NodeSpec) (top : Branch) (above : List Branch) :
    Except Error (QueryTree × List NodeSpec) :=
  match top.awaited with
  | [] =>
    match above with
    | [] => .ok (.node top.own top.built, pending)
    | b :: above => assemble most pending (b.put (.node top.own top.built)) above
  | label :: labels =>
    match h : take label pending with
    | none => .error (.schema (.childWithoutNode label top.own.label))
    | some (spec, rest) =>
      have := length_take h
      if most ≤ top.depth then .error (.schema (.tooDeep label most))
      else assemble most rest (.ofSpec (top.depth + 1) spec)
        ({ top with awaited := labels } :: above)
termination_by (pending.length, above.length)

/-- The tree of a query document with the descriptions that are left, when no path may have more
than `most` nodes. -/
def build (most : Nat) (d : QueryDocument) : Except Error (QueryTree × List NodeSpec) :=
  match take d.root (byLabel d.nodes) with
  | none => .error (.schema (.rootWithoutNode d.root))
  | some (spec, pending) => assemble most pending (.ofSpec 1 spec) []

/-- The greatest depth of a tree when none is asked for. -/
def usualDepth : Nat := 10000

/-- **The tree of a query document**, when no path may have more than `most` nodes. -/
def ofDocument (most : Nat) (d : QueryDocument) : Except Error QueryTree :=
  (build most d).map Prod.fst

/-! ## Walking -/

mutual

/-- The number of nodes. -/
def size : QueryTree → Nat
  | node _ ts => 1 + sizeAll ts

/-- The number of nodes of several trees. -/
def sizeAll : List QueryTree → Nat
  | [] => 0
  | t :: ts => t.size + sizeAll ts

end

/-- The work that an entry of the stack stands for. -/
def work : Bool × QueryTree → Nat
  | (true, _) => 1
  | (false, t) => 2 * t.size

/-- The work that a stack stands for. -/
def workAll : List (Bool × QueryTree) → Nat
  | [] => 0
  | e :: stack => work e + workAll stack

/-- Trees as entries that are not marked. -/
def unmarked (ts : List QueryTree) : List (Bool × QueryTree) := ts.map fun t => (false, t)

/-- The children of a tree on a stack are less work than the tree. -/
theorem workAll_unmarked (ts : List QueryTree) (stack : List (Bool × QueryTree)) :
    workAll (unmarked ts ++ stack) = 2 * sizeAll ts + workAll stack := by
  induction ts with
  | nil => exact (Nat.zero_add _).symm
  | cons t ts ih =>
    show 2 * t.size + workAll (unmarked ts ++ stack) = 2 * (t.size + sizeAll ts) + workAll stack
    omega

/-- The nodes of the trees on a stack.  An entry is marked once its children have been put in front
of it. -/
def walkStack : List (Bool × QueryTree) → List QueryTree
  | [] => []
  | (true, t) :: stack => t :: walkStack stack
  | (false, .node own ts) :: stack =>
    walkStack (unmarked ts ++ (true, .node own ts) :: stack)
termination_by stack => workAll stack
decreasing_by
  · exact Nat.lt_add_of_pos_left Nat.one_pos
  · rw [workAll_unmarked]
    show 2 * sizeAll ts + (1 + workAll stack) < 2 * (1 + sizeAll ts) + workAll stack
    omega

/-- **The nodes of a tree, children in front of their parents.** -/
def walk (t : QueryTree) : List QueryTree := walkStack [(false, t)]

/-- The number of nodes that a walk meets. -/
def nodeCount (t : QueryTree) : Nat := t.walk.length

/-! ## Files -/

/-- **The tree of a query document**, with a note of the descriptions that are left over. -/
def ofDocumentNoted (most : Nat) (d : QueryDocument) : Traced QueryTree := do
  let (tree, left) ← Traced.of (build most d)
  if left.isEmpty then return tree
  else
    Traced.note .debug "query.tree_builder" ("Unreachable query nodes left unused: " ++
      ", ".intercalate (sortTexts (left.map (·.label))))
    return tree

/-- **The tree of a query document in a file.** -/
def compile (most : Nat) (fs : Files) (path : Path) : Traced QueryTree := do
  let tree ← ofDocumentNoted most (← QueryDocument.load fs path)
  Traced.note .debug "query.tree_builder" ("Compiled query tree rooted at " ++ tree.label ++ " (" ++
    toString tree.nodeCount ++ " nodes)")
  return tree

end QueryTree

end Crosswalk
