import Mathlib.Tactic.Lemma
import Crosswalk.Xml.Node

/-!
# Walks through nodes

The walk through a node says all about it: putting together what a walk brings gives the node back.

* `Node.induction` — induction on nodes.
* **`nodesOf_events`** — the nodes of the walk through a node.
* `Walk` — **a walk that is under way**: the elements that are open, and what is behind it.
-/

namespace Crosswalk.Xml

namespace Node

/-- **Induction on nodes.** -/
@[elab_as_elim]
theorem induction {P : Node → Prop}
    (element : ∀ tag attributes ns, (∀ n ∈ ns, P n) → P (.element tag attributes ns))
    (text : ∀ s, P (.text s)) (reference : ∀ name, P (.reference name)) : ∀ n, P n
  | .element tag attributes ns =>
      element tag attributes ns fun n _hn => induction element text reference n
  | .text s => text s
  | .reference name => reference name
termination_by n => sizeOf n
decreasing_by
  have := List.sizeOf_lt_of_mem _hn
  simp only [Node.element.sizeOf_spec]
  omega

lemma allEvents_eq (ns : List Node) : allEvents ns = ns.flatMap events := by
  induction ns with
  | nil => rfl
  | cons n ns ih => rw [allEvents, ih, List.flatMap_cons]

lemma events_element (tag : String) (attributes : List (String × String)) (ns : List Node) :
    (element tag attributes ns).events
      = .start tag attributes :: (ns.flatMap events ++ [.stop]) := by
  rw [events, allEvents_eq]

end Node

/-- **The walk through a node** brings the node. -/
lemma nodesOf_append_events (n : Node) (opened : List OpenElement) (nodes : List Node)
    (rest : List Event) :
    nodesOf opened nodes (n.events ++ rest) = nodesOf opened (n :: nodes) rest := by
  induction n using Node.induction generalizing opened nodes rest with
  | element tag attributes ns ih =>
      have hinside (ms : List Node) (hms : ∀ m ∈ ms, m ∈ ns) (opened : List OpenElement)
          (nodes : List Node) (rest : List Event) :
          nodesOf opened nodes (ms.flatMap Node.events ++ rest)
            = nodesOf opened (ms.reverse ++ nodes) rest := by
        induction ms generalizing nodes with
        | nil => rfl
        | cons m ms ihms =>
            rw [List.flatMap_cons, List.append_assoc, ih m (hms m List.mem_cons_self),
              ihms fun k hk => hms k (List.mem_cons_of_mem _ hk), List.reverse_cons,
              List.append_assoc]
            rfl
      rw [Node.events_element, List.cons_append, nodesOf, List.append_assoc,
        hinside ns fun m hm => hm, List.append_nil]
      simp [nodesOf]
  | text s => rfl
  | reference name => rfl

/-- **The nodes of the walk through a node** are this node. -/
theorem nodesOf_events (n : Node) : nodesOf [] [] n.events = [n] := by
  have h := nodesOf_append_events n [] [] []
  rw [List.append_nil] at h
  rw [h]
  rfl

/-! ## Walks under way -/

/-- **A walk that is under way**, with the number of elements that are open. -/
inductive Walk : Nat → List Event → Prop where
  /-- The root is open. -/
  | root (tag : String) (attributes : List (String × String)) (ns : List Node) :
      Walk 1 (.start tag attributes :: ns.flatMap Node.events)
  /-- An element is open inside of another. -/
  | inner {depth : Nat} {es : List Event} (h : Walk depth es) (tag : String)
      (attributes : List (String × String)) (ns : List Node) :
      Walk (depth + 1) (es ++ .start tag attributes :: ns.flatMap Node.events)

namespace Walk

variable {depth : Nat} {es : List Event}

lemma pos (h : Walk depth es) : 0 < depth := by
  cases h <;> omega

/-- A walk goes on with a node. -/
lemma node (h : Walk depth es) (n : Node) : Walk depth (es ++ n.events) := by
  cases h with
  | root tag attributes ns => simpa using root tag attributes (ns ++ [n])
  | inner h tag attributes ns => simpa using inner h tag attributes (ns ++ [n])

/-- A walk goes into an element. -/
lemma start (h : Walk depth es) (tag : String) (attributes : List (String × String)) :
    Walk (depth + 1) (es ++ [.start tag attributes]) :=
  inner h tag attributes []

/-- **A walk leaves an element**, and if it was the root, that was all. -/
lemma stop (h : Walk depth es) :
    (depth = 1 ∧
      ∃ tag attributes ns, es ++ [.stop] = (Node.element tag attributes ns).events) ∨
      ∃ outer, depth = outer + 1 ∧ Walk outer (es ++ [.stop]) := by
  cases h with
  | root tag attributes ns =>
      exact Or.inl ⟨rfl, tag, attributes, ns, (Node.events_element tag attributes ns).symm⟩
  | inner h tag attributes ns =>
      right
      refine ⟨_, rfl, ?_⟩
      simpa [Node.events_element] using h.node (.element tag attributes ns)

/-- **Every walk can come to an end**: it is the beginning of the walk through an element. -/
lemma exists_root (h : Walk depth es) :
    ∃ tag attributes ns, es <+: (Node.element tag attributes ns).events := by
  induction depth generalizing es with
  | zero => exact absurd h.pos (Nat.lt_irrefl 0)
  | succ outer ih =>
      rcases h.stop with ⟨-, tag, attributes, ns, hroot⟩ | ⟨outer', hdepth, hwalk⟩
      · exact ⟨tag, attributes, ns, hroot ▸ List.prefix_append _ _⟩
      · obtain rfl : outer = outer' := by omega
        obtain ⟨tag, attributes, ns, hbegun⟩ := ih hwalk
        exact ⟨tag, attributes, ns, (List.prefix_append _ _).trans hbegun⟩

end Walk

end Crosswalk.Xml
