import Crosswalk.Proofs.Query.Shape

/-!
# Where the nodes of a query tree stand

Two nodes of a tree can look the same in every respect, with the same trees below them, and still be
two nodes.  What tells them apart is the address at which they stand: the positions of the children
that lead to them from the top.

* `QueryTree.subtree?` — the tree at an address.
* `Located` — **a node where it stands**, with its children where they stand; `Located.induction`
  is induction over them.
* `Located.postorder` — **what is below a node, where it stands**, and behind it the node.
  `Located.mem_postorder` and `Located.nodup_postorder` say that none is left out and that none
  comes twice.
* `QueryTree.located` — the nodes of a tree where they stand.
-/

namespace Crosswalk

namespace QueryTree

/-- The tree at an address. -/
def subtree? (t : QueryTree) : List Nat → Option QueryTree
  | [] => some t
  | i :: a => (t.children[i]?).bind fun c => c.subtree? a

lemma mem_postorder_of_subtree? {t s : QueryTree} {a : List Nat} (h : t.subtree? a = some s) :
    s ∈ t.postorder := by
  induction a generalizing t with
  | nil =>
      cases h
      exact self_mem_postorder _
  | cons i a ih =>
      obtain ⟨c, hc, h⟩ := Option.bind_eq_some_iff.1 h
      exact mem_postorder_of_child (List.mem_of_getElem? hc) (ih h)

lemma subtree?_append (t : QueryTree) (a b : List Nat) :
    t.subtree? (a ++ b) = (t.subtree? a).bind fun s => s.subtree? b := by
  induction a generalizing t with
  | nil => rfl
  | cons i a ih =>
      rw [List.cons_append, subtree?, subtree?, Option.bind_assoc]
      exact congrArg _ (funext ih)

/-- An address leads down, a step or more for each of its positions. -/
lemma height_add_length_le {t s : QueryTree} {a : List Nat} (h : t.subtree? a = some s) :
    s.height + a.length ≤ t.height := by
  induction a generalizing t with
  | nil =>
      cases h
      exact Nat.le_refl _
  | cons i a ih =>
      obtain ⟨c, hc, h⟩ := Option.bind_eq_some_iff.1 h
      have hlt := height_lt_of_child (List.mem_of_getElem? hc)
      have hle := ih h
      rw [List.length_cons]
      omega

end QueryTree

/-- **A node where it stands**, with all that is below it. -/
structure Located where
  address : List Nat
  tree : QueryTree
  deriving DecidableEq

namespace QueryTree

mutual

/-- The nodes of a tree whose top stands at an address, those below a node in front of it. -/
def locatedFrom (address : List Nat) : QueryTree → List Located
  | node own ts => locatedBelow address 0 ts ++ [⟨address, node own ts⟩]

/-- The nodes of several trees below an address, whose tops have the positions from `k` on. -/
def locatedBelow (address : List Nat) (k : Nat) : List QueryTree → List Located
  | [] => []
  | t :: ts => t.locatedFrom (address ++ [k]) ++ locatedBelow address (k + 1) ts

end

end QueryTree

namespace Located

/-- The children of a node where they stand. -/
def children (o : Located) : List Located :=
  o.tree.children.mapIdx fun k c => ⟨o.address ++ [k], c⟩

/-- A node is above another one if the way from the top to that leads through it. -/
def Above (a o : Located) : Prop := a.address <+: o.address ∧ a.address ≠ o.address

/-- **A node and all below it, where they stand**, those below a node in front of it. -/
def postorder (o : Located) : List Located := o.tree.locatedFrom o.address

lemma mem_children {c o : Located} :
    c ∈ o.children ↔
      ∃ k, o.tree.children[k]? = some c.tree ∧ c.address = o.address ++ [k] := by
  obtain ⟨address, t⟩ := c
  simp only [children, List.mem_mapIdx, mk.injEq, List.getElem?_eq_some_iff]
  constructor
  · rintro ⟨k, hk, rfl, rfl⟩
    exact ⟨k, ⟨hk, rfl⟩, rfl⟩
  · rintro ⟨k, ⟨hk, rfl⟩, rfl⟩
    exact ⟨k, hk, rfl, rfl⟩

lemma map_tree_children (o : Located) : o.children.map tree = o.tree.children := by
  refine List.ext_getElem? fun k => ?_
  simp [children, Function.comp_def]

/-- Children stand at different addresses. -/
lemma nodup_children (o : Located) : (o.children.map address).Nodup := by
  rw [List.nodup_iff_injective_getElem]
  intro i j h
  exact Fin.ext (by simpa [children] using h)

/-- **Induction on nodes where they stand.** -/
@[elab_as_elim]
theorem induction {P : Located → Prop} (node : ∀ o, (∀ c ∈ o.children, P c) → P o)
    (o : Located) :
    P o := by
  obtain ⟨address, t⟩ := o
  induction t using QueryTree.induction generalizing address with
  | node own ts ih =>
      refine node _ fun c hc => ?_
      obtain ⟨k, hk, -⟩ := mem_children.1 hc
      exact ih c.tree (List.mem_of_getElem? hk) c.address

lemma locatedBelow_eq (a : List Nat) (k : Nat) (ts : List QueryTree) :
    QueryTree.locatedBelow a k ts
      = (ts.mapIdx fun j c => (⟨a ++ [k + j], c⟩ : Located)).flatMap postorder := by
  induction ts generalizing k with
  | nil => rfl
  | cons t ts ih =>
      rw [QueryTree.locatedBelow, ih, List.mapIdx_cons, List.flatMap_cons]
      simp only [Nat.add_right_comm k 1, Nat.add_assoc]
      rfl

/-- **The children of a node come one after the other, and then the node.** -/
lemma postorder_eq (o : Located) : o.postorder = o.children.flatMap postorder ++ [o] := by
  obtain ⟨a, own, ts⟩ := o
  rw [postorder, QueryTree.locatedFrom, locatedBelow_eq]
  simp only [Nat.zero_add]
  rfl

/-- Apart from where they stand, these are the nodes in post-order. -/
lemma map_tree_postorder (o : Located) : o.postorder.map tree = o.tree.postorder := by
  induction o using Located.induction with
  | node o ih =>
      rw [postorder_eq, List.map_append, List.map_flatMap, List.flatMap_congr ih,
        QueryTree.postorder_eq, ← map_tree_children, List.flatMap_map]
      rfl

/-- **Nothing below a node is left out**, and nothing else comes. -/
lemma mem_postorder {o s : Located} : s ∈ o.postorder
    ↔ ∃ way, s.address = o.address ++ way ∧ o.tree.subtree? way = some s.tree := by
  induction o using Located.induction with
  | node o ih =>
      rw [postorder_eq, List.mem_append, List.mem_singleton, List.mem_flatMap]
      constructor
      · rintro (⟨c, hc, h⟩ | rfl)
        · obtain ⟨way, haddress, hat⟩ := (ih c hc).1 h
          obtain ⟨k, hk, hchild⟩ := mem_children.1 hc
          refine ⟨k :: way, ?_, ?_⟩
          · rw [haddress, hchild, List.append_assoc, List.singleton_append]
          · rw [QueryTree.subtree?, hk, Option.bind_some, hat]
        · exact ⟨[], (List.append_nil _).symm, rfl⟩
      · rintro ⟨_ | ⟨k, way⟩, haddress, hat⟩
        · right
          rw [List.append_nil] at haddress
          obtain ⟨a, t⟩ := s
          cases hat
          cases haddress
          rfl
        · left
          obtain ⟨c, hk, hat⟩ := Option.bind_eq_some_iff.1 hat
          have hc : ⟨o.address ++ [k], c⟩ ∈ o.children := mem_children.2 ⟨k, hk, rfl⟩
          refine ⟨_, hc, (ih _ hc).2 ⟨way, ?_, hat⟩⟩
          rw [haddress, List.append_assoc, List.singleton_append]

/-- **No address comes twice.** -/
lemma nodup_postorder (o : Located) : (o.postorder.map address).Nodup := by
  induction o using Located.induction with
  | node o ih =>
      rw [postorder_eq, List.map_append, List.map_flatMap, List.nodup_append', List.nodup_flatMap]
      refine ⟨⟨ih, ?_⟩, List.nodup_singleton _, fun a ha htop => ?_⟩
      · refine (List.pairwise_map.1 o.nodup_children).imp_of_mem fun hc hc' hne a ha ha' => hne ?_
        obtain ⟨k, -, hchild⟩ := mem_children.1 hc
        obtain ⟨k', -, hchild'⟩ := mem_children.1 hc'
        obtain ⟨s, hs, rfl⟩ := List.mem_map.1 ha
        obtain ⟨s', hs', hsame⟩ := List.mem_map.1 ha'
        obtain ⟨way, haddress, -⟩ := mem_postorder.1 hs
        obtain ⟨way', haddress', -⟩ := mem_postorder.1 hs'
        rw [haddress, haddress', hchild, hchild', List.append_assoc, List.append_assoc,
          List.append_cancel_left_eq, List.singleton_append, List.singleton_append,
          List.cons.injEq] at hsame
        rw [hchild, hchild', hsame.1]
      · obtain ⟨c, hc, ha⟩ := List.mem_flatMap.1 ha
        obtain ⟨s, hs, rfl⟩ := List.mem_map.1 ha
        obtain ⟨k, -, hchild⟩ := mem_children.1 hc
        obtain ⟨way, haddress, -⟩ := mem_postorder.1 hs
        rw [List.map_singleton, List.mem_singleton, haddress, hchild, List.append_assoc] at htop
        simp at htop

end Located

namespace QueryTree

/-- **The nodes of a tree where they stand**, in post-order. -/
def located (t : QueryTree) : List Located := Located.postorder ⟨[], t⟩

lemma map_tree_located (t : QueryTree) : t.located.map Located.tree = t.postorder :=
  Located.map_tree_postorder ⟨[], t⟩

/-- **Every node of a tree is found where it stands**, and nothing else is. -/
theorem mem_located {t : QueryTree} {o : Located} :
    o ∈ t.located ↔ t.subtree? o.address = some o.tree := by
  rw [located, Located.mem_postorder]
  simp

/-- **At an address there is only one node.** -/
theorem nodup_located (t : QueryTree) : (t.located.map Located.address).Nodup :=
  Located.nodup_postorder ⟨[], t⟩

/-- **The nodes of a tree are closed under children**, with regard to where they stand. -/
lemma child_mem_located {t : QueryTree} {c o : Located} (ho : o ∈ t.located)
    (hc : c ∈ o.children) : c ∈ t.located := by
  obtain ⟨k, hk, haddress⟩ := Located.mem_children.1 hc
  rw [mem_located] at ho ⊢
  rw [haddress, subtree?_append, ho, Option.bind_some, subtree?, hk]
  rfl

/-- A node stands lower than those above it. -/
lemma height_lt_of_above {t : QueryTree} {a o : Located} (ha : a ∈ t.located)
    (ho : o ∈ t.located) (h : a.Above o) : o.tree.height < a.tree.height := by
  obtain ⟨⟨way, hway⟩, hne⟩ := h
  rw [mem_located] at ha ho
  rw [← hway, subtree?_append, ha, Option.bind_some] at ho
  have hlength : way.length ≠ 0 := by
    intro hzero
    exact hne (by rw [← hway, List.length_eq_zero_iff.1 hzero, List.append_nil])
  have hle := height_add_length_le ho
  omega

end QueryTree

end Crosswalk
