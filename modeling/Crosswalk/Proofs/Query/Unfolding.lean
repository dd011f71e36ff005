import Mathlib.Data.List.Lex
import Mathlib.Data.Set.Card
import Crosswalk.Proofs.Query.Addresses

/-!
# Unfolding a query document

A query document says of every label which labels are below it.  Unfolded from its root this gives a
tree of references, which need not be finite: a reference is known by its address, the positions of
the children that lead to it, and references are ordered as addresses are, so that a reference comes
in front of those below it and of those to its right.

* `QueryDocument.labelAt` — **the label at an address.**
* `Unfolds` — **a tree is the unfolding of a document.**  `Unfolds.eq_of_label_eq` says that there
  is only one such tree, and `Unfolds.labelAt_eq` that it is the one of the references.
* `QueryDocument.Refused` — **a reference that has no place in a tree**: its label has no
  description or a place already, or it is too deep.
* `Unfolds.not_refused` — an unfolding with distinct labels that is not too high has none.
* `Unfolds.nodeCount_eq` — it has as many nodes as there are labels to be reached.
-/

namespace Crosswalk

/-! ## Addresses -/

/-- **What comes in front of a child**: what comes in front of the node, the node itself, and what
is at or below an earlier child. -/
lemma lt_concat_iff {a c : List Nat} {i : Nat} :
    a < c ++ [i] ↔ a < c ∨ a = c ∨ ∃ j < i, c ++ [j] <+: a := by
  induction c generalizing a with
  | nil =>
      cases a with
      | nil => simp
      | cons x a => simp [List.cons_lt_cons_iff]
  | cons y c ih =>
      cases a with
      | nil => simp
      | cons x a =>
          simp only [List.cons_append, List.cons_lt_cons_iff, ih, List.cons.injEq,
            List.cons_prefix_cons]
          constructor
          · rintro (hlt | ⟨rfl, hlt | rfl | ⟨j, hj, hprefix⟩⟩)
            · exact Or.inl (Or.inl hlt)
            · exact Or.inl (Or.inr ⟨rfl, hlt⟩)
            · exact Or.inr (Or.inl ⟨rfl, rfl⟩)
            · exact Or.inr (Or.inr ⟨j, hj, rfl, hprefix⟩)
          · rintro ((hlt | ⟨rfl, hlt⟩) | ⟨rfl, rfl⟩ | ⟨j, hj, rfl, hprefix⟩)
            · exact Or.inl hlt
            · exact Or.inr ⟨rfl, Or.inl hlt⟩
            · exact Or.inr ⟨rfl, Or.inr (Or.inl rfl)⟩
            · exact Or.inr ⟨rfl, Or.inr (Or.inr ⟨j, hj, hprefix⟩)⟩

lemma lt_concat_zero_iff {a c : List Nat} : a < c ++ [0] ↔ a < c ∨ a = c := by
  simp [lt_concat_iff]

/-- What is at or below a node is the node, or at or below one of its children. -/
lemma prefix_iff_concat {a c : List Nat} : c <+: a ↔ a = c ∨ ∃ j, c ++ [j] <+: a := by
  constructor
  · rintro ⟨rest, rfl⟩
    cases rest with
    | nil => exact Or.inl (List.append_nil c)
    | cons j rest => exact Or.inr ⟨j, rest, by simp⟩
  · rintro (rfl | ⟨j, hprefix⟩)
    · exact List.prefix_rfl
    · exact (List.prefix_append c [j]).trans hprefix

/-- What comes in front of the next child comes in front of this one, or is at or below it. -/
lemma lt_concat_succ_iff {a c : List Nat} {i : Nat} :
    a < c ++ [i + 1] ↔ a < c ++ [i] ∨ c ++ [i] <+: a := by
  simp only [lt_concat_iff, Nat.lt_succ_iff_lt_or_eq, or_and_right, exists_or, exists_eq_left,
    or_assoc]

/-! ## References -/

namespace QueryDocument

/-- The description of a label. -/
def spec? (d : QueryDocument) (label : String) : Option NodeSpec :=
  d.nodes.find? fun spec => spec.label = label

/-- The labels below a label; without a description there are none. -/
def below (d : QueryDocument) (label : String) : List String :=
  ((d.spec? label).map NodeSpec.children).getD []

/-- **The label at an address**, from a label downwards. -/
def labelAt (d : QueryDocument) (label : String) : List Nat → Option String
  | [] => some label
  | i :: a => ((d.below label)[i]?).bind fun child => d.labelAt child a

/-- **The labels that the root leads to.** -/
inductive Reachable (d : QueryDocument) : String → Prop where
  | root : Reachable d d.root
  | child {spec : NodeSpec} {label : String} (h : Reachable d spec.label) (hspec : spec ∈ d.nodes)
      (hlabel : label ∈ spec.children) : Reachable d label

/-- **A reference that has no place in a tree**, and what is wrong with it. -/
inductive Refused (d : QueryDocument) (most : Nat) (a : List Nat) : SchemaProblem → Prop where
  /-- Its label has no description, or has a place already. -/
  | missing {parent label : String} (child : a ≠ [])
      (above : d.labelAt d.root a.dropLast = some parent)
      (here : d.labelAt d.root a = some label)
      (gone : d.spec? label = none ∨ ∃ b < a, d.labelAt d.root b = some label) :
      Refused d most a (.childWithoutNode label parent)
  /-- Its label could have a place here, but the reference is too deep. -/
  | deep {label : String} (child : a ≠ []) (here : d.labelAt d.root a = some label)
      (known : d.spec? label ≠ none) (free : ∀ b < a, d.labelAt d.root b ≠ some label)
      (tooDeep : most ≤ a.length) : Refused d most a (.tooDeep label most)

/-- **The first reference that has no place**, in the order of addresses. -/
def FirstRefused (d : QueryDocument) (most : Nat) (a : List Nat) (problem : SchemaProblem) : Prop :=
  d.Refused most a problem ∧ ∀ b < a, ∀ other, ¬ d.Refused most b other

/-- What is wrong with a reference is one problem, and the problem is about its label. -/
lemma Refused.label_eq {d : QueryDocument} {most : Nat} {a : List Nat} {problem : SchemaProblem}
    (h : d.Refused most a problem) : d.labelAt d.root a = some problem.label := by
  cases h with
  | missing _ _ here _ => exact here
  | deep _ here _ _ _ => exact here

lemma Refused.unique {d : QueryDocument} {most : Nat} {a : List Nat}
    {problem other : SchemaProblem} (h : d.Refused most a problem) (h' : d.Refused most a other) :
    problem = other := by
  have hlabel := h.label_eq.symm.trans h'.label_eq
  rw [Option.some_inj] at hlabel
  cases h with
  | missing _ above _ gone =>
      cases h' with
      | missing _ above' _ _ =>
          obtain rfl := Option.some_inj.1 (above.symm.trans above')
          obtain rfl := hlabel
          rfl
      | deep _ _ known free _ =>
          obtain rfl := hlabel
          rcases gone with hnone | ⟨b, hb, hlabel⟩
          · exact absurd hnone known
          · exact absurd hlabel (free b hb)
  | deep _ _ known free _ =>
      obtain rfl := hlabel
      cases h' with
      | missing _ _ _ gone =>
          rcases gone with hnone | ⟨b, hb, hlabel⟩
          · exact absurd hnone known
          · exact absurd hlabel (free b hb)
      | deep => rfl

/-- There is only one first reference without a place. -/
lemma FirstRefused.unique {d : QueryDocument} {most : Nat} {a b : List Nat}
    {problem other : SchemaProblem} (h : d.FirstRefused most a problem)
    (h' : d.FirstRefused most b other) : problem = other := by
  rcases lt_trichotomy a b with hlt | rfl | hgt
  · exact absurd h.1 (h'.2 a hlt problem)
  · exact h.1.unique h'.1
  · exact absurd h'.1 (h.2 b hgt other)

lemma labelAt_append (d : QueryDocument) (label : String) (a b : List Nat) :
    d.labelAt label (a ++ b) = (d.labelAt label a).bind fun l => d.labelAt l b := by
  induction a generalizing label with
  | nil => rfl
  | cons i a ih =>
      rw [List.cons_append, labelAt, labelAt]
      cases (d.below label)[i]? with
      | none => rfl
      | some child => exact ih child

lemma labelAt_concat {d : QueryDocument} {root label : String} {a : List Nat} {i : Nat}
    (h : d.labelAt root a = some label) :
    d.labelAt root (a ++ [i]) = (d.below label)[i]? := by
  rw [labelAt_append, h, Option.bind_some, labelAt]
  cases (d.below label)[i]? <;> rfl

/-- Below an address there are only as many children as are described. -/
lemma lt_length_of_prefix {d : QueryDocument} {root label l : String} {a c : List Nat} {i : Nat}
    (hc : d.labelAt root c = some label) (ha : d.labelAt root a = some l) (h : c ++ [i] <+: a) :
    i < (d.below label).length := by
  obtain ⟨rest, rfl⟩ := h
  rw [labelAt_append, labelAt_concat hc] at ha
  obtain ⟨child, hchild, -⟩ := Option.bind_eq_some_iff.1 ha
  exact (List.getElem?_eq_some_iff.1 hchild).1

/-- In front of a child behind the last one come what is in front of the node and all of it. -/
lemma lt_concat_length_iff {d : QueryDocument} {root label l : String} {a c : List Nat}
    (hc : d.labelAt root c = some label) (ha : d.labelAt root a = some l) :
    a < c ++ [(d.below label).length] ↔ a < c ∨ c <+: a := by
  rw [lt_concat_iff, prefix_iff_concat]
  refine or_congr_right (or_congr_right (exists_congr fun j => ?_))
  exact and_iff_right_of_imp fun hprefix => lt_length_of_prefix hc ha hprefix

end QueryDocument

/-! ## Unfoldings -/

/-- **A tree is an unfolding**: each of its nodes is described by the document, and has the children
that the description names, in this order. -/
def Unfolds (d : QueryDocument) (t : QueryTree) : Prop :=
  ∀ s ∈ t.postorder, ∃ spec ∈ d.nodes,
    s.own = spec.toQueryNode ∧ s.children.map QueryTree.label = spec.children

namespace QueryTree

lemma index_unique {ts : List QueryTree} {i j : Nat} {c c' : QueryTree} {l : String}
    (hd : (ts.flatMap labels).Nodup) (hc : ts[i]? = some c) (hc' : ts[j]? = some c')
    (hl : l ∈ c.labels) (hl' : l ∈ c'.labels) : i = j := by
  have hdisjoint := List.pairwise_iff_getElem.1 (List.nodup_flatMap.1 hd).2
  obtain ⟨hi, rfl⟩ := List.getElem?_eq_some_iff.1 hc
  obtain ⟨hj, rfl⟩ := List.getElem?_eq_some_iff.1 hc'
  rcases Nat.lt_trichotomy i j with hlt | heq | hgt
  · exact absurd hl' (hdisjoint i j hi hj hlt hl)
  · exact heq
  · exact absurd hl (hdisjoint j i hj hi hgt hl')

lemma label_ne_of_subtree? {t s : QueryTree} {i : Nat} {a : List Nat} (hd : t.labels.Nodup)
    (h : t.subtree? (i :: a) = some s) : s.label ≠ t.label := by
  obtain ⟨c, hc, hs⟩ := Option.bind_eq_some_iff.1 h
  intro heq
  refine label_notMem_of_child hd (self_mem_postorder t) (List.mem_of_getElem? hc) ?_
  rw [← heq]
  exact label_mem_labels (mem_postorder_of_subtree? hs)

/-- **In a tree with distinct labels a label has one address.** -/
lemma address_unique {t s s' : QueryTree} {a b : List Nat} (hd : t.labels.Nodup)
    (ha : t.subtree? a = some s) (hb : t.subtree? b = some s') (h : s.label = s'.label) :
    a = b := by
  induction a generalizing t b with
  | nil =>
      cases b with
      | nil => rfl
      | cons j b =>
          cases ha
          exact absurd h.symm (label_ne_of_subtree? hd hb)
  | cons i a ih =>
      cases b with
      | nil =>
          cases hb
          exact absurd h (label_ne_of_subtree? hd ha)
      | cons j b =>
          obtain ⟨c, hc, hs⟩ := Option.bind_eq_some_iff.1 ha
          obtain ⟨c', hc', hs'⟩ := Option.bind_eq_some_iff.1 hb
          have hmem := label_mem_labels (mem_postorder_of_subtree? hs)
          have hmem' := label_mem_labels (mem_postorder_of_subtree? hs')
          rw [← h] at hmem'
          have hlabels := hd
          cases t with
          | node own ts =>
              rw [labels_node, List.nodup_cons] at hlabels
              -- the label is below both children, so they are the same child
              obtain rfl := index_unique hlabels.2 hc hc' hmem hmem'
              obtain rfl := Option.some_inj.1 (hc.symm.trans hc')
              have hbelow := child_mem_postorder (self_mem_postorder _) (List.mem_of_getElem? hc)
              rw [ih (nodup_labels hd hbelow) hs hs']

end QueryTree

open QueryTree

lemma unfolds_node {d : QueryDocument} {own : QueryNode} {ts : List QueryTree} :
    Unfolds d (node own ts) ↔
      (∃ spec ∈ d.nodes, own = spec.toQueryNode ∧ ts.map QueryTree.label = spec.children) ∧
        ∀ t ∈ ts, Unfolds d t := by
  constructor
  · intro h
    exact ⟨h _ (self_mem_postorder _), fun t ht s hs => h s (mem_postorder_of_child ht hs)⟩
  · rintro ⟨hown, hts⟩ s hs
    rcases mem_postorder_node.1 hs with ⟨c, hc, hsc⟩ | rfl
    · exact hts c hc s hsc
    · exact hown

section Distinct

variable {d : QueryDocument} (hd : (d.nodes.map fun spec => spec.label).Nodup)
include hd

/-- **A label has one description.** -/
lemma spec?_eq_some_iff {label : String} {spec : NodeSpec} :
    d.spec? label = some spec ↔ spec ∈ d.nodes ∧ spec.label = label := by
  constructor
  · intro h
    exact ⟨List.mem_of_find?_eq_some h, by simpa using List.find?_some h⟩
  · rintro ⟨hspec, rfl⟩
    cases hfind : d.spec? spec.label with
    | none =>
        have hne := List.find?_eq_none.1 hfind spec hspec
        exact absurd (decide_eq_true rfl) hne
    | some other =>
        have hother := List.mem_of_find?_eq_some hfind
        have hlabel : other.label = spec.label := by simpa using List.find?_some hfind
        rw [List.inj_on_of_nodup_map hd hother hspec hlabel]

lemma below_eq {spec : NodeSpec} (hspec : spec ∈ d.nodes) :
    d.below spec.label = spec.children := by
  rw [QueryDocument.below, (spec?_eq_some_iff hd).2 ⟨hspec, rfl⟩]
  rfl

/-- **The labels of an unfolding are those of the references.** -/
lemma Unfolds.labelAt_eq {t : QueryTree} (h : Unfolds d t) (a : List Nat) :
    d.labelAt t.label a = (t.subtree? a).map QueryTree.label := by
  induction a generalizing t with
  | nil => rfl
  | cons i a ih =>
      cases t with
      | node own ts =>
          obtain ⟨⟨spec, hspec, rfl, hchildren⟩, hts⟩ := unfolds_node.1 h
          rw [QueryDocument.labelAt, label_node, below_eq hd hspec, ← hchildren, subtree?,
            children_node, List.getElem?_map]
          cases hc : ts[i]? with
          | none => rfl
          | some c => exact ih (hts c (List.mem_of_getElem? hc))

/-- **There is only one unfolding** from a label. -/
lemma Unfolds.eq_of_label_eq {t t' : QueryTree} (h : Unfolds d t) (h' : Unfolds d t')
    (hlabel : t.label = t'.label) : t = t' := by
  induction t using QueryTree.induction generalizing t' with
  | node own ts ih =>
      cases t' with
      | node own' ts' =>
          obtain ⟨⟨spec, hspec, rfl, hchildren⟩, hts⟩ := unfolds_node.1 h
          obtain ⟨⟨spec', hspec', rfl, hchildren'⟩, hts'⟩ := unfolds_node.1 h'
          have hsame : spec = spec' := List.inj_on_of_nodup_map hd hspec hspec' hlabel
          subst hsame
          rw [← hchildren'] at hchildren
          clear h h' hchildren' hlabel
          congr 1
          induction ts generalizing ts' with
          | nil => exact (List.map_eq_nil_iff.1 hchildren.symm).symm
          | cons t ts ihts =>
              cases ts' with
              | nil => cases hchildren
              | cons t' ts' =>
                  rw [List.map_cons, List.map_cons, List.cons.injEq] at hchildren
                  have hhead := ih t List.mem_cons_self (hts t List.mem_cons_self)
                    (hts' t' List.mem_cons_self) hchildren.1
                  have htail := ihts (fun u hu => ih u (List.mem_cons_of_mem _ hu)) ts'
                    (fun u hu => hts u (List.mem_cons_of_mem _ hu)) hchildren.2
                    (fun u hu => hts' u (List.mem_cons_of_mem _ hu))
                  rw [hhead, htail]

/-- **In an unfolding with distinct labels that is not too high every reference has its place.** -/
theorem Unfolds.not_refused {t : QueryTree} (h : Unfolds d t) (hroot : t.label = d.root)
    (hnodup : t.labels.Nodup) {most : Nat} (hheight : t.height < most) (a : List Nat)
    (problem : SchemaProblem) : ¬ d.Refused most a problem := by
  have hlabel : ∀ {a : List Nat} {l : String}, d.labelAt d.root a = some l →
      ∃ s, t.subtree? a = some s ∧ s.label = l := by
    intro a l ha
    rw [← hroot, h.labelAt_eq hd] at ha
    exact Option.map_eq_some_iff.1 ha
  intro hrefused
  cases hrefused with
  | missing _ _ here gone =>
      obtain ⟨s, hs, rfl⟩ := hlabel here
      rcases gone with hnone | ⟨b, hb, hplaced⟩
      · obtain ⟨spec, hspec, hown, -⟩ := h s (mem_postorder_of_subtree? hs)
        rw [label, hown, (spec?_eq_some_iff hd).2 ⟨hspec, rfl⟩] at hnone
        cases hnone
      · obtain ⟨s', hs', heq⟩ := hlabel hplaced
        exact absurd (address_unique hnodup hs' hs heq) hb.ne
  | deep _ here _ _ tooDeep =>
      obtain ⟨s, hs, -⟩ := hlabel here
      have hlength := height_add_length_le hs
      omega

/-- **The labels of an unfolding are those that the root leads to.** -/
lemma Unfolds.mem_labels_iff {t : QueryTree} (h : Unfolds d t) (hroot : t.label = d.root)
    {l : String} : l ∈ t.labels ↔ d.Reachable l := by
  constructor
  · have hreach : ∀ s, Unfolds d s → d.Reachable s.label →
        ∀ l ∈ s.labels, d.Reachable l := by
      intro s
      induction s using QueryTree.induction with
      | node own ts ih =>
          intro hs hown l hl
          obtain ⟨⟨spec, hspec, rfl, hchildren⟩, hts⟩ := unfolds_node.1 hs
          rw [labels_node] at hl
          rcases List.mem_cons.1 hl with rfl | hl
          · exact hown
          · obtain ⟨c, hc, hl⟩ := List.mem_flatMap.1 hl
            refine ih c hc (hts c hc) (.child hown hspec ?_) l hl
            rw [← hchildren]
            exact List.mem_map_of_mem hc
    exact hreach t h (hroot ▸ .root) l
  · intro hl
    induction hl with
    | root =>
        rw [← hroot]
        exact label_mem_own t
    | @child spec label _ hspec hlabel ih =>
        obtain ⟨s, hs, hslabel⟩ := List.mem_map.1 ((map_label_postorder t).mem_iff.2 ih)
        obtain ⟨spec', hspec', hown, hchildren⟩ := h s hs
        have hsame : spec' = spec := by
          refine List.inj_on_of_nodup_map hd hspec' hspec ?_
          rw [← hslabel, QueryTree.label, hown]
        rw [← hsame, ← hchildren] at hlabel
        obtain ⟨c, hc, rfl⟩ := List.mem_map.1 hlabel
        exact label_mem_labels (child_mem_postorder hs hc)

/-- **An unfolding with distinct labels has as many nodes as labels can be reached.** -/
lemma Unfolds.nodeCount_eq {t : QueryTree} (h : Unfolds d t) (hroot : t.label = d.root)
    (hnodup : t.labels.Nodup) : t.nodeCount = {l | d.Reachable l}.ncard := by
  have hset : {l | d.Reachable l} = (t.labels.toFinset : Set String) := by
    ext l
    rw [List.coe_toFinset]
    exact (h.mem_labels_iff hd hroot).symm
  rw [hset, Set.ncard_coe_finset, List.toFinset_card_of_nodup hnodup, QueryTree.nodeCount_eq]

end Distinct

end Crosswalk
