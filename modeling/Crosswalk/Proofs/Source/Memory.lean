import Mathlib.Data.List.Nodup
import Mathlib.Tactic.Lemma
import Crosswalk.Source.Leaves

/-!
# What is thrown away while a document is read

All that the end of an element looks at is whether the element holds others, and if not, its text.
Making room changes neither for any element whose end is still to come: an element that loses its
first children keeps the last one, and elements that are emptied have ended.  So the pairs are
those of a walk on which nothing is thrown away, and they do not depend on the pieces that the walk
comes in.

* `OpenLeaf`, `leavesFrom` — **the pairs of a walk**, with the number of steps up to the end tags.
* `Memory.leaf?` — what the end of an element looks at; `Memory.Alike` — memories that look the
  same, apart from some elements.
* `alike_finish` — **making room is not noticed.**
* `Memory.Holds` — **the invariant**; `Holds.read` keeps it for a step, `Holds.take` for a piece.
* **`pairs_eq`** — the pairs of a walk in pieces.
-/

namespace Crosswalk.Leaves

/-! ## The pairs of a walk -/

/-- The element that was started last, as long as it may be a leaf. -/
structure OpenLeaf where
  tag : String
  /-- Its text so far. -/
  text : String

namespace OpenLeaf

/-- The pair of the element if it ends now. -/
def pair (l : OpenLeaf) : Option Pair := leafPair l.tag l.text

/-- The element that was started last, behind a step. -/
def after (leaf : Option OpenLeaf) : Xml.Event → Option OpenLeaf
  | .start tag _ => some ⟨tag, ""⟩
  | .text s => leaf.map fun l => { l with text := l.text ++ s }
  | .reference _ | .stop => none

/-- The pair that a step brings. -/
def brought (leaf : Option OpenLeaf) : Xml.Event → Option Pair
  | .stop => leaf.bind pair
  | _ => none

end OpenLeaf

open OpenLeaf

/-- **The pairs of a walk** behind `n` steps, with the number of steps up to the end tags of their
elements. -/
def leavesFrom (n : Nat) (leaf : Option OpenLeaf) : List Xml.Event → List (Nat × Pair)
  | [] => []
  | e :: rest => ((brought leaf e).map (n + 1, ·)).toList ++ leavesFrom (n + 1) (after leaf e) rest

lemma leavesFrom_append (n : Nat) (leaf : Option OpenLeaf) (es more : List Xml.Event) :
    leavesFrom n leaf (es ++ more)
      = leavesFrom n leaf es ++ leavesFrom (n + es.length) (es.foldl after leaf) more := by
  induction es generalizing n leaf with
  | nil => rfl
  | cons e es ih =>
      rw [List.cons_append, leavesFrom, leavesFrom, ih, List.append_assoc, List.length_cons,
        List.foldl_cons, Nat.add_right_comm n 1, Nat.add_assoc]

/-! ## What the end of an element looks at -/

/-- What the end of an element looks at: its text, unless it holds others. -/
def Kept.leaf? (e : Kept) : Option OpenLeaf :=
  if e.children.isEmpty then some ⟨e.tag, e.text⟩ else none

lemma Kept.leaf?_of_cons {e : Kept} {c : Child} {cs : List Child} (h : e.children = c :: cs) :
    e.leaf? = none := by
  rw [leaf?, h]
  rfl

namespace Memory

variable {m m' m'' : Memory} {gone : List Nat} {id : Nat}

/-- What the end of an element looks at, by its number. -/
def leaf? (m : Memory) (id : Nat) : Option OpenLeaf := m.kept[id]?.bind Kept.leaf?

lemma leaf?_change (m : Memory) (id : Nat) (f : Kept → Kept) (j : Nat) :
    (m.change id f).leaf? j
      = if id = j then m.kept[j]?.bind fun e => (f e).leaf? else m.leaf? j := by
  rw [leaf?, change, Array.getElem?_modify]
  split
  · cases m.kept[j]? <;> rfl
  · rfl

/-- **Memories that look the same**, apart from some elements. -/
structure Alike (gone : List Nat) (m m' : Memory) : Prop where
  opened : m'.opened = m.opened
  ended : m'.ended = m.ended
  size : m'.kept.size = m.kept.size
  leaf : ∀ j ∉ gone, m'.leaf? j = m.leaf? j

lemma Alike.refl (gone : List Nat) (m : Memory) : Alike gone m m :=
  ⟨rfl, rfl, rfl, fun _ _ => rfl⟩

lemma Alike.trans (h : Alike gone m m') (h' : Alike gone m' m'') : Alike gone m m'' :=
  ⟨h'.opened.trans h.opened, h'.ended.trans h.ended, h'.size.trans h.size,
    fun j hj => (h'.leaf j hj).trans (h.leaf j hj)⟩

lemma Alike.mono {more : List Nat} (h : Alike gone m m') (hsub : gone ⊆ more) : Alike more m m' :=
  ⟨h.opened, h.ended, h.size, fun j hj => h.leaf j fun hmem => hj (hsub hmem)⟩

/-- A change that is not looked at, or one to an element that is not looked at any more. -/
lemma alike_change {f : Kept → Kept}
    (h : id ∈ gone ∨ ∀ e ∈ m.kept[id]?, (f e).leaf? = e.leaf?) :
    Alike gone m (m.change id f) := by
  refine ⟨rfl, rfl, Array.size_modify, fun j hj => ?_⟩
  rw [leaf?_change]
  split
  · next heq =>
    subst heq
    have hsame := h.resolve_left hj
    rw [leaf?]
    cases hkept : m.kept[id]? with
    | none => rfl
    | some e => exact hsame e hkept
  · rfl

lemma alike_detach (gone : List Nat) (m : Memory) (children : List Child) :
    Alike gone m (m.detach children) := by
  induction children generalizing m with
  | nil => exact .refl _ _
  | cons c children ih =>
      cases c with
      | element id =>
          have hstep : Alike gone m (m.change id fun e => { e with parent := none }) :=
            alike_change (Or.inr fun _ _ => rfl)
          exact hstep.trans (ih _)
      | reference => exact ih m

lemma alike_clear (m : Memory) (id : Nat) : Alike [id] m (m.clear id) := by
  rw [clear]
  split
  · exact (alike_detach _ _ _).trans (alike_change (Or.inl List.mem_cons_self))
  · exact .refl _ _

/-- **Who loses first children keeps the last one.** -/
lemma isEmpty_cutAt (c : Child) (children : List Child) :
    (cutAt c children).1.isEmpty = children.isEmpty := by
  cases children with
  | nil => rfl
  | cons d earlier =>
      rw [cutAt]
      split <;> rfl

lemma alike_dropPast (m : Memory) (id : Nat) : Alike [] m (m.dropPast id) := by
  rw [dropPast]
  split
  · refine (alike_detach _ _ _).trans (alike_change (Or.inr fun e _ => ?_))
    rw [Kept.leaf?, Kept.leaf?, isEmpty_cutAt]
  · exact .refl _ _

/-- **Making room is not noticed** by any other element. -/
lemma alike_finish (m : Memory) (id : Nat) : Alike [id] m (m.finish id).1 := by
  rw [finish]
  split
  · split
    · exact .refl _ _
    · exact (alike_clear m id).trans ((alike_dropPast _ id).mono (List.nil_subset _))
  · exact .refl _ _

lemma finish_pair (m : Memory) (id : Nat) : (m.finish id).2 = (m.leaf? id).bind pair := by
  rw [finish, leaf?]
  cases m.kept[id]? with
  | none => rfl
  | some e =>
      simp only [Option.bind_some, Kept.leaf?]
      split <;> rfl

lemma finishAll_cons (m : Memory) (id : Nat) (ids : List Nat) :
    m.finishAll (id :: ids) = (((m.finish id).1.finishAll ids).1,
      (m.finish id).2.toList ++ ((m.finish id).1.finishAll ids).2) := rfl

/-- The ends of different elements bring what each finds at first. -/
lemma finishAll_spec (m : Memory) {ids : List Nat} (h : ids.Nodup) :
    Alike ids m (m.finishAll ids).1 ∧
      (m.finishAll ids).2 = ids.filterMap fun id => (m.leaf? id).bind pair := by
  induction ids generalizing m with
  | nil => exact ⟨.refl _ _, rfl⟩
  | cons id ids ih =>
      rw [List.nodup_cons] at h
      obtain ⟨hid, hids⟩ := h
      have hfirst := alike_finish m id
      obtain ⟨hrest, hpairs⟩ := ih (m.finish id).1 hids
      have hsame : ids.filterMap (fun j => ((m.finish id).1.leaf? j).bind pair)
          = ids.filterMap fun j => (m.leaf? j).bind pair := by
        refine List.filterMap_congr fun j hj => ?_
        rw [hfirst.leaf j fun hmem => hid (List.mem_singleton.1 hmem ▸ hj)]
      rw [finishAll_cons]
      refine ⟨(hfirst.mono (by simp)).trans (hrest.mono (List.subset_cons_self _ _)), ?_⟩
      rw [hpairs, hsame, finish_pair, List.filterMap_cons]
      cases (m.leaf? id).bind pair <;> rfl

/-! ## The invariant -/

/-- **What holds of the memory at any time**: the elements whose end is still to be looked at differ
from each other, and only the innermost of those that are open may be a leaf. -/
structure Holds (m : Memory) : Prop where
  nodup : (m.ended ++ m.opened).Nodup
  known : ∀ id ∈ m.ended ++ m.opened, id < m.kept.size
  outer : ∀ id ∈ m.opened.tail, m.leaf? id = none

/-- The element that was started last, as the memory has it. -/
def current (m : Memory) : Option OpenLeaf := m.opened.head?.bind m.leaf?

/-- The pairs of the elements that have ended. -/
def due (m : Memory) : List Pair := m.ended.filterMap fun id => (m.leaf? id).bind pair

lemma holds_empty : Holds {} := ⟨List.nodup_nil, nofun, nofun⟩

/-- A change to the innermost element is noticed by no other. -/
lemma Holds.changeInner (h : m.Holds) (f : Kept → Kept) :
    (m.changeInner f).Holds ∧ (m.changeInner f).opened = m.opened ∧
      (m.changeInner f).kept.size = m.kept.size ∧ (m.changeInner f).due = m.due ∧
      (m.changeInner f).current
        = m.opened.head?.bind fun id => m.kept[id]?.bind fun e => (f e).leaf? := by
  cases hopened : m.opened with
  | nil =>
      have hsame : m.changeInner f = m := by rw [Memory.changeInner, hopened]
      rw [hsame, current, hopened]
      exact ⟨h, rfl, rfl, rfl, rfl⟩
  | cons id outer =>
      have hchange : m.changeInner f = m.change id f := by rw [Memory.changeInner, hopened]
      have halike : Alike [id] m (m.change id f) := alike_change (Or.inl List.mem_cons_self)
      obtain ⟨-, hnodup, hdisjoint⟩ := List.nodup_append.1 h.nodup
      rw [hopened] at hnodup
      have houter : ∀ j ∈ outer, (m.change id f).leaf? j = m.leaf? j := by
        intro j hj
        refine halike.leaf j fun hmem => (List.nodup_cons.1 hnodup).1 ?_
        exact List.mem_singleton.1 hmem ▸ hj
      have hended : ∀ j ∈ m.ended, (m.change id f).leaf? j = m.leaf? j := by
        intro j hj
        refine halike.leaf j fun hmem => ?_
        exact hdisjoint j hj id (hopened ▸ List.mem_cons_self) (List.mem_singleton.1 hmem)
      rw [hchange]
      refine ⟨⟨h.nodup, fun j hj => ?_, fun j hj => ?_⟩, hopened, halike.size, ?_, ?_⟩
      · rw [halike.size]
        exact h.known j hj
      · have hmem : j ∈ outer := by simpa only [change, hopened, List.tail_cons] using hj
        rw [houter j hmem]
        exact h.outer j (hopened ▸ hmem)
      · exact List.filterMap_congr fun j hj => by rw [hended j hj]
      · rw [current, show (m.change id f).opened = id :: outer from hopened, List.head?_cons,
          Option.bind_some, Option.bind_some, leaf?_change, if_pos rfl]

lemma Holds.adopt (h : m.Holds) (c : Child) :
    (m.adopt c).Holds ∧ (m.adopt c).opened = m.opened ∧
      (m.adopt c).kept.size = m.kept.size ∧ (m.adopt c).due = m.due ∧
        (m.adopt c).current = none := by
  obtain ⟨hholds, hopened, hsize, hdue, hcurrent⟩ := h.changeInner fun e =>
    { e with children := c :: e.children }
  refine ⟨hholds, hopened, hsize, hdue, hcurrent.trans ?_⟩
  cases m.opened.head? with
  | none => rfl
  | some id =>
      cases hkept : m.kept[id]? with
      | none => rw [Option.bind_some, hkept, Option.bind_none]
      | some e =>
          rw [Option.bind_some, hkept, Option.bind_some]
          exact Kept.leaf?_of_cons rfl

/-- If the innermost element is no leaf, none of those that are open is. -/
lemma Holds.leaf?_of_current (h : m.Holds) (hcurrent : m.current = none) :
    ∀ id ∈ m.opened, m.leaf? id = none := by
  intro id hid
  cases hopened : m.opened with
  | nil =>
      rw [hopened] at hid
      cases hid
  | cons inner outer =>
      rw [current, hopened, List.head?_cons, Option.bind_some] at hcurrent
      rw [hopened] at hid
      rcases List.mem_cons.1 hid with rfl | hid
      · exact hcurrent
      · exact h.outer id (by rwa [hopened])

/-- A new element inside of those that are open. -/
lemma Holds.push (h : m.Holds) (hcurrent : m.current = none) (tag : String) (parent : Option Nat) :
    let m' : Memory :=
      { m with kept := m.kept.push { tag, parent }, opened := m.kept.size :: m.opened }
    m'.Holds ∧ m'.due = m.due ∧ m'.current = some ⟨tag, ""⟩ := by
  intro m'
  have hleaf (j : Nat) (hj : j < m.kept.size) : m'.leaf? j = m.leaf? j := by
    rw [leaf?, Array.getElem?_push, if_neg (Nat.ne_of_lt hj)]
    rfl
  have hknown (j : Nat) (hj : j ∈ m.ended ++ m.opened) : m'.leaf? j = m.leaf? j :=
    hleaf j (h.known j hj)
  have hfresh : m.kept.size ∉ m.ended ++ m.opened := fun hmem => Nat.lt_irrefl _ (h.known _ hmem)
  refine ⟨⟨?_, ?_, ?_⟩, ?_, ?_⟩
  · exact List.nodup_middle.2 (List.nodup_cons.2 ⟨hfresh, h.nodup⟩)
  · intro j hj
    rw [Array.size_push]
    rcases List.mem_append.1 hj with hj | hj
    · exact Nat.lt_succ_of_lt (h.known j (List.mem_append_left _ hj))
    · rcases List.mem_cons.1 hj with rfl | hj
      · exact Nat.lt_succ_self _
      · exact Nat.lt_succ_of_lt (h.known j (List.mem_append_right _ hj))
  · intro j hj
    rw [hknown j (List.mem_append_right _ hj)]
    exact h.leaf?_of_current hcurrent j hj
  · exact List.filterMap_congr fun j hj => by rw [hknown j (List.mem_append_left _ hj)]
  · rw [current, List.head?_cons, Option.bind_some, leaf?, Array.getElem?_push, if_pos rfl]
    rfl

/-- **A step of the walk keeps the invariant**, and what is due grows by what the step brings. -/
lemma Holds.read (h : m.Holds) (e : Xml.Event) :
    (m.read e).Holds ∧ (m.read e).current = after m.current e ∧
      (m.read e).due = m.due ++ (brought m.current e).toList := by
  cases e with
  | start tag attributes =>
      obtain ⟨hholds, hopened, hsize, hdue, hcurrent⟩ := h.adopt (.element m.kept.size)
      obtain ⟨hholds', hdue', hcurrent'⟩ := hholds.push hcurrent tag m.opened.head?
      rw [hopened, hsize] at hholds' hdue' hcurrent'
      exact ⟨hholds', hcurrent', (hdue'.trans hdue).trans (List.append_nil _).symm⟩
  | text s =>
      obtain ⟨hholds, hopened, -, hdue, hcurrent⟩ := h.changeInner fun e =>
        if e.children.isEmpty then { e with text := e.text ++ s } else e
      refine ⟨hholds, hcurrent.trans ?_, hdue.trans (List.append_nil _).symm⟩
      rw [after, current, Option.map_bind]
      refine Option.bind_congr fun id _ => ?_
      rw [Function.comp_apply, leaf?, Option.map_bind]
      refine Option.bind_congr fun e _ => ?_
      rw [Function.comp_apply, Kept.leaf?, Kept.leaf?]
      cases hchildren : e.children with
      | nil => simp
      | cons c cs => simp [hchildren]
  | reference name =>
      obtain ⟨hholds, hopened, -, hdue, hcurrent⟩ := h.adopt .reference
      exact ⟨hholds, hcurrent, hdue.trans (List.append_nil _).symm⟩
  | stop =>
      cases hopened : m.opened with
      | nil =>
          have hsame : m.read .stop = m := by rw [Memory.read, hopened]
          have hcurrent : m.current = none := by rw [current, hopened]; rfl
          rw [hsame, hcurrent]
          exact ⟨h, rfl, (List.append_nil _).symm⟩
      | cons id outer =>
          have hread : m.read .stop = { m with opened := outer, ended := m.ended ++ [id] } := by
            rw [Memory.read, hopened]
          have hnodup := h.nodup
          have hknown := h.known
          have houter := h.outer
          rw [hopened] at hnodup hknown houter
          rw [hread]
          refine ⟨⟨?_, ?_, fun j hj => houter j (List.mem_of_mem_tail hj)⟩, ?_, ?_⟩
          · rw [List.append_assoc]
            exact hnodup
          · rw [List.append_assoc]
            exact hknown
          · rw [current, after]
            cases houter' : outer with
            | nil => rfl
            | cons j rest => exact houter j (by rw [houter']; exact List.mem_cons_self)
          · rw [due, brought, current, hopened, List.filterMap_append]
            rfl

/-- The steps of a piece. -/
lemma Holds.foldl_read (h : m.Holds) (piece : List Xml.Event) (n : Nat) :
    (piece.foldl Memory.read m).Holds ∧
      (piece.foldl Memory.read m).current = piece.foldl after m.current ∧
      (piece.foldl Memory.read m).due = m.due ++ (leavesFrom n m.current piece).map Prod.snd := by
  induction piece generalizing m n with
  | nil => exact ⟨h, rfl, (List.append_nil _).symm⟩
  | cons e piece ih =>
      obtain ⟨hholds, hcurrent, hdue⟩ := h.read e
      obtain ⟨hholds', hcurrent', hdue'⟩ := ih hholds (n + 1)
      rw [List.foldl_cons, List.foldl_cons, leavesFrom]
      refine ⟨hholds', by rw [hcurrent', hcurrent], ?_⟩
      rw [hdue', hdue, hcurrent, List.append_assoc, List.map_append]
      cases brought m.current e <;> rfl

/-- **A piece brings its pairs**, and no end is waiting behind it. -/
lemma Holds.take (h : m.Holds) (hnone : m.ended = []) (piece : List Xml.Event) (n : Nat) :
    (m.take piece).1.Holds ∧ (m.take piece).1.ended = [] ∧
      (m.take piece).1.current = piece.foldl after m.current ∧
      (m.take piece).2 = (leavesFrom n m.current piece).map Prod.snd := by
  obtain ⟨hholds, hcurrent, hdue⟩ := h.foldl_read piece n
  rw [Memory.take]
  generalize piece.foldl Memory.read m = m' at hholds hcurrent hdue ⊢
  obtain ⟨hended, hopened, hdisjoint⟩ := List.nodup_append.1 hholds.nodup
  obtain ⟨halike, hpairs⟩ := finishAll_spec { m' with ended := [] } hended
  have hleaf : ∀ j ∈ m'.opened,
      (finishAll { m' with ended := [] } m'.ended).1.leaf? j = m'.leaf? j :=
    fun j hj => halike.leaf j fun hmem => hdisjoint j hmem j hj rfl
  refine ⟨⟨?_, ?_, ?_⟩, halike.ended, ?_, ?_⟩
  · rw [halike.ended, halike.opened]
    exact hopened
  · rw [halike.ended, halike.opened, halike.size]
    exact fun j hj => hholds.known j (List.mem_append_right _ hj)
  · rw [halike.opened]
    intro j hj
    rw [hleaf j (List.mem_of_mem_tail hj)]
    exact hholds.outer j hj
  · rw [← hcurrent, current, current, halike.opened]
    exact Option.bind_congr fun j hj => hleaf j (List.mem_of_mem_head? hj)
  · rw [hpairs]
    refine hdue.trans ?_
    rw [due, hnone]
    rfl

/-- **The pairs of a walk that comes in pieces** are those of the walk. -/
theorem pairs_eq (h : m.Holds) (hnone : m.ended = []) (pieces : List (List Xml.Event)) (n : Nat) :
    m.pairs pieces = (leavesFrom n m.current pieces.flatten).map Prod.snd := by
  induction pieces generalizing m n with
  | nil => rfl
  | cons piece pieces ih =>
      obtain ⟨hholds, hnone', hcurrent, hfound⟩ := h.take hnone piece n
      rw [Memory.pairs, List.flatten_cons, leavesFrom_append, List.map_append, ← hfound,
        ← hcurrent]
      exact congrArg _ (ih hholds hnone' _)

end Memory

end Crosswalk.Leaves
