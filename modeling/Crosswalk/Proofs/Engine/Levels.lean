import Mathlib.Data.Nat.Basic
import Mathlib.Order.Basic
import Crosswalk.Engine.Levels
import Crosswalk.Proofs.Engine.Schedule

/-!
# Nodes by height

Nodes that come children first are put into levels one after the other, and every time the heights
of the children are known and the level is there or is the next one.  So the levels are the nodes
of height `0`, `1`, … in the order in which they came, with nothing left empty up to the highest.

* `Leveled` — **what is known of the table and the levels** when some nodes have been put.
  `Leveled.step` puts one more, and `Leveled.run` a list.
* `levelsOf_eq` — **the levels of nodes**, whatever nodes are and whatever they are known by.
* `IsLeveling` — levels of the nodes of a tree that can be gone through from the lowest on.
* **`levelsOf_located`** — the levels of every tree are of that kind.
* `isSchedule_heightLevels` — the levels of an evaluation are a schedule, and every node is in
  one. -/

namespace Crosswalk

open QueryTree

/-! ## Levels in general -/

section General

variable {α κ : Type} [DecidableEq κ] {key : α → κ} {below : α → List α}
  {height : α → Nat}

/-- **A height of nodes**: a node stands just above the highest of its children. -/
def IsHeight (below : α → List α) (height : α → Nat) : Prop :=
  ∀ t n, height t ≤ n ↔ ∀ c ∈ below t, height c < n

/-- The nodes of a list at a height. -/
def atHeight (height : α → Nat) (order : List α) (h : Nat) : List α :=
  order.filter fun t => height t = h

lemma mem_atHeight {order : List α} {h : Nat} {t : α} :
    t ∈ atHeight height order h ↔ t ∈ order ∧ height t = h := by
  simp [atHeight]

lemma atHeight_concat (order : List α) (t : α) (h : Nat) :
    atHeight height (order ++ [t]) h
      = atHeight height order h ++ if height t = h then [t] else [] := by
  by_cases hh : height t = h <;> simp [atHeight, hh]

/-- **The height above nodes whose heights are known.** -/
lemma heightAbove_eq {heights : List (κ × Nat)} {cs : List α}
    (h : ∀ c ∈ cs, heights.lookup (key c) = some (height c)) :
    ∃ n, heightAbove key heights cs = .ok n ∧
      ∀ m, n ≤ m ↔ ∀ c ∈ cs, height c < m := by
  induction cs with
  | nil => exact ⟨0, rfl, by simp⟩
  | cons c cs ih =>
      obtain ⟨n, hn, hle⟩ := ih fun d hd => h d (List.mem_cons_of_mem _ hd)
      refine ⟨max (height c + 1) n, ?_, fun m => ?_⟩
      · rw [heightAbove, h c List.mem_cons_self, hn]
        rfl
      · rw [Nat.max_le, hle, Nat.succ_le_iff, List.forall_mem_cons]

/-- **Putting a node** whose height is at most the number of levels. -/
lemma putAtHeight_atHeight {done : List α} {t : α} {n : Nat}
    (hdone : ∀ s ∈ done, height s < n) (ht : height t ≤ n) :
    putAtHeight (height t) t ((List.range n).map (atHeight height done))
      = .ok ((List.range (max n (height t + 1))).map (atHeight height (done ++ [t]))) := by
  -- with the next level opened where it is needed, these are the levels of one kind
  have hopened : (if height t = n then (List.range n).map (atHeight height done) ++ [[]]
      else (List.range n).map (atHeight height done))
        = (List.range (max n (height t + 1))).map (atHeight height done) := by
    split
    · next hn =>
        have hnone : atHeight height done n = [] := by
          refine List.eq_nil_iff_forall_not_mem.2 fun s hs => ?_
          obtain ⟨hs, hsn⟩ := mem_atHeight.1 hs
          exact Nat.ne_of_lt (hdone s hs) hsn
        rw [hn, Nat.max_eq_right (Nat.le_succ n), List.range_succ, List.map_append,
          List.map_singleton, hnone]
    · next hn =>
        rw [Nat.max_eq_left (Nat.lt_of_le_of_ne ht hn)]
  have hlt : height t < max n (height t + 1) := Nat.lt_of_succ_le (Nat.le_max_right _ _)
  rw [putAtHeight, List.length_map, List.length_range, hopened]
  simp only [List.getElem?_map, List.getElem?_range hlt, Option.map_some]
  refine congrArg Except.ok (List.ext_getElem? fun i => ?_)
  by_cases hi : height t = i
  · subst hi
    simp [hlt, atHeight_concat]
  · by_cases hilt : i < max n (height t + 1) <;> simp [hi, hilt, atHeight_concat]

/-- **What is known of the table and the levels** when some nodes have been put. -/
structure Leveled (key : α → κ) (height : α → Nat) (done : List α)
    (heights : List (κ × Nat)) (levels : List (List α)) : Prop where
  lookup_eq : ∀ t ∈ done, heights.lookup (key t) = some (height t)
  lt_length_iff : ∀ h, h < levels.length ↔ ∃ t ∈ done, height t = h
  levels_eq : levels = (List.range levels.length).map (atHeight height done)

/-- **One node more.** -/
lemma Leveled.step (hheight : IsHeight below height) {done : List α} {heights : List (κ × Nat)}
    {levels : List (List α)} {t : α} (h : Leveled key height done heights levels)
    (hbelow : ∀ c ∈ below t, c ∈ done) (hkey : ∀ s ∈ done, key s = key t → height s = height t) :
    ∃ more, heightAbove key heights (below t) = .ok (height t) ∧
      putAtHeight (height t) t levels = .ok more ∧
      Leveled key height (done ++ [t]) ((key t, height t) :: heights) more := by
  obtain ⟨n, hn, hle⟩ := heightAbove_eq fun c hc => h.lookup_eq c (hbelow c hc)
  have hnt : n = height t := eq_of_forall_ge_iff fun m => (hle m).trans (hheight t m).symm
  have hdone : ∀ s ∈ done, height s < levels.length :=
    fun s hs => (h.lt_length_iff _).2 ⟨s, hs, rfl⟩
  have hnext : height t ≤ levels.length := (hheight t _).2 fun c hc => hdone c (hbelow c hc)
  have hput := putAtHeight_atHeight hdone hnext
  rw [← h.levels_eq] at hput
  refine ⟨_, hnt ▸ hn, hput, fun s hs => ?_, fun i => ?_, ?_⟩
  · by_cases hst : key s = key t
    · rw [hst, List.lookup_cons_self]
      rcases List.mem_append.1 hs with hs | hs
      · rw [hkey s hs hst]
      · rw [List.mem_singleton.1 hs]
    · rcases List.mem_append.1 hs with hs | hs
      · rw [List.lookup_cons, beq_false_of_ne hst]
        exact h.lookup_eq s hs
      · exact absurd (congrArg key (List.mem_singleton.1 hs)) hst
  · rw [List.length_map, List.length_range]
    constructor
    · intro hi
      by_cases hlow : i < levels.length
      · obtain ⟨s, hs, rfl⟩ := (h.lt_length_iff i).1 hlow
        exact ⟨s, List.mem_append_left _ hs, rfl⟩
      · exact ⟨t, by simp, by omega⟩
    · rintro ⟨s, hs, rfl⟩
      rcases List.mem_append.1 hs with hs | hs
      · exact Nat.lt_of_lt_of_le (hdone s hs) (Nat.le_max_left _ _)
      · rw [List.mem_singleton.1 hs]
        exact Nat.lt_of_succ_le (Nat.le_max_right _ _)
  · rw [List.length_map, List.length_range]

/-- **All nodes of a list.** -/
lemma Leveled.run (hheight : IsHeight below height) {order done : List α}
    {heights : List (κ × Nat)} {levels : List (List α)} (h : Leveled key height done heights levels)
    (hkey : ∀ s ∈ done ++ order, ∀ t ∈ done ++ order, key s = key t → height s = height t)
    (hs : IsSchedule below done (oneByOne order)) :
    ∃ heights' more, levelsFrom key below heights levels order = .ok more ∧
      Leveled key height (done ++ order) heights' more := by
  induction order generalizing done heights levels with
  | nil =>
      rw [List.append_nil]
      exact ⟨heights, levels, rfl, h⟩
  | cons t order ih =>
      obtain ⟨levels', habove, hput, hstep⟩ :=
        h.step hheight (hs.1 t (List.mem_singleton_self t))
        fun s hs => hkey s (List.mem_append_left _ hs) t (by simp)
      rw [List.append_cons] at hkey ⊢
      obtain ⟨heights', more, hmore, hrun⟩ := ih hstep hkey hs.2
      refine ⟨heights', more, ?_, hrun⟩
      rw [levelsFrom, habove, ok_bind, hput, ok_bind, hmore]

variable (key) in
/-- **The levels of nodes** that come children first, and are known well enough to have one height:
the nodes of height `0`, `1`, … up to the highest. -/
theorem levelsOf_eq (hheight : IsHeight below height) {order : List α}
    (hkey : ∀ s ∈ order, ∀ t ∈ order, key s = key t → height s = height t)
    (hs : IsSchedule below [] (oneByOne order)) :
    ∃ n, (∀ h, h < n ↔ ∃ t ∈ order, height t = h) ∧
      levelsOf key below order = .ok ((List.range n).map (atHeight height order)) := by
  have hstart : Leveled key height [] [] [] := ⟨by simp, by simp, rfl⟩
  obtain ⟨heights, levels, hlevels, h⟩ := hstart.run hheight hkey hs
  rw [List.nil_append] at h
  exact ⟨_, h.lt_length_iff, h.levels_eq ▸ hlevels⟩

/-- The levels up to a height have all nodes between them. -/
lemma flatten_atHeight_perm (order : List α) (n : Nat) :
    ((List.range n).map (atHeight height order)).flatten.Perm
      (order.filter fun t => height t < n) := by
  induction n with
  | zero => simp
  | succ n ih =>
      have hsplit := List.filter_append_perm (fun t => decide (height t < n))
        (order.filter fun t => height t < n + 1)
      have hlow : (order.filter fun t => height t < n + 1).filter (fun t => height t < n)
          = order.filter fun t => height t < n := by
        rw [List.filter_filter]
        refine List.filter_congr fun t _ => ?_
        rw [← Bool.decide_and, decide_eq_decide]
        omega
      have htop : (order.filter fun t => height t < n + 1).filter (fun t => !decide (height t < n))
          = atHeight height order n := by
        rw [List.filter_filter, atHeight]
        refine List.filter_congr fun t _ => ?_
        rw [← decide_not, ← Bool.decide_and, decide_eq_decide]
        omega
      rw [hlow, htop] at hsplit
      rw [List.range_succ, List.map_append, List.flatten_append, List.map_singleton,
        List.flatten_singleton]
      exact (ih.append_right _).trans hsplit

/-- Nodes at consecutive heights are a schedule once everything lower is done. -/
lemma isSchedule_atHeight (hheight : IsHeight below height) {order : List α}
    (hclosed : ∀ t ∈ order, ∀ c ∈ below t, c ∈ order) (n : Nat) :
    ∀ (k : Nat) (done : List α), (∀ t ∈ order, height t < k → t ∈ done) →
      IsSchedule below done ((List.range' k n).map (atHeight height order)) := by
  induction n with
  | zero => exact fun _ _ _ => trivial
  | succ n ih =>
      intro k done hlow
      rw [List.range'_succ, List.map_cons]
      refine ⟨fun t ht c hc => ?_, ih (k + 1) _ fun t ht hlt => ?_⟩
      · obtain ⟨hmem, rfl⟩ := mem_atHeight.1 ht
        exact hlow c (hclosed t hmem c hc) ((hheight t _).1 (Nat.le_refl _) c hc)
      · rcases Nat.lt_succ_iff_lt_or_eq.1 hlt with hlt | heq
        · exact List.mem_append_left _ (hlow t ht hlt)
        · exact List.mem_append_right _ (mem_atHeight.2 ⟨ht, heq⟩)

end General

/-! ## Levels of query trees -/

lemma isHeight_tree : IsHeight children QueryTree.height := by
  intro t n
  rw [height_eq]
  exact heightAll_le_iff

lemma isHeight_located : IsHeight Located.children fun o => o.tree.height := by
  intro o n
  rw [isHeight_tree, ← o.map_tree_children, List.forall_mem_map]

/-- **The levels of a tree** are its nodes of height `0`, `1`, … in post-order. -/
theorem heightLevels_eq (tree : QueryTree) :
    ∃ n, (∀ h, h < n ↔ ∃ t ∈ tree.postorder, t.height = h) ∧
      levelsOf id children tree.walk = .ok (heightLevels tree.walk) ∧
      heightLevels tree.walk = (List.range n).map (atHeight QueryTree.height tree.postorder) := by
  obtain ⟨n, hn, hlevels⟩ := levelsOf_eq id isHeight_tree
    (fun s _ t _ h => congrArg QueryTree.height h) (isSchedule_postorder tree)
  rw [← walk_eq_postorder] at hlevels
  rw [heightLevels, hlevels, walk_eq_postorder]
  exact ⟨n, hn, rfl, rfl⟩

/-- **The levels of a tree are a schedule.** -/
theorem isSchedule_heightLevels (tree : QueryTree) :
    IsSchedule children [] (heightLevels tree.walk) := by
  obtain ⟨n, -, -, heq⟩ := heightLevels_eq tree
  rw [heq, List.range_eq_range']
  refine isSchedule_atHeight isHeight_tree (fun t ht c hc => child_mem_postorder ht hc) n 0 [] ?_
  exact fun t _ hlt => absurd hlt (Nat.not_lt_zero _)

lemma mem_flatten_heightLevels {tree t : QueryTree} :
    t ∈ (heightLevels tree.walk).flatten ↔ t ∈ tree.postorder := by
  obtain ⟨n, hn, -, heq⟩ := heightLevels_eq tree
  rw [heq, (flatten_atHeight_perm _ n).mem_iff, List.mem_filter]
  constructor
  · exact fun ht => ht.1
  · exact fun ht => ⟨ht, decide_eq_true ((hn _).2 ⟨t, ht, rfl⟩)⟩

/-! ## Levels of nodes where they stand -/

/-- **Levels that can be gone through from the lowest on**: every node is in one of them and only
there, together with nodes that neither wait for it nor are waited for. -/
structure IsLeveling (order : List Located) (levels : List (List Located)) : Prop where
  /-- Every node is in one level. -/
  unique : ∀ o ∈ order, ∃! i : Nat, ∃ level, levels[i]? = some level ∧ o ∈ level
  /-- Together the levels have the nodes, as often as they are there. -/
  perm : levels.flatten.Perm order
  /-- Nodes of the same level keep their order. -/
  sublist : ∀ level ∈ levels, level.Sublist order
  /-- A node is in the level of its height. -/
  height_eq : ∀ (i : Nat) (level), levels[i]? = some level → ∀ o ∈ level, o.tree.height = i
  /-- No level is empty. -/
  ne_nil : ∀ level ∈ levels, level ≠ []
  /-- The children of a node are in lower levels. -/
  lower : ∀ (i : Nat) (level), levels[i]? = some level → ∀ o ∈ level, ∀ c ∈ o.children,
    ∃ j < i, ∃ level', levels[j]? = some level' ∧ c ∈ level'
  /-- No node is in the same level as one above it. -/
  apart : ∀ level ∈ levels, ∀ a ∈ level, ∀ o ∈ level, ¬ a.Above o

/-- The nodes of a tree by height are such levels. -/
lemma isLeveling_atHeight {t : QueryTree} {n : Nat}
    (hn : ∀ h, h < n ↔ ∃ o ∈ t.located, o.tree.height = h) :
    IsLeveling t.located
      ((List.range n).map (atHeight (fun o => o.tree.height) t.located)) := by
  have hlevel : ∀ {i level}, ((List.range n).map
      (atHeight (fun o => o.tree.height) t.located))[i]? = some level ↔
        i < n ∧ atHeight (fun o => o.tree.height) t.located i = level := by
    simp [List.getElem?_eq_some_iff]
  have hlt : ∀ {o}, o ∈ t.located → o.tree.height < n := fun ho => (hn _).2 ⟨_, ho, rfl⟩
  constructor
  case unique =>
    intro o ho
    refine ⟨o.tree.height,
      ⟨_, hlevel.2 ⟨hlt ho, rfl⟩, mem_atHeight.2 ⟨ho, rfl⟩⟩, ?_⟩
    rintro i ⟨level, hi, hmem⟩
    obtain ⟨-, rfl⟩ := hlevel.1 hi
    exact (mem_atHeight.1 hmem).2.symm
  case perm =>
    refine (flatten_atHeight_perm t.located n).trans (List.Perm.of_eq ?_)
    exact List.filter_eq_self.2 fun o ho => decide_eq_true (hlt ho)
  case sublist =>
    intro level hmem
    obtain ⟨h, -, rfl⟩ := List.mem_map.1 hmem
    exact List.filter_sublist
  case height_eq =>
    intro i level hi o ho
    obtain ⟨-, rfl⟩ := hlevel.1 hi
    exact (mem_atHeight.1 ho).2
  case ne_nil =>
    intro level hmem
    obtain ⟨h, hh, rfl⟩ := List.mem_map.1 hmem
    obtain ⟨o, ho, hoh⟩ := (hn h).1 (List.mem_range.1 hh)
    exact List.ne_nil_of_mem (mem_atHeight.2 ⟨ho, hoh⟩)
  case lower =>
    intro i level hi o ho c hc
    obtain ⟨-, rfl⟩ := hlevel.1 hi
    obtain ⟨hmem, rfl⟩ := mem_atHeight.1 ho
    have hmem := child_mem_located hmem hc
    exact ⟨c.tree.height, (isHeight_located o _).1 (Nat.le_refl _) c hc, _,
      hlevel.2 ⟨hlt hmem, rfl⟩, mem_atHeight.2 ⟨hmem, rfl⟩⟩
  case apart =>
    intro level hmem a ha o ho habove
    obtain ⟨h, -, rfl⟩ := List.mem_map.1 hmem
    obtain ⟨ha, hah⟩ := mem_atHeight.1 ha
    obtain ⟨ho, hoh⟩ := mem_atHeight.1 ho
    exact Nat.ne_of_lt (height_lt_of_above ha ho habove) (hoh.trans hah.symm)

/-- Where the nodes stand does not matter for their levels. -/
lemma map_tree_atHeight (t : QueryTree) (h : Nat) :
    (atHeight (fun o => o.tree.height) t.located h).map Located.tree
      = atHeight QueryTree.height t.postorder h := by
  rw [← map_tree_located, atHeight, atHeight, List.filter_map]
  rfl

/-- **The levels of a tree.**  Every node finds the heights of its children in the table, and the
level of its own height is there or can be opened.  In the end every node is in one level, in
post-order with the others of the level; no level is empty; children are in lower levels than their
parents; and nodes of one level are not above one another.  Nodes are known here by where they
stand.  Known by what they are, as an evaluation knows them, they come to the same levels. -/
theorem levelsOf_located (t : QueryTree) :
    ∃ levels, levelsOf Located.address Located.children t.located = .ok levels ∧
      IsLeveling t.located levels ∧
      t.walk = t.located.map Located.tree ∧
      levelsOf id QueryTree.children t.walk = .ok (heightLevels t.walk) ∧
      heightLevels t.walk = levels.map (List.map Located.tree) := by
  have hkey : ∀ o ∈ t.located, ∀ o' ∈ t.located, o.address = o'.address →
      o.tree.height = o'.tree.height := by
    intro o ho o' ho' h
    rw [List.inj_on_of_nodup_map t.nodup_located ho ho' h]
  obtain ⟨n, hn, hlevels⟩ :=
    levelsOf_eq Located.address isHeight_located hkey (isSchedule_located ⟨[], t⟩ [])
  obtain ⟨m, hm, hknown, heq⟩ := heightLevels_eq t
  have hnm : n = m := by
    refine eq_of_forall_lt_iff fun h => ?_
    rw [hn, hm, ← map_tree_located]
    simp
  refine ⟨_, hlevels, isLeveling_atHeight hn, ?_, hknown, ?_⟩
  · rw [walk_eq_postorder, map_tree_located]
  · rw [heq, hnm, List.map_map]
    exact List.map_congr_left fun h _ => (map_tree_atHeight t h).symm

end Crosswalk
