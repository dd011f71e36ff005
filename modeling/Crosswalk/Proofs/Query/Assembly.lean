import Crosswalk.Proofs.Query.Unfolding
import Crosswalk.Proofs.Sequence

/-!
# Assembling the tree of a query document

A tree is assembled with a stack of nodes that wait for children.  At every moment the stack leads
from the root to the reference that comes next: what is in front of it has a place already, and no
other label has one.

* `placed` — the labels that have a place.
* `Leads` — the nodes on the stack lead to an address.
* `Building` — **the invariant**; `Building.push` and `Building.pop` are the two steps.
* `assemble_spec` — **a whole run.**
* **`ofDocument_eq_iff`** — what is accepted, what comes of it, and what is refused.
-/

namespace Crosswalk

namespace QueryTree

/-! ## Descriptions -/

lemma byLabel_eq_self {specs : List NodeSpec} (hd : (specs.map fun spec => spec.label).Nodup) :
    byLabel specs = specs := by
  have fold : ∀ specs kept : List NodeSpec,
      ((kept ++ specs).map fun spec => spec.label).Nodup →
      specs.foldl (fun kept spec =>
        if kept.any (·.label = spec.label) then
          kept.map fun s => if s.label = spec.label then spec else s
        else kept ++ [spec]) kept = kept ++ specs := by
    intro specs
    induction specs with
    | nil => exact fun kept _ => (List.append_nil kept).symm
    | cons spec specs ih =>
        intro kept h
        have hnew : ¬ kept.any (·.label = spec.label) := by
          rw [List.map_append, List.map_cons] at h
          simp only [List.any_eq_true, decide_eq_true_eq, not_exists, not_and]
          exact fun s hs heq => (List.nodup_append.1 h).2.2 _ (List.mem_map_of_mem hs) _
            List.mem_cons_self heq
        rw [List.foldl_cons, if_neg hnew, ih, List.append_assoc, List.singleton_append]
        rw [List.append_assoc, List.singleton_append]
        exact h
  exact fold specs [] hd

lemma take_eq_none {label : String} {specs : List NodeSpec} (h : take label specs = none) :
    ∀ spec ∈ specs, spec.label ≠ label := by
  induction specs with
  | nil => exact fun spec hspec => absurd hspec List.not_mem_nil
  | cons s specs ih =>
      rw [take] at h
      split at h
      · cases h
      · next hne =>
          intro spec hspec
          rcases List.mem_cons.1 hspec with rfl | hspec
          · exact hne
          · exact ih (Option.map_eq_none_iff.1 h) spec hspec

/-- A description that is taken was there, and the others stay. -/
lemma take_eq_some {label : String} {specs rest : List NodeSpec} {spec : NodeSpec}
    (h : take label specs = some (spec, rest)) :
    spec.label = label ∧ specs.Perm (spec :: rest) := by
  induction specs generalizing rest with
  | nil => cases h
  | cons s specs ih =>
      rw [take] at h
      split at h
      · next heq =>
          cases h
          exact ⟨heq, List.Perm.refl _⟩
      · obtain ⟨⟨found, others⟩, hothers, heq⟩ := Option.map_eq_some_iff.1 h
        cases heq
        obtain ⟨hlabel, hperm⟩ := ih hothers
        exact ⟨hlabel, (hperm.cons s).trans (List.Perm.swap _ _ _)⟩

/-! ## The invariant -/

/-- **The labels that have a place**: those of nodes on the stack, and of the trees below them. -/
def placed (branches : List Branch) : List String :=
  branches.flatMap fun b => b.own.label :: b.built.flatMap labels

/-- A node that is being built as the document describes it; a child may be in the making. -/
def Branch.Stands (d : QueryDocument) (most : Nat) (making : List String) (b : Branch) : Prop :=
  (∃ spec ∈ d.nodes, b.own = spec.toQueryNode ∧
    spec.children = b.built.map QueryTree.label ++ (making ++ b.awaited)) ∧
  ∀ t ∈ b.built, Unfolds d t ∧ b.depth + t.height < most

/-- **The nodes above a label lead to an address**: each of them is making the child below it. -/
inductive Leads (d : QueryDocument) (most : Nat) :
    List Branch → String → List Nat → Prop where
  | root : Leads d most [] d.root []
  | down {above : List Branch} {b : Branch} {label : String} {a : List Nat}
      (leads : Leads d most above b.own.label a) (stands : b.Stands d most [label])
      (depth : b.depth = a.length + 1) : Leads d most (b :: above) label (a ++ [b.built.length])

/-- **What holds at every moment.**  The node at the top of the stack has an address; descriptions
are left for the labels without a place; and the references in front of the next one are those that
have a place, and all of them could have one. -/
structure Building (d : QueryDocument) (most : Nat) (a : List Nat) (pending : List NodeSpec)
    (top : Branch) (above : List Branch) : Prop where
  leads : Leads d most above top.own.label a
  stands : top.Stands d most []
  depth : top.depth = a.length + 1
  bounded : top.depth ≤ most
  left : pending ⊆ d.nodes
  labels : (placed (top :: above) ++ pending.map fun spec => spec.label).Perm
    (d.nodes.map fun spec => spec.label)
  front : ∀ l, l ∈ placed (top :: above) ↔
    ∃ b < a ++ [top.built.length], d.labelAt d.root b = some l
  clear : ∀ b < a ++ [top.built.length], ∀ problem, ¬ d.Refused most b problem

section Distinct

variable {d : QueryDocument} (hd : (d.nodes.map fun spec => spec.label).Nodup) {most : Nat}
include hd

lemma Branch.Stands.below_eq {making : List String} {b : Branch} (h : b.Stands d most making) :
    d.below b.own.label = b.built.map QueryTree.label ++ (making ++ b.awaited) := by
  obtain ⟨⟨spec, hspec, hown, hchildren⟩, -⟩ := h
  rw [hown, Crosswalk.below_eq hd hspec, hchildren]

lemma Leads.labelAt_eq {above : List Branch} {label : String} {a : List Nat}
    (h : Leads d most above label a) : d.labelAt d.root a = some label := by
  induction h with
  | root => rfl
  | down _ stands _ ih =>
      rw [QueryDocument.labelAt_concat ih, stands.below_eq hd]
      simp

lemma Building.next_eq {a : List Nat} {pending : List NodeSpec} {top : Branch}
    {above : List Branch} {label : String} {labels : List String}
    (h : Building d most a pending top above) (hawaited : top.awaited = label :: labels) :
    d.labelAt d.root (a ++ [top.built.length]) = some label := by
  rw [QueryDocument.labelAt_concat (h.leads.labelAt_eq hd), h.stands.below_eq hd, hawaited]
  simp

/-- **A label has a place, or its description is left.** -/
lemma Building.mem_placed_iff {a : List Nat} {pending : List NodeSpec} {top : Branch}
    {above : List Branch} {spec : NodeSpec} (h : Building d most a pending top above)
    (hspec : spec ∈ d.nodes) : spec.label ∈ placed (top :: above) ↔ spec ∉ pending := by
  have hnodup := h.labels.nodup_iff.2 hd
  constructor
  · intro hplaced hpending
    exact (List.nodup_append.1 hnodup).2.2 _ hplaced _ (List.mem_map_of_mem hpending) rfl
  · intro hgone
    have hmem := h.labels.mem_iff.2 (List.mem_map_of_mem hspec)
    refine (List.mem_append.1 hmem).resolve_right fun hleft => hgone ?_
    obtain ⟨other, hother, heq⟩ := List.mem_map.1 hleft
    rwa [← List.inj_on_of_nodup_map hd (h.left hother) hspec heq]

/-! ## Steps -/

omit hd in
lemma placed_cons (b : Branch) (branches : List Branch) :
    placed (b :: branches) = (b.own.label :: b.built.flatMap QueryTree.labels) ++ placed branches :=
  List.flatMap_cons

/-- **A description is taken**, and its node comes to the top. -/
theorem Building.push {a : List Nat} {pending rest : List NodeSpec} {top : Branch}
    {above : List Branch} {label : String} {labels : List String} {spec : NodeSpec}
    (h : Building d most a pending top above) (hawaited : top.awaited = label :: labels)
    (htake : take label pending = some (spec, rest)) (hdepth : ¬ most ≤ top.depth) :
    Building d most (a ++ [top.built.length]) rest (.ofSpec (top.depth + 1) spec)
      ({ top with awaited := labels } :: above) := by
  obtain ⟨rfl, hperm⟩ := take_eq_some htake
  have hpending : spec ∈ pending := hperm.mem_iff.2 List.mem_cons_self
  have hspec : spec ∈ d.nodes := h.left hpending
  have hnext := h.next_eq hd hawaited
  have hfree : spec.label ∉ placed (top :: above) := fun hplaced =>
    (h.mem_placed_iff hd hspec).1 hplaced hpending
  have hplaced : placed (.ofSpec (top.depth + 1) spec :: { top with awaited := labels } :: above)
      = spec.label :: placed (top :: above) := rfl
  have hstands : Branch.Stands d most [spec.label] { top with awaited := labels } := by
    obtain ⟨⟨own, hown, heq, hchildren⟩, hbuilt⟩ := h.stands
    rw [hawaited] at hchildren
    exact ⟨⟨own, hown, heq, hchildren⟩, hbuilt⟩
  refine ⟨Leads.down (b := { top with awaited := labels }) h.leads hstands h.depth, ?_, ?_, ?_,
    ?_, ?_, fun l => ?_, fun b hb problem hrefused => ?_⟩
  · exact ⟨⟨spec, hspec, rfl, rfl⟩, fun t ht => absurd ht List.not_mem_nil⟩
  · rw [List.length_append, List.length_singleton, ← h.depth]
    rfl
  · exact Nat.lt_of_not_le hdepth
  · exact fun s hs => h.left (hperm.mem_iff.2 (List.mem_cons_of_mem _ hs))
  · rw [hplaced, List.cons_append]
    refine List.Perm.trans ?_ h.labels
    have hlabels := (hperm.map fun spec => spec.label).symm
    exact List.perm_middle.symm.trans (hlabels.append_left _)
  · have hbuilt : (Branch.ofSpec (top.depth + 1) spec).built.length = 0 := rfl
    simp only [hplaced, hbuilt, lt_concat_zero_iff, List.mem_cons, h.front, or_and_right, exists_or,
      exists_eq_left, hnext, Option.some_inj]
    rw [or_comm, eq_comm]
  · -- the reference that was next is the only one more that is in front now
    rcases lt_concat_zero_iff.1 hb with hb | rfl
    · exact h.clear b hb problem hrefused
    · cases hrefused with
      | missing _ _ here gone =>
          obtain rfl := Option.some_inj.1 (hnext.symm.trans here)
          rcases gone with hnone | hearlier
          · rw [(spec?_eq_some_iff hd).2 ⟨hspec, rfl⟩] at hnone
            cases hnone
          · exact hfree ((h.front _).2 hearlier)
      | deep _ _ _ _ tooDeep =>
          rw [List.length_append, List.length_singleton, ← h.depth] at tooDeep
          exact hdepth tooDeep

omit hd in
/-- The tree of a node that awaits nothing. -/
lemma Branch.Stands.unfolds {top : Branch} (h : top.Stands d most []) (hawaited : top.awaited = [])
    (hbounded : top.depth ≤ most) :
    Unfolds d (.node top.own top.built) ∧
      top.depth + (node top.own top.built).height ≤ most := by
  obtain ⟨⟨spec, hspec, hown, hchildren⟩, hbuilt⟩ := h
  refine ⟨unfolds_node.2 ⟨⟨spec, hspec, hown, ?_⟩, fun t ht => (hbuilt t ht).1⟩, ?_⟩
  · rw [hchildren, hawaited]
    simp
  · have hheight : (node top.own top.built).height ≤ most - top.depth := by
      refine height_le fun c hc => ?_
      have hlt := (hbuilt c hc).2
      omega
    omega

/-- **A tree is put below the node above it.** -/
theorem Building.pop {a : List Nat} {pending : List NodeSpec} {top b : Branch} {above : List Branch}
    (h : Building d most a pending top (b :: above)) (hawaited : top.awaited = []) :
    ∃ a', Building d most a' pending (b.put (.node top.own top.built)) above := by
  have hhere := h.leads.labelAt_eq hd
  have hbelow : (d.below top.own.label).length = top.built.length := by
    rw [h.stands.below_eq hd, hawaited]
    simp
  obtain ⟨hunfolds, hheight⟩ := h.stands.unfolds hawaited h.bounded
  have hperm : (placed (b.put (.node top.own top.built) :: above)).Perm
      (placed (top :: b :: above)) := by
    rw [placed_cons, placed_cons, placed_cons, Branch.put, List.flatMap_append,
      List.flatMap_singleton, labels_node, ← List.cons_append, ← List.append_assoc]
    exact List.perm_append_comm.append_right _
  obtain ⟨leads, stands, depth, bounded, left, hlabels, hfront, hclear⟩ := h
  cases leads with
  | @down _ _ _ a leads hb hbdepth =>
      -- no reference is between the two moments: the children of the tree are all described
      have hlt : ∀ {x : List Nat} {l : String}, d.labelAt d.root x = some l →
          (x < a ++ [b.built.length + 1] ↔ x < a ++ [b.built.length] ++ [top.built.length]) := by
        intro x l hx
        rw [lt_concat_succ_iff, ← hbelow]
        exact (QueryDocument.lt_concat_length_iff hhere hx).symm
      rw [List.length_append, List.length_singleton] at depth
      refine ⟨a, leads, ⟨?_, fun t ht => ?_⟩, hbdepth, ?_, left, ?_, fun l => ?_,
        fun x hx problem hrefused => ?_⟩
      · obtain ⟨⟨spec, hspec, hown, hchildren⟩, -⟩ := hb
        refine ⟨spec, hspec, hown, ?_⟩
        rw [hchildren]
        simp [Branch.put]
      · rcases List.mem_append.1 ht with ht | ht
        · exact hb.2 t ht
        · rw [List.mem_singleton.1 ht]
          refine ⟨hunfolds, ?_⟩
          show b.depth + _ < most
          omega
      · show b.depth ≤ most
        omega
      · exact (hperm.append_right _).trans hlabels
      · rw [hperm.mem_iff, hfront]
        have hbuilt : (b.put (.node top.own top.built)).built.length = b.built.length + 1 := by
          simp [Branch.put]
        rw [hbuilt]
        exact exists_congr fun x => and_congr_left fun hx => (hlt hx).symm
      · have hbuilt : (b.put (.node top.own top.built)).built.length = b.built.length + 1 := by
          simp [Branch.put]
        rw [hbuilt, hlt hrefused.label_eq] at hx
        exact hclear x hx problem hrefused

/-! ## Runs -/

omit hd in
lemma Leads.label_eq_root {label : String} {a : List Nat} (h : Leads d most [] label a) :
    label = d.root := by
  cases h
  rfl

omit hd in
/-- **The first step** takes the description of the root. -/
lemma Building.start {spec : NodeSpec} {pending : List NodeSpec} (hmost : 1 ≤ most)
    (htake : take d.root d.nodes = some (spec, pending)) :
    Building d most [] pending (.ofSpec 1 spec) [] := by
  obtain ⟨hroot, hperm⟩ := take_eq_some htake
  have hspec : spec ∈ d.nodes := hperm.mem_iff.2 List.mem_cons_self
  have hlt : ∀ b : List Nat, b < [] ++ [0] ↔ b = [] := by
    intro b
    rw [lt_concat_zero_iff]
    simp
  have hplaced : placed [.ofSpec 1 spec] = [spec.label] := rfl
  refine ⟨hroot ▸ .root,
    ⟨⟨spec, hspec, rfl, rfl⟩, fun t ht => absurd ht List.not_mem_nil⟩, rfl, hmost,
    fun s hs => hperm.mem_iff.2 (List.mem_cons_of_mem _ hs), ?_, fun l => ?_,
    fun b hb problem hrefused => ?_⟩
  · exact (hperm.map fun spec => spec.label).symm
  · have hbuilt : (Branch.ofSpec 1 spec).built.length = 0 := rfl
    rw [hplaced, hbuilt]
    simp only [hlt, exists_eq_left, QueryDocument.labelAt, Option.some_inj, List.mem_singleton,
      hroot, eq_comm]
  · rw [(hlt b).1 hb] at hrefused
    cases hrefused with
    | missing child _ _ _ => exact child rfl
    | deep child _ _ _ _ => exact child rfl

/-- **The last step** leaves the unfolding of the document. -/
lemma Building.done {a : List Nat} {pending : List NodeSpec} {top : Branch}
    (h : Building d most a pending top []) (hawaited : top.awaited = []) :
    Unfolds d (.node top.own top.built) ∧ top.own.label = d.root ∧
      (node top.own top.built).labels.Nodup ∧ (node top.own top.built).height < most := by
  obtain ⟨hunfolds, hheight⟩ := h.stands.unfolds hawaited h.bounded
  have hnodup := (h.labels.nodup_iff.2 hd).of_append_left
  have hdepth := h.depth
  refine ⟨hunfolds, h.leads.label_eq_root, ?_, ?_⟩
  · rw [labels_node]
    simpa [placed] using hnodup
  · omega

/-- **A label without a description that is left** has none at all, or has a place. -/
lemma Building.missing {a : List Nat} {pending : List NodeSpec} {top : Branch}
    {above : List Branch} {label : String} {labels : List String}
    (h : Building d most a pending top above) (hawaited : top.awaited = label :: labels)
    (htake : take label pending = none) :
    d.FirstRefused most (a ++ [top.built.length]) (.childWithoutNode label top.own.label) := by
  refine ⟨.missing (by simp) ?_ (h.next_eq hd hawaited) ?_, h.clear⟩
  · rw [List.dropLast_concat]
    exact h.leads.labelAt_eq hd
  · cases hfind : d.spec? label with
    | none => exact Or.inl rfl
    | some spec =>
        obtain ⟨hspec, rfl⟩ := (spec?_eq_some_iff hd).1 hfind
        refine Or.inr ((h.front _).1 ((h.mem_placed_iff hd hspec).2 fun hpending => ?_))
        exact take_eq_none htake spec hpending rfl

/-- A label that has a description left can have a place, unless it is too deep. -/
lemma Building.deep {a : List Nat} {pending rest : List NodeSpec} {top : Branch}
    {above : List Branch} {label : String} {labels : List String} {spec : NodeSpec}
    (h : Building d most a pending top above) (hawaited : top.awaited = label :: labels)
    (htake : take label pending = some (spec, rest)) (hdepth : most ≤ top.depth) :
    d.FirstRefused most (a ++ [top.built.length]) (.tooDeep label most) := by
  obtain ⟨rfl, hperm⟩ := take_eq_some htake
  have hpending : spec ∈ pending := hperm.mem_iff.2 List.mem_cons_self
  have hspec : spec ∈ d.nodes := h.left hpending
  refine ⟨.deep (by simp) (h.next_eq hd hawaited) ?_ (fun b hb hlabel => ?_) ?_, h.clear⟩
  · rw [(spec?_eq_some_iff hd).2 ⟨hspec, rfl⟩]
    exact Option.some_ne_none _
  · exact (h.mem_placed_iff hd hspec).1 ((h.front _).2 ⟨b, hb, hlabel⟩) hpending
  · rw [List.length_append, List.length_singleton, ← h.depth]
    exact hdepth

/-- **What a run may come to**: the unfolding of the document, or the first reference without a
place. -/
def Assembled (d : QueryDocument) (most : Nat) : Except Error (QueryTree × List NodeSpec) → Prop
  | .ok (t, _) => Unfolds d t ∧ t.label = d.root ∧ t.labels.Nodup ∧ t.height < most
  | .error e => ∃ a problem, e = .schema problem ∧ d.FirstRefused most a problem

/-- **A whole run.** -/
theorem assemble_spec {a : List Nat} {pending : List NodeSpec} {top : Branch}
    {above : List Branch} (h : Building d most a pending top above) :
    Assembled d most (assemble most pending top above) := by
  fun_induction assemble most pending top above generalizing a with
  | case1 pending top hawaited => exact h.done hd hawaited
  | case2 pending top hawaited b above ih =>
      obtain ⟨a', h'⟩ := h.pop hd hawaited
      exact ih h'
  | case3 pending top above label labels hawaited htake =>
      exact ⟨_, _, rfl, h.missing hd hawaited htake⟩
  | case4 pending top above label labels hawaited spec rest htake _ hdepth =>
      exact ⟨_, _, rfl, h.deep hd hawaited htake hdepth⟩
  | case5 pending top above label labels hawaited spec rest htake _ hdepth ih =>
      exact ih (h.push hd hawaited htake hdepth)

/-- **What a document comes to**: it has no root, or an unfolding that is a tree, or a first
reference without a place. -/
lemma ofDocument_cases (hmost : 1 ≤ most) :
    (d.spec? d.root = none ∧ ofDocument most d = .error (.schema (.rootWithoutNode d.root))) ∨
      d.spec? d.root ≠ none ∧
        ((∃ t, ofDocument most d = .ok t ∧
            Unfolds d t ∧ t.label = d.root ∧ t.labels.Nodup ∧ t.height < most) ∨
          ∃ a problem, ofDocument most d = .error (.schema problem) ∧
            d.FirstRefused most a problem) := by
  rw [ofDocument, build, byLabel_eq_self hd]
  cases htake : take d.root d.nodes with
  | none =>
      refine Or.inl ⟨List.find?_eq_none.2 fun spec hspec => ?_, rfl⟩
      simpa using take_eq_none htake spec hspec
  | some found =>
      obtain ⟨spec, pending⟩ := found
      obtain ⟨hroot, hperm⟩ := take_eq_some htake
      have hspec : d.spec? d.root = some spec :=
        (spec?_eq_some_iff hd).2 ⟨hperm.mem_iff.2 List.mem_cons_self, hroot⟩
      have hrun := assemble_spec hd (.start hmost htake)
      refine Or.inr ⟨by simp [hspec], ?_⟩
      simp only
      cases hresult : assemble most pending (.ofSpec 1 spec) [] with
      | ok built =>
          rw [hresult] at hrun
          exact Or.inl ⟨built.1, rfl, hrun⟩
      | error e =>
          rw [hresult] at hrun
          obtain ⟨a, problem, rfl, hfirst⟩ := hrun
          exact Or.inr ⟨a, problem, rfl, hfirst⟩

lemma unfolds_of_ofDocument {t : QueryTree} (hmost : 1 ≤ most) (h : ofDocument most d = .ok t) :
    Unfolds d t ∧ t.label = d.root ∧ t.labels.Nodup ∧ t.height < most := by
  rcases ofDocument_cases hd hmost with
    ⟨-, he⟩ | ⟨-, ⟨t', hok, htree⟩ | ⟨a, problem, he, -⟩⟩
  · rw [h] at he
    cases he
  · rw [h, Except.ok.injEq] at hok
    exact hok ▸ htree
  · rw [h] at he
    cases he

lemma ofDocument_of_unfolds {t : QueryTree} (hmost : 1 ≤ most) (h : Unfolds d t)
    (hroot : t.label = d.root) (hnodup : t.labels.Nodup) (hheight : t.height < most) :
    ofDocument most d = .ok t := by
  rcases ofDocument_cases hd hmost with
    ⟨hnone, -⟩ | ⟨-, ⟨t', hok, h', hroot', -⟩ | ⟨a, problem, -, hfirst⟩⟩
  · obtain ⟨spec, hspec, hown, -⟩ := h t (self_mem_postorder t)
    rw [← hroot, label, hown, (spec?_eq_some_iff hd).2 ⟨hspec, rfl⟩] at hnone
    cases hnone
  · rw [hok, h.eq_of_label_eq hd h' (hroot.trans hroot'.symm)]
  · exact absurd hfirst.1 (h.not_refused hd hroot hnodup hheight a problem)

/-- The first reference without a place is what a document is refused for. -/
lemma ofDocument_of_firstRefused {a : List Nat} {problem : SchemaProblem} (hmost : 1 ≤ most)
    (hknown : d.spec? d.root ≠ none) (hfirst : d.FirstRefused most a problem) :
    ofDocument most d = .error (.schema problem) := by
  rcases ofDocument_cases hd hmost with
    ⟨hnone, -⟩ | ⟨-, ⟨t, -, h, hroot, hnodup, hheight⟩ | ⟨b, other, he, hfirst'⟩⟩
  · exact absurd hnone hknown
  · exact absurd hfirst.1 (h.not_refused hd hroot hnodup hheight a problem)
  · rw [he, hfirst.unique hfirst']

/-- **What is accepted, and what comes of it.**  The tree of a document is its unfolding from the
root, if that is a tree with distinct labels that is not too high, and has a node for every label
that the root leads to.  Any other document is refused: for its root if that has no description, and
else for the first reference, in document order, that has no description, has a place already or is
too deep. -/
theorem ofDocument_eq_iff (hmost : 1 ≤ most) :
    (∀ t, ofDocument most d = .ok t ↔
      Unfolds d t ∧ t.label = d.root ∧ t.labels.Nodup ∧ t.height + 1 ≤ most) ∧
    (∀ t, ofDocument most d = .ok t → t.nodeCount = {l | d.Reachable l}.ncard) ∧
    ∀ e, ofDocument most d = .error e ↔
      (d.spec? d.root = none ∧ e = .schema (.rootWithoutNode d.root)) ∨
      (d.spec? d.root ≠ none ∧ ∃ a problem, d.FirstRefused most a problem ∧
        d.labelAt d.root a = some problem.label ∧ e = .schema problem) := by
  refine ⟨fun t => ⟨unfolds_of_ofDocument hd hmost, ?_⟩, fun t hok => ?_,
    fun e => ⟨fun he => ?_, ?_⟩⟩
  · rintro ⟨h, hroot, hnodup, hheight⟩
    exact ofDocument_of_unfolds hd hmost h hroot hnodup hheight
  · obtain ⟨h, hroot, hnodup, -⟩ := unfolds_of_ofDocument hd hmost hok
    exact h.nodeCount_eq hd hroot hnodup
  · rcases ofDocument_cases hd hmost with
      ⟨hnone, he'⟩ | ⟨hknown, ⟨t, hok, -⟩ | ⟨a, problem, he', hfirst⟩⟩
    · rw [he, Except.error.injEq] at he'
      exact Or.inl ⟨hnone, he'⟩
    · rw [he] at hok
      cases hok
    · rw [he, Except.error.injEq] at he'
      exact Or.inr ⟨hknown, a, problem, hfirst, hfirst.1.label_eq, he'⟩
  · rintro (⟨hnone, rfl⟩ | ⟨hknown, a, problem, hfirst, -, rfl⟩)
    · rcases ofDocument_cases hd hmost with ⟨-, he⟩ | ⟨hknown, -⟩
      · exact he
      · exact absurd hnone hknown
    · exact ofDocument_of_firstRefused hd hmost hknown hfirst

end Distinct

/-- A document with branches of different depths, and with a label that nothing leads to. -/
def regionDocument : QueryDocument where
  root := "R"
  nodes :=
    [{ name := "Item", label := "I" },
      { name := "Region", label := "R", output := true, children := ["C", "S"] },
      { name := "Shop", label := "S", children := ["I"] },
      { name := "Unused", label := "U", children := ["R"] },
      { name := "City", label := "C", steps := [.aggregate .count] }]

/-- The tree of the document. -/
def regionTree : QueryTree :=
  .node { name := "Region", label := "R", output := true }
    [.node { name := "City", label := "C", steps := [.aggregate .count] } [],
      .node { name := "Shop", label := "S" } [.node { name := "Item", label := "I" } []]]

/-- Three levels are enough for the document. -/
theorem ofDocument_regionDocument :
    (regionDocument.nodes.map fun spec => spec.label).Nodup ∧ 1 ≤ 3 ∧
      ofDocument 3 regionDocument = .ok regionTree ∧
      regionTree.nodeCount = {l | regionDocument.Reachable l}.ncard := by
  have hd : (regionDocument.nodes.map fun spec => spec.label).Nodup := by decide
  obtain ⟨haccept, hcount, -⟩ := ofDocument_eq_iff hd (by decide : 1 ≤ 3)
  have htree : ofDocument 3 regionDocument = .ok regionTree := by
    refine (haccept regionTree).2 ⟨?_, rfl, by decide, by decide⟩
    unfold Unfolds
    decide
  exact ⟨hd, by decide, htree, hcount regionTree htree⟩

end QueryTree

end Crosswalk
