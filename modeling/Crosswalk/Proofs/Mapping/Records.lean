import Crosswalk.Proofs.Mapping.Changes

/-!
# Records in a mapping graph

Putting a record into a graph is five changes in a row.  A record that is there already changes
nothing, and it stays there whatever records follow.  If only some of the five changes are made, and
all records are put into the graph once more from the first one on, the graph is the one that it
would have been.

* `Graph.withRecord`, `Graph.withRecords` — **the graph with records.**
* `Graph.Settled` — a record is there, with its join and the right flags.
* `Graph.Alike` — the same graph but for the order of the nodes.
* `Graph.Stopped` — what putting a record into a graph may stop at.
* **`Graph.Stopped.withRecords_alike`** — what the records come to from there.
-/

namespace Crosswalk

namespace Graph

variable {g g' : Graph} {name other description head tail : String} {j : Joining}

/-- The graph with both attributes of a record. -/
def withEnds (r : MappingRecord) (g : Graph) : Graph :=
  (g.withAttribute r.head.name r.head.description).withAttribute r.tail.name r.tail.description

/-- The graph with both attributes of a record, and its join. -/
def withLink (r : MappingRecord) (g : Graph) : Graph :=
  (g.withEnds r).withJoin r.head.name r.tail.name r.toJoining

/-- **The graph with a record**: its attributes, its join and their primary flags. -/
def withRecord (r : MappingRecord) (g : Graph) : Graph :=
  ((g.withLink r).withFlag r.head.name).withFlag r.tail.name

/-- **The graph with records**, one after the other. -/
def withRecords (rs : List MappingRecord) (g : Graph) : Graph :=
  rs.foldl (fun g r => g.withRecord r) g

lemma Regular.withRecord {r : MappingRecord} (hg : g.Regular) : (g.withRecord r).Regular :=
  hg.withAttribute.withAttribute.withJoin.withFlag.withFlag

lemma Regular.withRecords {rs : List MappingRecord} (hg : g.Regular) :
    (g.withRecords rs).Regular := by
  induction rs generalizing g with
  | nil => exact hg
  | cons r rs ih => exact ih hg.withRecord

/-- The primary flag of an attribute is right. -/
def Flagged (g : Graph) (name : String) : Prop :=
  ∀ n ∈ g.nodes, n.id = .text name → n.flag.equals (.bool (1 < g.degree name))

/-! ## Nodes, joins and flags behind a change -/

lemma hasNode_withAttribute :
    (g.withAttribute name description).hasNode (.text other)
      ↔ other = name ∨ g.hasNode (.text other) := by
  rw [withAttribute]
  split
  · next h => exact ⟨Or.inr, fun ho => ho.elim (fun heq => heq ▸ h) id⟩
  · simp only [hasNode_iff, List.mem_append, List.mem_singleton, Attribute.node]
    constructor
    · rintro ⟨n, hn | rfl, hname⟩
      · exact Or.inr ⟨n, hn, hname⟩
      · exact Or.inl (by simpa using hname.symm)
    · rintro (rfl | ⟨n, hn, hname⟩)
      · exact ⟨_, Or.inr rfl, rfl⟩
      · exact ⟨n, Or.inl hn, hname⟩

@[simp] lemma hasNode_withJoin :
    (g.withJoin head tail j).hasNode (.text other) = g.hasNode (.text other) := by
  simp [hasNode, node?]

@[simp] lemma hasNode_withFlag :
    (g.withFlag name).hasNode (.text other) = g.hasNode (.text other) := by
  rw [Bool.eq_iff_iff, hasNode_iff, hasNode_iff]
  simp [withFlag]

lemma withAttribute_of_hasNode (h : g.hasNode (.text name)) :
    g.withAttribute name description = g :=
  if_pos h

lemma withAttribute_of_not_hasNode (h : ¬ g.hasNode (.text name)) :
    g.withAttribute name description
      = { g with nodes := g.nodes ++ [Attribute.node { name, description }] } :=
  if_neg h

lemma degree_withJoin (h : other ≠ head) :
    (g.withJoin head tail j).degree other = g.degree other := by
  rw [withJoin]
  split
  · rfl
  · simp [degree, JoinEdge.edge, Ne.symm h]

@[simp] lemma edgesBetween_withAttribute (a b : Json) :
    (g.withAttribute name description).edgesBetween a b = g.edgesBetween a b := by
  rw [withAttribute]
  split <;> rfl

@[simp] lemma knows_withAttribute :
    (g.withAttribute name description).knows head tail j = g.knows head tail j := by
  simp [knows]

@[simp] lemma knows_withFlag : (g.withFlag name).knows head tail j = g.knows head tail j := rfl

lemma knows_withJoin {a b : String} {k : Joining} (h : g.knows a b k) :
    (g.withJoin head tail j).knows a b k := by
  rw [withJoin]
  split
  · exact h
  · obtain ⟨e, he, hholds⟩ := List.any_eq_true.1 h
    obtain ⟨hmem, hjoins⟩ := List.mem_filter.1 he
    exact List.any_eq_true.2
      ⟨e, List.mem_filter.2 ⟨List.mem_append_left _ hmem, hjoins⟩, hholds⟩

lemma edge_holds (j : JoinEdge) (key : Json) : (j.edge key).holds j.toJoining := by
  simp [Edge.holds, JoinEdge.edge, MemoryStore.joiningData, List.lookup_cons]

lemma knows_withJoin_self : (g.withJoin head tail j).knows head tail j := by
  rw [withJoin]
  split
  · assumption
  · refine List.any_eq_true.2
      ⟨_, List.mem_filter.2 ⟨List.mem_append_right _ (List.mem_singleton_self _), ?_⟩,
        edge_holds { j with head, tail } _⟩
    simp [joins, JoinEdge.edge]

lemma withJoin_of_knows (h : g.knows head tail j) : g.withJoin head tail j = g := if_pos h

lemma Flagged.withFlag_eq (h : g.Flagged name) : g.withFlag name = g := withFlag_of_forall h

lemma flagged_withFlag_self : (g.withFlag name).Flagged name := by
  intro n hn hname
  exact flag_equals_of_mem_withFlag (g := g) hn hname

lemma Flagged.withFlag (h : g.Flagged other) : (g.withFlag name).Flagged other := by
  intro n hn hname
  obtain ⟨k, hk, rfl⟩ := List.mem_map.1 hn
  rw [id_flagged] at hname
  by_cases heq : other = name
  · subst heq
    exact flag_flagged hname
  · rw [flagged_of_id_ne (by simpa [hname] using heq)]
    exact h k hk hname

lemma Flagged.withJoin (h : g.Flagged other) (hne : other ≠ head) :
    (g.withJoin head tail j).Flagged other := by
  intro n hn hname
  rw [nodes_withJoin] at hn
  rw [degree_withJoin hne]
  exact h n hn hname

lemma Flagged.withAttribute (h : g.Flagged other) (hother : g.hasNode (.text other)) :
    (g.withAttribute name description).Flagged other := by
  rw [Graph.withAttribute]
  split
  · exact h
  · next hnew =>
      intro n hn hname
      rcases List.mem_append.1 hn with hn | hn
      · exact h n hn hname
      · rw [List.mem_singleton.1 hn] at hname
        have hsame : name = other := by simpa [Attribute.node] using hname
        exact absurd (hsame ▸ hother) hnew

@[simp] lemma withFlag_withFlag_self : (g.withFlag name).withFlag name = g.withFlag name :=
  flagged_withFlag_self.withFlag_eq

lemma flagged_comm (h : name ≠ other) (p q : Bool) (n : Node) :
    (n.flagged name p).flagged other q = (n.flagged other q).flagged name p := by
  by_cases hn : n.id = .text name
  · have hother : n.id ≠ .text other := by simpa [hn] using h
    rw [flagged_of_id_ne hother, flagged_of_id_ne (by simpa using hother)]
  · have hflagged : (n.flagged other q).id ≠ .text name := by simpa using hn
    rw [flagged_of_id_ne hn, flagged_of_id_ne hflagged]

/-- The order in which flags are set does not matter. -/
lemma withFlag_comm : (g.withFlag name).withFlag other = (g.withFlag other).withFlag name := by
  by_cases h : name = other
  · rw [h]
  · simp only [withFlag, List.map_map]
    congr 1
    exact List.map_congr_left fun n _ => flagged_comm h _ _ n

/-! ## Records that are there -/

/-- **A record is there**, but for its flags. -/
structure Placed (g : Graph) (r : MappingRecord) : Prop where
  head : g.hasNode (.text r.head.name)
  tail : g.hasNode (.text r.tail.name)
  join : g.knows r.head.name r.tail.name r.toJoining

/-- **A record is there**, and its flags are right. -/
structure Settled (g : Graph) (r : MappingRecord) : Prop extends g.Placed r where
  headFlag : g.Flagged r.head.name
  tailFlag : g.Flagged r.tail.name

section Records

variable {r q : MappingRecord} {rs : List MappingRecord}

lemma Placed.withAttribute (h : g.Placed r) : (g.withAttribute name description).Placed r :=
  ⟨hasNode_withAttribute.2 (Or.inr h.head), hasNode_withAttribute.2 (Or.inr h.tail), by
    simpa using h.join⟩

lemma Placed.withJoin (h : g.Placed r) : (g.withJoin head tail j).Placed r :=
  ⟨by simpa using h.head, by simpa using h.tail, knows_withJoin h.join⟩

lemma Placed.withFlag (h : g.Placed r) : (g.withFlag name).Placed r :=
  ⟨by simpa using h.head, by simpa using h.tail, h.join⟩

lemma Placed.withRecord (h : g.Placed r) : (g.withRecord q).Placed r :=
  h.withAttribute.withAttribute.withJoin.withFlag.withFlag

lemma withEnds_of_hasNode (hhead : g.hasNode (.text r.head.name))
    (htail : g.hasNode (.text r.tail.name)) : g.withEnds r = g := by
  rw [withEnds, withAttribute_of_hasNode hhead, withAttribute_of_hasNode htail]

lemma Placed.withRecord_eq (h : g.Placed r) :
    g.withRecord r = (g.withFlag r.head.name).withFlag r.tail.name := by
  rw [Graph.withRecord, withLink, withEnds_of_hasNode h.head h.tail, withJoin_of_knows h.join]

lemma Settled.withRecord_eq (h : g.Settled r) : g.withRecord r = g := by
  rw [h.toPlaced.withRecord_eq, h.headFlag.withFlag_eq, h.tailFlag.withFlag_eq]

/-- **A record is there once it has been put there.** -/
theorem settled_withRecord : (g.withRecord r).Settled r where
  head := by simp [withRecord, withLink, withEnds, hasNode_withAttribute]
  tail := by simp [withRecord, withLink, withEnds, hasNode_withAttribute]
  join := knows_withJoin_self
  headFlag := flagged_withFlag_self.withFlag
  tailFlag := flagged_withFlag_self

lemma Flagged.withRecord (h : g.Flagged name) (hname : g.hasNode (.text name)) :
    (g.withRecord r).Flagged name := by
  by_cases hhead : name = r.head.name
  · rw [hhead]
    exact settled_withRecord.headFlag
  · exact ((((h.withAttribute hname).withAttribute
      (hasNode_withAttribute.2 (Or.inr hname))).withJoin hhead).withFlag).withFlag

/-- **A record that is there stays.** -/
theorem Settled.withRecord (h : g.Settled r) : (g.withRecord q).Settled r :=
  ⟨h.toPlaced.withRecord, h.headFlag.withRecord h.head, h.tailFlag.withRecord h.tail⟩

lemma Settled.withRecords (h : g.Settled r) : (g.withRecords rs).Settled r := by
  induction rs generalizing g with
  | nil => exact h
  | cons q rs ih => exact ih h.withRecord

/-- **All records are there** once they have been put there. -/
theorem settled_withRecords : ∀ r ∈ rs, (g.withRecords rs).Settled r := by
  induction rs generalizing g with
  | nil => simp
  | cons q rs ih =>
      intro r hr
      rcases List.mem_cons.1 hr with rfl | hr
      · exact settled_withRecord.withRecords
      · exact ih r hr

lemma withRecords_of_settled (h : ∀ r ∈ rs, g.Settled r) : g.withRecords rs = g := by
  induction rs with
  | nil => rfl
  | cons r rs ih =>
      have hr := (h r List.mem_cons_self).withRecord_eq
      show (g.withRecord r).withRecords rs = g
      rw [hr, ih fun q hq => h q (List.mem_cons_of_mem _ hq)]

/-- Only one flag may be wrong: putting the records there once more sets it right, or leaves it. -/
lemma withRecords_of_placed (hp : ∀ r ∈ rs, g.Placed r)
    (hf : ∀ r ∈ rs, ∀ x, x = r.head.name ∨ x = r.tail.name → x ≠ name → g.Flagged x) :
    g.withRecords rs = g ∨ g.withRecords rs = g.withFlag name := by
  induction rs generalizing g with
  | nil => exact Or.inl rfl
  | cons r rs ih =>
      have hsettled : ∀ q ∈ r :: rs, (g.withFlag name).Settled q := by
        intro q hq
        have hflag : ∀ x, x = q.head.name ∨ x = q.tail.name →
            (g.withFlag name).Flagged x := by
          intro x hx
          by_cases hxn : x = name
          · exact hxn ▸ flagged_withFlag_self
          · exact (hf q hq x hx hxn).withFlag
        exact ⟨(hp q hq).withFlag, hflag _ (Or.inl rfl), hflag _ (Or.inr rfl)⟩
      have hset : ∀ x, x = r.head.name ∨ x = r.tail.name → g.withFlag x = g ∨ x = name := by
        intro x hx
        by_cases hxn : x = name
        · exact Or.inr hxn
        · exact Or.inl (hf r List.mem_cons_self x hx hxn).withFlag_eq
      have hstep : g.withRecord r = g ∨ g.withRecord r = g.withFlag name := by
        rw [(hp r List.mem_cons_self).withRecord_eq]
        rcases hset _ (Or.inl rfl) with hhead | hhead <;>
          rcases hset _ (Or.inr rfl) with htail | htail
        · exact Or.inl (by rw [hhead, htail])
        · exact Or.inr (by rw [hhead, htail])
        · exact Or.inr (by rw [withFlag_comm, htail, hhead])
        · exact Or.inr (by rw [hhead, htail, withFlag_withFlag_self])
      show (g.withRecord r).withRecords rs = g ∨ (g.withRecord r).withRecords rs = g.withFlag name
      rcases hstep with heq | heq
      · rw [heq]
        exact ih (fun q hq => hp q (List.mem_cons_of_mem _ hq))
          fun q hq => hf q (List.mem_cons_of_mem _ hq)
      · rw [heq]
        exact Or.inr (withRecords_of_settled fun q hq => hsettled q (List.mem_cons_of_mem _ hq))

end Records

/-! ## The order of the nodes -/

/-- **The same graph but for the order of the nodes.** -/
def Alike (g g' : Graph) : Prop := ∃ ns, ns.Perm g.nodes ∧ g' = { g with nodes := ns }

lemma Alike.refl (g : Graph) : g.Alike g := ⟨g.nodes, List.Perm.refl _, rfl⟩

lemma Alike.hasNode_eq (h : g.Alike g') : g'.hasNode (.text name) = g.hasNode (.text name) := by
  obtain ⟨ns, hperm, rfl⟩ := h
  rw [Bool.eq_iff_iff, hasNode_iff, hasNode_iff]
  simp only [hperm.mem_iff]

lemma Alike.withAttribute (h : g.Alike g') :
    (g.withAttribute name description).Alike (g'.withAttribute name description) := by
  rw [Graph.withAttribute, Graph.withAttribute, h.hasNode_eq]
  split
  · exact h
  · obtain ⟨ns, hperm, rfl⟩ := h
    exact ⟨_, hperm.append_right _, rfl⟩

lemma Alike.withJoin (h : g.Alike g') :
    (g.withJoin head tail j).Alike (g'.withJoin head tail j) := by
  obtain ⟨ns, hperm, rfl⟩ := h
  -- edges and the way they are looked for do not depend on the nodes
  have hknows : ({ g with nodes := ns } : Graph).knows head tail j = g.knows head tail j := rfl
  rw [Graph.withJoin, Graph.withJoin, hknows]
  split
  · exact ⟨ns, hperm, rfl⟩
  · exact ⟨ns, hperm, rfl⟩

lemma Alike.withFlag (h : g.Alike g') : (g.withFlag name).Alike (g'.withFlag name) := by
  obtain ⟨ns, hperm, rfl⟩ := h
  exact ⟨_, hperm.map _, rfl⟩

lemma Alike.withRecord {r : MappingRecord} (h : g.Alike g') :
    (g.withRecord r).Alike (g'.withRecord r) :=
  h.withAttribute.withAttribute.withJoin.withFlag.withFlag

lemma Alike.withRecords {rs : List MappingRecord} (h : g.Alike g') :
    (g.withRecords rs).Alike (g'.withRecords rs) := by
  induction rs generalizing g g' with
  | nil => exact h
  | cons r rs ih => exact ih h.withRecord

/-- Two attributes may be added in either order. -/
lemma withAttribute_comm (h : name ≠ other) (d e : String) :
    ((g.withAttribute name d).withAttribute other e).Alike
      ((g.withAttribute other e).withAttribute name d) := by
  by_cases hname : g.hasNode (.text name)
  · rw [withAttribute_of_hasNode hname,
      withAttribute_of_hasNode (hasNode_withAttribute.2 (Or.inr hname))]
    exact .refl _
  · by_cases hother : g.hasNode (.text other)
    · rw [withAttribute_of_hasNode hother,
        withAttribute_of_hasNode (hasNode_withAttribute.2 (Or.inr hother))]
      exact .refl _
    · have hname' : ¬ (g.withAttribute other e).hasNode (.text name) := by
        rw [hasNode_withAttribute]
        exact not_or.2 ⟨h, hname⟩
      have hother' : ¬ (g.withAttribute name d).hasNode (.text other) := by
        rw [hasNode_withAttribute]
        exact not_or.2 ⟨Ne.symm h, hother⟩
      rw [withAttribute_of_not_hasNode hname', withAttribute_of_not_hasNode hother',
        withAttribute_of_not_hasNode hname, withAttribute_of_not_hasNode hother]
      refine ⟨_, ?_, rfl⟩
      rw [List.append_assoc, List.append_assoc]
      exact (List.Perm.swap _ _ _).append_left _

/-! ## Records of which a part is there -/

/-- **What putting a record into a graph may stop at**, when one of the changes is not made.  Both
attributes are tried before the join, and both flags after it. -/
inductive Stopped (r : MappingRecord) (g : Graph) : Graph → Prop where
  | before : Stopped r g g
  | head : Stopped r g (g.withAttribute r.head.name r.head.description)
  | tail (h : r.head.name ≠ r.tail.name) :
    Stopped r g (g.withAttribute r.tail.name r.tail.description)
  | ends : Stopped r g (g.withEnds r)
  | link : Stopped r g (g.withLink r)
  | headFlag : Stopped r g ((g.withLink r).withFlag r.head.name)
  | tailFlag : Stopped r g ((g.withLink r).withFlag r.tail.name)

section Stopped

variable {r : MappingRecord} {rs : List MappingRecord}

lemma Settled.withAttribute (h : g.Settled r) : (g.withAttribute name description).Settled r :=
  ⟨h.toPlaced.withAttribute, h.headFlag.withAttribute h.head, h.tailFlag.withAttribute h.tail⟩

lemma hasNode_withEnds (r : MappingRecord) (g : Graph) :
    (g.withEnds r).hasNode (.text r.head.name) ∧ (g.withEnds r).hasNode (.text r.tail.name) := by
  simp [withEnds, hasNode_withAttribute]

/-- With some of its attributes there, a record comes to the same graph. -/
lemma withRecord_of_withEnds (h : (g.withEnds r).Alike (g'.withEnds r)) :
    (g.withRecord r).Alike (g'.withRecord r) :=
  h.withJoin.withFlag.withFlag

lemma withEnds_withEnds : (g.withEnds r).withEnds r = g.withEnds r :=
  withEnds_of_hasNode (hasNode_withEnds r g).1 (hasNode_withEnds r g).2

/-- Attributes that are new do not matter to the records that are there. -/
lemma withRecords_of_ends {h : Graph} (hs : ∀ q ∈ rs, h.Settled q)
    (hends : (g.withEnds r).Alike (h.withEnds r)) :
    (g.withRecord r).Alike ((h.withRecords rs).withRecord r) := by
  rw [withRecords_of_settled hs]
  exact withRecord_of_withEnds hends

/-- Once the join of a record is there, the flags are all that is left to be set. -/
lemma withRecords_of_link {h : Graph} (hs : ∀ q ∈ rs, g.Settled q)
    (hlink : h = g.withLink r ∨ h = (g.withLink r).withFlag r.head.name ∨
      h = (g.withLink r).withFlag r.tail.name) :
    (h.withRecords rs).withRecord r = g.withRecord r := by
  have hplaced : (g.withLink r).Placed r :=
    ⟨by simp [withLink, withEnds, hasNode_withAttribute],
      by simp [withLink, withEnds, hasNode_withAttribute], knows_withJoin_self⟩
  have hother : ∀ q ∈ rs, (g.withLink r).Placed q ∧
      ∀ x, x = q.head.name ∨ x = q.tail.name → x ≠ r.head.name →
        (g.withLink r).Flagged x := by
    intro q hq
    have hends : (g.withEnds r).Settled q := (hs q hq).withAttribute.withAttribute
    refine ⟨hends.toPlaced.withJoin, fun x hx hne => ?_⟩
    rcases hx with rfl | rfl
    · exact hends.headFlag.withJoin hne
    · exact hends.tailFlag.withJoin hne
  have hfinal : ∀ k : Graph, k.Placed r →
      (k.withFlag r.head.name).withFlag r.tail.name = g.withRecord r →
      k.withRecord r = g.withRecord r ∧
        (k.withFlag r.head.name).withRecord r = g.withRecord r := by
    intro k hk heq
    refine ⟨hk.withRecord_eq.trans heq, hk.withFlag.withRecord_eq.trans ?_⟩
    rw [withFlag_withFlag_self, heq]
  have hrun : h.withRecords rs = h ∨ h.withRecords rs = h.withFlag r.head.name := by
    refine withRecords_of_placed (fun q hq => ?_) fun q hq x hx hne => ?_
    · rcases hlink with rfl | rfl | rfl
      · exact (hother q hq).1
      · exact (hother q hq).1.withFlag
      · exact (hother q hq).1.withFlag
    · rcases hlink with rfl | rfl | rfl
      · exact (hother q hq).2 x hx hne
      · exact ((hother q hq).2 x hx hne).withFlag
      · exact ((hother q hq).2 x hx hne).withFlag
  have hboth : h.withRecord r = g.withRecord r ∧
      (h.withFlag r.head.name).withRecord r = g.withRecord r := by
    rcases hlink with rfl | rfl | rfl
    · exact hfinal _ hplaced rfl
    · refine hfinal _ hplaced.withFlag ?_
      rw [withFlag_withFlag_self]
      rfl
    · refine hfinal _ hplaced.withFlag ?_
      rw [withFlag_comm, withFlag_withFlag_self, withFlag_comm]
      rfl
  rcases hrun with heq | heq
  · rw [heq, hboth.1]
  · rw [heq, hboth.2]

/-- **What records come to when they are put there once more.**  Wherever the last of them stopped,
and whatever comes behind it, the graph is the same but for the order of the nodes. -/
theorem Stopped.withRecords_alike {more : List MappingRecord}
    (h : (g.withRecords rs).Stopped r g') :
    (g.withRecords (rs ++ r :: more)).Alike (g'.withRecords (rs ++ r :: more)) := by
  have hs : ∀ q ∈ rs, (g.withRecords rs).Settled q := settled_withRecords
  have hrun : ∀ k : Graph, k.withRecords (rs ++ r :: more)
      = ((k.withRecords rs).withRecord r).withRecords more := by
    intro k
    simp [withRecords]
  rw [hrun, hrun]
  refine Alike.withRecords ?_
  generalize g.withRecords rs = k at h hs
  cases h with
  | before => exact withRecords_of_ends hs (.refl _)
  | head =>
      refine withRecords_of_ends (fun q hq => (hs q hq).withAttribute) ?_
      have hhead : (k.withAttribute r.head.name r.head.description).hasNode (.text r.head.name) :=
        hasNode_withAttribute.2 (Or.inl rfl)
      rw [withEnds, withEnds, withAttribute_of_hasNode hhead]
      exact .refl _
  | tail hne =>
      refine withRecords_of_ends (fun q hq => (hs q hq).withAttribute) ?_
      have htail : ((k.withAttribute r.tail.name r.tail.description).withAttribute r.head.name
          r.head.description).hasNode (.text r.tail.name) :=
        hasNode_withAttribute.2 (Or.inr (hasNode_withAttribute.2 (Or.inl rfl)))
      rw [withEnds, withEnds, withAttribute_of_hasNode htail]
      exact withAttribute_comm hne _ _
  | ends =>
      refine withRecords_of_ends (fun q hq => (hs q hq).withAttribute.withAttribute) ?_
      rw [withEnds_withEnds]
      exact .refl _
  | link => exact withRecords_of_link hs (Or.inl rfl) ▸ .refl _
  | headFlag => exact withRecords_of_link hs (Or.inr (Or.inl rfl)) ▸ .refl _
  | tailFlag => exact withRecords_of_link hs (Or.inr (Or.inr rfl)) ▸ .refl _

end Stopped

end Graph

end Crosswalk
