import Crosswalk.Proofs.Mapping.Unreadable

/-!
# Records in another order

Each record is put into the graph that the records in front of it have led to, and what it changes
there depends on them: an attribute or a join is added only if it is new, and the first description
counts.  Yet the order of the records does not matter to the graph.  Whatever their order, the names
and the joins that are new come behind those that were there, each of them once; the flags of the
attributes of the records are right in the end, and those of other attributes are not touched.  Only
where records describe a new attribute in different words does their order choose among them.

* `Adds` — **a list that has grown by what is new.**
* `Graph.adds_names`, `Graph.adds_links` — names and joins grow like this.
* `Graph.described_withRecords` — **the first description counts.**
* **`load_reordered`** — what a load leads to does not depend on the order of its records.
-/

namespace Crosswalk

/-! ## Lists that grow by what is new -/

/-- **A list that has grown by what is new among keys**: an entry for each of them, in some
order. -/
def Adds {κ β : Type} (entry : κ → β) (known : κ → Prop) (keys : List κ)
    (old all : List β) : Prop :=
  ∃ new : List κ, all = old ++ new.map entry ∧ new.Nodup ∧
    ∀ k, k ∈ new ↔ k ∈ keys ∧ ¬ known k

namespace Adds

variable {κ β : Type} {entry : κ → β} {known known' : κ → Prop} {keys keys' : List κ}
  {k : κ}
  {old mid all all' : List β}

lemma refl (h : ∀ k ∈ keys, known k) : Adds entry known keys old old :=
  ⟨[], by simp, .nil, fun k => ⟨nofun, fun hk => absurd (h k hk.1) hk.2⟩⟩

lemma single (h : ¬ known k) : Adds entry known [k] old (old ++ [entry k]) := by
  refine ⟨[k], rfl, List.nodup_singleton k, fun l => ?_⟩
  rw [List.mem_singleton]
  exact ⟨fun hl => ⟨hl, hl ▸ h⟩, And.left⟩

/-- What has become known on the way is not new any more. -/
lemma trans (h : Adds entry known keys old mid) (h' : Adds entry known' keys' mid all)
    (hknown : ∀ k, known' k ↔ known k ∨ k ∈ keys) :
    Adds entry known (keys ++ keys') old all := by
  obtain ⟨new, rfl, hnodup, hnew⟩ := h
  obtain ⟨new', rfl, hnodup', hnew'⟩ := h'
  refine ⟨new ++ new', by simp, List.nodup_append.2 ⟨hnodup, hnodup', ?_⟩, fun k => ?_⟩
  · rintro k hk l hl rfl
    exact ((hnew' k).1 hl).2 ((hknown k).2 (Or.inr ((hnew k).1 hk).1))
  · rw [List.mem_append, List.mem_append, hnew, hnew', hknown]
    by_cases hk : k ∈ keys
    · simp [hk]
    · simp [hk]

/-- **The order of the keys does not matter** to what a list has grown by. -/
theorem perm (h : Adds entry known keys old all) (h' : Adds entry known keys' old all')
    (hkeys : ∀ k, k ∈ keys ↔ k ∈ keys') : all.Perm all' := by
  obtain ⟨new, rfl, hnodup, hnew⟩ := h
  obtain ⟨new', rfl, hnodup', hnew'⟩ := h'
  have hperm : new.Perm new' := by
    rw [List.perm_ext_iff_of_nodup hnodup hnodup']
    intro k
    rw [hnew, hnew', hkeys]
  exact (hperm.map entry).append_left old

end Adds

/-! ## What records are about -/

/-- The attributes of records, one after the other. -/
def attributesOf (rs : List MappingRecord) : List Attribute := rs.flatMap fun r => [r.head, r.tail]

@[simp] lemma attributesOf_cons (r : MappingRecord) (rs : List MappingRecord) :
    attributesOf (r :: rs) = r.head :: r.tail :: attributesOf rs := rfl

/-- A join with the names of the attributes that it leads from and to. -/
abbrev Link := String × String × Joining

/-- The join of a record. -/
def MappingRecord.link (r : MappingRecord) : Link := (r.head.name, r.tail.name, r.toJoining)

/-- An edge without its key: the nodes at its ends, and its data. -/
def Edge.content (e : Edge) : Json × Json × Members := (e.head, e.tail, e.data)

/-- The edge of a join without its key. -/
def Link.content (l : Link) : Json × Json × Members :=
  (JoinEdge.edge { l.2.2 with head := l.1, tail := l.2.1 } .null).content

namespace Graph

variable {g : Graph} {r : MappingRecord} {rs rs' : List MappingRecord}
  {name other description head tail : String} {j : Joining}

/-- The names of the nodes. -/
def ids (g : Graph) : List Json := g.nodes.map Node.id

/-- The edges without their keys. -/
def contents (g : Graph) : List (Json × Json × Members) := g.edges.map Edge.content

/-- Whether there is a join with its attributes. -/
def holds (g : Graph) (l : Link) : Prop := g.knows l.1 l.2.1 l.2.2

@[simp] lemma ids_withFlag : (g.withFlag name).ids = g.ids := by
  simp [ids, withFlag]

@[simp] lemma contents_withFlag : (g.withFlag name).contents = g.contents := rfl

@[simp] lemma ids_withJoin : (g.withJoin head tail j).ids = g.ids := by
  simp [ids]

@[simp] lemma contents_withAttribute :
    (g.withAttribute name description).contents = g.contents := by
  simp [contents]

/-! ## Names -/

lemma adds_name : Adds Json.text (fun n => g.hasNode (.text n)) [name] g.ids
    (g.withAttribute name description).ids := by
  by_cases h : g.hasNode (.text name)
  · rw [withAttribute_of_hasNode h]
    exact .refl fun k hk => List.mem_singleton.1 hk ▸ h
  · rw [withAttribute_of_not_hasNode h, ids, ids, List.map_append]
    exact .single h

lemma hasNode_withRecord :
    (g.withRecord r).hasNode (.text name)
      ↔ g.hasNode (.text name) ∨ name ∈ [r.head.name, r.tail.name] := by
  simp only [withRecord, withLink, withEnds, hasNode_withFlag, hasNode_withJoin,
    hasNode_withAttribute, List.mem_cons, List.not_mem_nil, or_false]
  tauto

/-- **The names of attributes that are new come behind the others.** -/
theorem adds_names : Adds Json.text (fun n => g.hasNode (.text n))
    ((attributesOf rs).map Attribute.name) g.ids (g.withRecords rs).ids := by
  induction rs generalizing g with
  | nil => exact .refl nofun
  | cons r rs ih =>
      have hends : Adds Json.text (fun n => g.hasNode (.text n)) [r.head.name, r.tail.name] g.ids
          (g.withRecord r).ids := by
        rw [withRecord, ids_withFlag, ids_withFlag, withLink, ids_withJoin]
        refine adds_name.trans adds_name fun n => ?_
        rw [hasNode_withAttribute, List.mem_singleton]
        exact Or.comm
      exact hends.trans ih fun n => hasNode_withRecord

/-! ## Joins -/

/-- A graph with a join knows this join, and what it has known before. -/
lemma knows_withJoin_iff (hg : g.Regular) {a b : String} {k : Joining} :
    (g.withJoin head tail j).knows a b k ↔ g.knows a b k ∨ (a, b, k) = (head, tail, j) := by
  refine ⟨fun h => ?_, fun h => ?_⟩
  · rw [withJoin] at h
    split at h
    · exact Or.inl h
    · obtain ⟨e, he, hholds⟩ := List.any_eq_true.1 h
      obtain ⟨hmem, hjoins⟩ := List.mem_filter.1 he
      rcases List.mem_append.1 hmem with hmem | hmem
      · exact Or.inl (List.any_eq_true.2 ⟨e, List.mem_filter.2 ⟨hmem, hjoins⟩, hholds⟩)
      · obtain rfl := List.mem_singleton.1 hmem
        -- the new edge holds no other join than its own, and leads nowhere else
        obtain ⟨d, q, x, y⟩ := j
        obtain ⟨d', q', x', y'⟩ := k
        simp [joins, hg.directed, JoinEdge.edge] at hjoins
        simp [Edge.holds, JoinEdge.edge, MemoryStore.joiningData, List.lookup_cons] at hholds
        simp [hjoins, hholds]
  · rcases h with h | h
    · exact knows_withJoin h
    · cases h
      exact knows_withJoin_self

lemma adds_link : Adds Link.content g.holds [(head, tail, j)] g.contents
    (g.withJoin head tail j).contents := by
  by_cases h : g.knows head tail j
  · rw [withJoin_of_knows h]
    exact .refl fun k hk => List.mem_singleton.1 hk ▸ h
  · rw [withJoin, if_neg h, contents, contents, List.map_append]
    have hnew : ¬ g.holds (head, tail, j) := h
    exact (Adds.single hnew : Adds Link.content g.holds _ g.contents _)

lemma holds_withRecord (hg : g.Regular) (l : Link) :
    (g.withRecord r).holds l ↔ g.holds l ∨ l ∈ [r.link] := by
  have hends : (g.withEnds r).Regular := hg.withAttribute.withAttribute
  rw [holds, withRecord, knows_withFlag, knows_withFlag, withLink, knows_withJoin_iff hends,
    withEnds, knows_withAttribute, knows_withAttribute, List.mem_singleton]
  rfl

/-- **The joins that are new come behind the others.** -/
theorem adds_links (hg : g.Regular) :
    Adds Link.content g.holds (rs.map MappingRecord.link) g.contents
      (g.withRecords rs).contents := by
  induction rs generalizing g with
  | nil => exact .refl nofun
  | cons r rs ih =>
      have hlink : Adds Link.content g.holds [r.link] g.contents (g.withRecord r).contents := by
        have hends : (g.withEnds r).holds = g.holds := by
          funext l
          simp [holds, withEnds]
        rw [withRecord, contents_withFlag, contents_withFlag, withLink, ← hends]
        simpa [withEnds, MappingRecord.link] using adds_link (g := g.withEnds r)
      exact hlink.trans (ih hg.withRecord) (holds_withRecord hg)

/-! ## Flags and descriptions -/

lemma degree_eq_contents :
    g.degree name = g.contents.countP fun c => c.1.equals (.text name) := by
  rw [degree, contents, List.countP_map]
  rfl

/-- How the node of a name is described, if there is one. -/
def described (g : Graph) (name : String) : Option (Option Json) :=
  (g.node? (.text name)).map fun n => n.data.lookup "description"

lemma node?_withFlag :
    (g.withFlag name).node? (.text other)
      = (g.node? (.text other)).map (Node.flagged name (1 < g.degree name)) := by
  have hid : (fun n : Node => n.id.equals (.text other)) ∘ Node.flagged name (1 < g.degree name)
      = fun n => n.id.equals (.text other) := by
    funext n
    rw [Function.comp_apply, id_flagged]
  rw [node?, withFlag, List.find?_map, hid, ← node?]

lemma node?_withAttribute :
    (g.withAttribute name description).node? (.text other)
      = (g.node? (.text other)).or
          (if name = other then some (Attribute.node { name, description }) else none) := by
  by_cases h : g.hasNode (.text name)
  · rw [withAttribute_of_hasNode h]
    by_cases hname : name = other
    · obtain ⟨n, hn⟩ := Option.isSome_iff_exists.1 (hname ▸ h : g.hasNode (.text other))
      rw [hn, Option.some_or]
    · rw [if_neg hname, Option.or_none]
  · rw [withAttribute_of_not_hasNode h, node?, List.find?_append]
    congr 1
    by_cases hname : name = other <;> simp [Attribute.node, hname]

@[simp] lemma node?_withJoin :
    (g.withJoin head tail j).node? (.text name) = g.node? (.text name) := by
  rw [node?, nodes_withJoin, node?]

/-- A flag is set without the description being touched. -/
@[simp] lemma described_withFlag : (g.withFlag name).described other = g.described other := by
  rw [described, node?_withFlag, Option.map_map, described]
  congr 1
  funext n
  rw [Function.comp_apply, Node.flagged]
  split
  · simp [Members.lookup_update_singleton]
  · rfl

lemma described_withAttribute (a : Attribute) :
    (g.withAttribute a.name a.description).described name
      = (g.described name).or
        (if a.name = name then some (some (.text a.description)) else none) := by
  rw [described, node?_withAttribute, described]
  cases g.node? (.text name) with
  | some n => rfl
  | none =>
      by_cases h : a.name = name
      · simp [h, Attribute.node]
      · simp [h]

/-- **The first description of an attribute counts**: the one in the graph, or else the one in the
first of the records that are about the attribute. -/
theorem described_withRecords (g : Graph) (rs : List MappingRecord) (name : String) :
    (g.withRecords rs).described name = (g.described name).or
      (((attributesOf rs).find? fun a => a.name = name).map fun a =>
        some (.text a.description)) := by
  induction rs generalizing g with
  | nil => simp [withRecords, attributesOf]
  | cons r rs ih =>
      have hrecord : (g.withRecord r).described name = ((g.described name).or
          (if r.head.name = name then some (some (.text r.head.description)) else none)).or
          (if r.tail.name = name then some (some (.text r.tail.description)) else none) := by
        rw [withRecord, described_withFlag, described_withFlag, withLink, described, node?_withJoin,
          ← described, withEnds, described_withAttribute, described_withAttribute]
      show ((g.withRecord r).withRecords rs).described name = _
      rw [ih, hrecord, attributesOf_cons]
      by_cases hhead : r.head.name = name <;> by_cases htail : r.tail.name = name <;>
        cases g.described name <;> simp [hhead, htail]

lemma node?_withRecord_of_ne (hhead : r.head.name ≠ name) (htail : r.tail.name ≠ name) :
    (g.withRecord r).node? (.text name) = g.node? (.text name) := by
  have hflagged : ∀ (k : Graph) (other : String), other ≠ name →
      (k.withFlag other).node? (.text name) = k.node? (.text name) := by
    intro k other hne
    rw [node?_withFlag]
    cases hn : k.node? (.text name) with
    | none => rfl
    | some n =>
        have hid : n.id ≠ .text other := by simpa [(node?_eq_some hn).2] using Ne.symm hne
        rw [Option.map_some, flagged_of_id_ne hid]
  rw [withRecord, hflagged _ _ htail, hflagged _ _ hhead, withLink, node?_withJoin, withEnds,
    node?_withAttribute, node?_withAttribute, if_neg hhead, if_neg htail, Option.or_none,
    Option.or_none]

/-- Attributes that the records are not about stay as they are. -/
lemma node?_withRecords_of_ne (h : ∀ a ∈ attributesOf rs, a.name ≠ name) :
    (g.withRecords rs).node? (.text name) = g.node? (.text name) := by
  induction rs generalizing g with
  | nil => rfl
  | cons r rs ih =>
      simp only [attributesOf_cons, List.forall_mem_cons] at h
      show ((g.withRecord r).withRecords rs).node? _ = _
      rw [ih h.2.2, node?_withRecord_of_ne h.1 h.2.1]

lemma flagged_withRecords {a : Attribute} (ha : a ∈ attributesOf rs) :
    (g.withRecords rs).Flagged a.name := by
  obtain ⟨r, hr, ha⟩ := List.mem_flatMap.1 ha
  have hsettled := settled_withRecords (g := g) r hr
  rcases List.mem_cons.1 ha with rfl | ha
  · exact hsettled.headFlag
  · obtain rfl := List.mem_singleton.1 ha
    exact hsettled.tailFlag

/-! ## The order of the records -/

lemma mem_attributesOf_iff (h : rs.Perm rs') (a : Attribute) :
    a ∈ attributesOf rs ↔ a ∈ attributesOf rs' :=
  (h.flatMap_right _).mem_iff

/-- **Names do not depend on the order of the records.** -/
theorem ids_perm (h : rs.Perm rs') : (g.withRecords rs).ids.Perm (g.withRecords rs').ids := by
  refine adds_names.perm adds_names fun name => ?_
  simp only [List.mem_map, mem_attributesOf_iff h]

/-- **Nor do joins.** -/
theorem contents_perm (hg : g.Regular) (h : rs.Perm rs') :
    (g.withRecords rs).contents.Perm (g.withRecords rs').contents :=
  (adds_links hg).perm (adds_links hg) fun _ => (h.map _).mem_iff

lemma degree_eq_of_perm (hg : g.Regular) (h : rs.Perm rs') :
    (g.withRecords rs).degree name = (g.withRecords rs').degree name := by
  rw [degree_eq_contents, degree_eq_contents, (contents_perm hg h).countP_eq]

lemma summary_eq_of_perm (hg : g.Regular) (h : rs.Perm rs') : g.summary rs = g.summary rs' := by
  have hids : (g.withRecords rs).nodes.length = (g.withRecords rs').nodes.length := by
    simpa [ids] using (ids_perm (g := g) h).length_eq
  have hcontents : (g.withRecords rs).edges.length = (g.withRecords rs').edges.length := by
    simpa [contents] using (contents_perm hg h).length_eq
  rw [summary, summary, h.length_eq, hids, hcontents]

end Graph

namespace MemoryStore

variable {m m' : MemoryStore} {g : Graph} {rs rs' : List MappingRecord}

/-- An attribute whose flag is right, as it is described. -/
lemma attribute?_of_described {name : String} {d : Option Json} (hflag : m.graph.Flagged name)
    (hd : m.graph.described name = some d) :
    m.attribute? name = (textIn "description" (d.getD (.text ""))).map fun text =>
      some ⟨name, text, 1 < m.graph.degree name⟩ := by
  obtain ⟨n, hn, rfl⟩ := Option.map_eq_some_iff.1 hd
  have hprimary : ((n.data.lookup "primary").map Json.isTrue).getD false
      = decide (1 < m.graph.degree name) := by
    rw [← Json.isTrue_of_equals_bool
      (hflag n (Graph.node?_eq_some hn).1 (Graph.node?_eq_some hn).2),
      Node.flag]
    cases n.data.lookup "primary" <;> rfl
  rw [attribute?, hn]
  dsimp only
  rw [hprimary]
  cases textIn "description" ((n.data.lookup "description").getD (.text "")) <;> rfl

/-- **What is found under a name does not depend on the order of the records**, but for the
description of a new attribute. -/
theorem attribute?_reordered (hg : g.Regular) (h : rs.Perm rs')
    (hm : m.graph = g.withRecords rs) (hm' : m'.graph = g.withRecords rs') (name : String) :
    m.attribute? name = m'.attribute? name ∨
      ¬ g.hasNode (.text name) ∧
        ∃ a ∈ attributesOf rs, ∃ b ∈ attributesOf rs, ∃ primary,
        a.name = name ∧ b.name = name ∧
        m.attribute? name = .ok (some ⟨name, a.description, primary⟩) ∧
        m'.attribute? name = .ok (some ⟨name, b.description, primary⟩) := by
  by_cases habout : ∀ a ∈ attributesOf rs, a.name ≠ name
  · have habout' : ∀ a ∈ attributesOf rs', a.name ≠ name := fun a ha =>
      habout a ((Graph.mem_attributesOf_iff h a).2 ha)
    left
    rw [attribute?, attribute?, hm, hm', Graph.node?_withRecords_of_ne habout,
      Graph.node?_withRecords_of_ne habout']
  push Not at habout
  obtain ⟨c, hc, rfl⟩ := habout
  have hflag := hm ▸ Graph.flagged_withRecords (g := g) hc
  have hflag' := hm' ▸ Graph.flagged_withRecords (g := g) ((Graph.mem_attributesOf_iff h c).1 hc)
  have hdegree : m'.graph.degree c.name = m.graph.degree c.name := by
    rw [hm, hm', Graph.degree_eq_of_perm hg h]
  have hd := hm ▸ Graph.described_withRecords g rs c.name
  have hd' := hm' ▸ Graph.described_withRecords g rs' c.name
  cases hold : g.described c.name with
  | some d =>
      left
      rw [hold, Option.some_or] at hd hd'
      rw [attribute?_of_described hflag hd, attribute?_of_described hflag' hd', hdegree]
  | none =>
      have hfound : ∀ qs, c ∈ attributesOf qs → ∃ a ∈ attributesOf qs, a.name = c.name ∧
          (attributesOf qs).find? (fun a => a.name = c.name) = some a := by
        intro qs hqs
        cases hfind : (attributesOf qs).find? fun a => a.name = c.name with
        | none => simpa using List.find?_eq_none.1 hfind c hqs
        | some a =>
            exact ⟨a, List.mem_of_find?_eq_some hfind,
              by simpa using List.find?_some hfind, rfl⟩
      obtain ⟨a, ha, haname, hfind⟩ := hfound rs hc
      obtain ⟨b, hb, hbname, hfind'⟩ := hfound rs' ((Graph.mem_attributesOf_iff h c).1 hc)
      rw [hold, hfind, Option.none_or, Option.map_some] at hd
      rw [hold, hfind', Option.none_or, Option.map_some] at hd'
      refine Or.inr ⟨?_, a, ha, b, (Graph.mem_attributesOf_iff h b).2 hb, _, haname, hbname,
        attribute?_of_described hflag hd, ?_⟩
      · simpa [Graph.described, Graph.hasNode] using hold
      · rw [← hdegree]
        exact attribute?_of_described hflag' hd'

end MemoryStore

/-! ## Loading -/

variable {rs rs' : List MappingRecord} {s : Session MemoryStore}

/-- What a load puts records into, and what it comes to. -/
lemma load_from_started (rs : List MappingRecord) (reset : Bool) (hg : s.store.graph.Regular) :
    (load memoryStore rs reset s).1 = .ok ((s.started reset).store.graph.summary rs) ∧
      (load memoryStore rs reset s).2.store.graph
        = (s.started reset).store.graph.withRecords rs := by
  rw [load_started]
  exact load_memoryStore rs (Session.regular_started hg)

/-- **The order of records does not matter.**  Loading them in another order comes to the same
summary, names, joins and flags; and to the same descriptions as well, if none of the attributes
that are new is described in different words. -/
theorem load_reordered (hg : s.store.graph.Regular) (h : rs.Perm rs') (reset : Bool) :
    let one := load memoryStore rs reset s
    let two := load memoryStore rs' reset s
    (∃ summary, one.1 = .ok summary ∧ two.1 = .ok summary) ∧
      one.2.store.graph.ids.Perm two.2.store.graph.ids ∧
      one.2.store.graph.contents.Perm two.2.store.graph.contents ∧
      (∀ name, (one.2.store.attribute? name).map (Option.map Attribute.primary)
        = (two.2.store.attribute? name).map (Option.map Attribute.primary)) ∧
      ((∀ a ∈ attributesOf rs, ∀ b ∈ attributesOf rs, a.name = b.name →
          ¬ (s.started reset).store.graph.hasNode (.text a.name) →
            a.description = b.description) →
        ∀ name, one.2.store.attribute? name = two.2.store.attribute? name) := by
  intro one two
  have hstart : (s.started reset).store.graph.Regular := Session.regular_started hg
  obtain ⟨hone, hgraph⟩ := load_from_started rs reset hg
  obtain ⟨htwo, hgraph'⟩ := load_from_started rs' reset hg
  have hattribute := MemoryStore.attribute?_reordered hstart h hgraph hgraph'
  refine ⟨⟨_, hone, ?_⟩, ?_, ?_, fun name => ?_, fun hdescribed name => ?_⟩
  · rw [htwo, Graph.summary_eq_of_perm hstart h]
  · rw [hgraph, hgraph']
    exact Graph.ids_perm h
  · rw [hgraph, hgraph']
    exact Graph.contents_perm hstart h
  · rcases hattribute name with heq | ⟨-, a, -, b, -, primary, -, -, ha, hb⟩
    · exact congrArg _ heq
    · rw [ha, hb]
      rfl
  · rcases hattribute name with
      heq | ⟨hnew, a, hamem, b, hbmem, primary, haname, hbname, ha, hb⟩
    · exact heq
    · have hsame := hdescribed a hamem b hbmem (haname.trans hbname.symm) (haname ▸ hnew)
      rw [ha, hb, hsame]

/-- In the other order the street comes before the city, and nothing else is different. -/
theorem load_reordered_shopRecords :
    let one := load memoryStore shopRecords false shopSession
    let two := load memoryStore shopRecords.reverse false shopSession
    shopSession.store.graph.Regular ∧ shopRecords.Perm shopRecords.reverse ∧
      one.2.store.graph.ids.map (·.equals (.text "city")) = [false, true, false] ∧
      two.2.store.graph.ids.map (·.equals (.text "city")) = [false, false, true] ∧
      one.2.store.graph.contents.Perm two.2.store.graph.contents ∧
      one.2.store.attribute? "shop" = .ok (some ⟨"shop", "a shop", true⟩) ∧
      ∀ name, one.2.store.attribute? name = two.2.store.attribute? name := by
  have hg : shopSession.store.graph.Regular := ⟨rfl, rfl, List.pairwise_singleton _ _⟩
  have hperm := (List.reverse_perm shopRecords).symm
  obtain ⟨-, -, hcontents, -, hattribute⟩ := load_reordered hg hperm false
  exact ⟨hg, hperm, by decide +kernel, by decide +kernel, hcontents, by decide +kernel,
    hattribute (by decide +kernel)⟩

end Crosswalk
