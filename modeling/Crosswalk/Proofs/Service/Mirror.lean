import Crosswalk.Proofs.Mapping.Requests
import Crosswalk.Proofs.Service.Queries

/-!
# Property graphs that mirror ledgers

The property graph behind a store holds attributes as nodes and joins as links.  It mirrors a ledger
if it holds the same attributes and joins in the same order.

* `GraphNode.IsAttribute`, `GraphLink.IsJoin` — nodes and links that stand for attributes and
  joins.
* `PropertyGraph.Mirrors` — **a graph that holds what a ledger holds.**
* `Mirrors.withAttribute`, `Mirrors.withJoin`, `Mirrors.withFlag` — the changes of both.
-/

namespace Crosswalk

/-- The text of a property. -/
def Properties.textOf (ps : Properties) (name : String) : String :=
  match ps.lookup name with
  | some (.text s) => s
  | _ => ""

/-- The attribute that a node stands for. -/
def GraphNode.attribute (n : GraphNode) : Attribute :=
  ⟨Properties.textOf n.properties "name", Properties.textOf n.properties "description",
    decide ("primary" ∈ n.labels)⟩

/-- **A node that is an attribute.** -/
structure GraphNode.IsAttribute (n : GraphNode) : Prop where
  label : "attribute" ∈ n.labels
  name : n.properties.lookup "name" = some (.text n.attribute.name)
  description : n.properties.lookup "description" = some (.text n.attribute.description)

/-- How the values of a link are joined. -/
def GraphLink.joining (k : GraphLink) : Joining :=
  ⟨Properties.textOf k.properties "datasource", Properties.textOf k.properties "query",
    Properties.textOf k.properties "key", Properties.textOf k.properties "value"⟩

/-- **A link that is a join.** -/
structure GraphLink.IsJoin (k : GraphLink) : Prop where
  type : k.type = "has"
  datasource : k.properties.lookup "datasource" = some (.text k.joining.datasource)
  query : k.properties.lookup "query" = some (.text k.joining.query)
  key : k.properties.lookup "key" = some (.text k.joining.key)
  value : k.properties.lookup "value" = some (.text k.joining.value)
  selected : k.properties.lookup "selected" = some (.bool false)

lemma GraphNode.id_relabel (f : List String → List String) (i : Nat) (n : GraphNode) :
    (n.relabel f i).id = n.id := by
  rw [GraphNode.relabel]
  split <;> rfl

lemma GraphNode.name_relabel (f : List String → List String) (i : Nat)
    (n : GraphNode) : (n.relabel f i).attribute.name = n.attribute.name := by
  rw [GraphNode.relabel]
  split <;> rfl

namespace PropertyGraph

/-- The name of the attribute that a node stands for. -/
def nameOf (g : PropertyGraph) (id : Nat) : String := (g.node? id).elim "" fun n => n.attribute.name

/-- The join that a link stands for. -/
def join (g : PropertyGraph) (k : GraphLink) : JoinEdge :=
  { k.joining with head := g.nameOf k.head, tail := g.nameOf k.tail }

lemma node?_relabel (f : List String → List String) (i : Nat) (g : PropertyGraph) (id : Nat) :
    (g.relabel f i).node? id = (g.node? id).map (GraphNode.relabel f i) := by
  have hids : (fun n : GraphNode => decide (n.id = id)) ∘ GraphNode.relabel f i
      = fun n => decide (n.id = id) := by
    funext n
    rw [Function.comp_apply, GraphNode.id_relabel]
  rw [node?, relabel, List.find?_map, hids, node?]

lemma nameOf_relabel (f : List String → List String) (i : Nat) (g : PropertyGraph) (id : Nat) :
    (g.relabel f i).nameOf id = g.nameOf id := by
  rw [nameOf, node?_relabel, nameOf]
  cases g.node? id with
  | none => rfl
  | some n => exact GraphNode.name_relabel f i n

/-- **A graph that holds what a ledger holds**, in the same order. -/
structure Mirrors (g : PropertyGraph) (l : Ledger) : Prop where
  attributes : g.nodes.map GraphNode.attribute = l.attributes
  areAttributes : ∀ n ∈ g.nodes, n.IsAttribute
  distinct : (g.nodes.map GraphNode.id).Nodup
  joins : g.links.map g.join = l.joins.map Prod.fst
  areJoins : ∀ k ∈ g.links, k.IsJoin
  ends : ∀ k ∈ g.links, (∃ n ∈ g.nodes, n.id = k.head) ∧ ∃ n ∈ g.nodes, n.id = k.tail
  created : (g.links.map GraphLink.id).Pairwise (· < ·)

lemma mirrors_empty : empty.Mirrors .empty :=
  ⟨rfl, nofun, .nil, rfl, nofun, nofun, .nil⟩

/-- What a link stands for depends on the names of its ends. -/
lemma join_congr {g g' : PropertyGraph} {k : GraphLink} (hhead : g'.nameOf k.head = g.nameOf k.head)
    (htail : g'.nameOf k.tail = g.nameOf k.tail) : g'.join k = g.join k := by
  rw [join, join, hhead, htail]

end PropertyGraph

section Mirrored

variable {g : PropertyGraph} {l : Ledger} {name : String} {n : GraphNode} (h : g.Mirrors l)
include h

namespace PropertyGraph.Mirrors

lemma names : g.nodes.map (fun n => n.attribute.name) = l.names := by
  rw [Ledger.names, ← h.attributes, List.map_map]
  rfl

lemma mem_names : name ∈ l.names ↔ ∃ n ∈ g.nodes, n.attribute.name = name := by
  rw [← h.names, List.mem_map]

/-- **A node is known by its number.** -/
lemma node?_eq (hn : n ∈ g.nodes) : g.node? n.id = some n := by
  rw [node?]
  cases hfound : g.nodes.find? fun m => m.id = n.id with
  | none => simpa using List.find?_eq_none.1 hfound n hn
  | some m =>
      have hid : m.id = n.id := by simpa using List.find?_some hfound
      rw [List.inj_on_of_nodup_map h.distinct (List.mem_of_find?_eq_some hfound) hn hid]

/-- **A link is known by its number.** -/
lemma link?_eq {k : GraphLink} (hk : k ∈ g.links) : g.link? k.id = some k := by
  rw [link?]
  cases hfound : g.links.find? fun m => m.id = k.id with
  | none => simpa using List.find?_eq_none.1 hfound k hk
  | some m =>
      have hid : m.id = k.id := by simpa using List.find?_some hfound
      rw [List.inj_on_of_nodup_map (h.created.imp Nat.ne_of_lt) (List.mem_of_find?_eq_some hfound)
        hk hid]

lemma nameOf_eq (hn : n ∈ g.nodes) : g.nameOf n.id = n.attribute.name := by
  rw [nameOf, h.node?_eq hn]
  rfl

/-- **A node is known by the name of its attribute.** -/
lemma eq_of_name {m : GraphNode} (hn : n ∈ g.nodes) (hm : m ∈ g.nodes)
    (hname : m.attribute.name = n.attribute.name) : m = n := by
  have hnames : (g.nodes.map fun n => n.attribute.name).Nodup := h.names ▸ l.distinct
  exact List.inj_on_of_nodup_map hnames hm hn hname

lemma id_eq_iff {id : Nat} (hid : ∃ m ∈ g.nodes, m.id = id) (hn : n ∈ g.nodes) :
    id = n.id ↔ g.nameOf id = n.attribute.name := by
  obtain ⟨m, hm, rfl⟩ := hid
  rw [h.nameOf_eq hm]
  exact ⟨fun hid => by rw [List.inj_on_of_nodup_map h.distinct hm hn hid],
    fun hname => by rw [h.eq_of_name hn hm hname]⟩

lemma between_eq (head tail : String) : (l.between head tail).map Prod.fst
    = (g.links.filter fun k => (g.join k).leads head tail).map g.join := by
  have hfilter : (l.joins.map Prod.fst).filter (JoinEdge.leads head tail)
      = (g.links.map g.join).filter (JoinEdge.leads head tail) := by rw [h.joins]
  rw [List.filter_map, List.filter_map] at hfilter
  exact hfilter

/-- Joins between attributes are known by how they join. -/
lemma known_iff {head tail : String} {j : Joining} :
    (∃ e ∈ l.between head tail, e.1.toJoining = j)
      ↔ ∃ k ∈ g.links, g.join k = { j with head, tail } := by
  have hbetween := h.between_eq head tail
  constructor
  · rintro ⟨e, he, rfl⟩
    have hmem : e.1 ∈ (l.between head tail).map Prod.fst := List.mem_map_of_mem he
    rw [hbetween] at hmem
    obtain ⟨k, hk, hjoin⟩ := List.mem_map.1 hmem
    obtain ⟨hlink, hleads⟩ := List.mem_filter.1 hk
    obtain ⟨hhead, htail⟩ := of_decide_eq_true hleads
    refine ⟨k, hlink, ?_⟩
    rw [← hjoin, ← hhead, ← htail]
    rfl
  · rintro ⟨k, hk, hjoin⟩
    have hmem : g.join k ∈ (l.between head tail).map Prod.fst := by
      rw [hbetween]
      refine List.mem_map_of_mem (List.mem_filter.2 ⟨hk, ?_⟩)
      rw [hjoin]
      exact decide_eq_true ⟨rfl, rfl⟩
    obtain ⟨e, he, hfst⟩ := List.mem_map.1 hmem
    exact ⟨e, he, by rw [hfst, hjoin]⟩

/-! ## Changes -/

/-- **A new node for a new attribute.** -/
theorem withAttribute {description : String} (hname : name ∉ l.names) (hn : n.IsAttribute)
    (hattribute : n.attribute = { name, description }) (hfresh : ∀ m ∈ g.nodes, m.id ≠ n.id) :
    Mirrors { g with nodes := g.nodes ++ [n] } (l.withAttribute name description) := by
  have hnameOf : ∀ id, (∃ m ∈ g.nodes, m.id = id) →
      nameOf { g with nodes := g.nodes ++ [n] } id = g.nameOf id := by
    rintro id ⟨m, hm, rfl⟩
    have hnode := h.node?_eq hm
    rw [node?] at hnode
    rw [nameOf, nameOf, node?, node?, List.find?_append, hnode]
    rfl
  rw [Ledger.withAttribute, dif_neg hname]
  constructor
  · simp [h.attributes, hattribute]
  · intro m hm
    rcases List.mem_append.1 hm with hm | hm
    · exact h.areAttributes m hm
    · rwa [List.mem_singleton.1 hm]
  · rw [List.map_append, List.map_singleton, List.nodup_append]
    refine ⟨h.distinct, List.nodup_singleton _, fun id hid id' hid' => ?_⟩
    obtain ⟨m, hm, rfl⟩ := List.mem_map.1 hid
    rw [List.mem_singleton.1 hid']
    exact hfresh m hm
  · rw [← h.joins]
    exact List.map_congr_left fun k hk =>
      join_congr (hnameOf _ (h.ends k hk).1) (hnameOf _ (h.ends k hk).2)
  · exact h.areJoins
  · exact fun k hk => (h.ends k hk).imp
      (Exists.imp fun m => And.imp_left (List.mem_append_left _))
      (Exists.imp fun m => And.imp_left (List.mem_append_left _))
  · exact h.created

/-- **A new link for a new join.** -/
theorem withJoin {k : GraphLink} {head tail : GraphNode} (hk : k.IsJoin) (hhead : head ∈ g.nodes)
    (htail : tail ∈ g.nodes) (hkhead : k.head = head.id) (hktail : k.tail = tail.id)
    (hnew : ∀ m ∈ g.links, g.join m ≠ { k.joining with
      head := head.attribute.name, tail := tail.attribute.name })
    (hlater : ∀ m ∈ g.links, m.id < k.id) :
    Mirrors { g with links := g.links ++ [k] }
      (l.withJoin head.attribute.name tail.attribute.name k.joining) := by
  have hjoin : g.join k = { k.joining with
      head := head.attribute.name, tail := tail.attribute.name } := by
    rw [join, hkhead, hktail, h.nameOf_eq hhead, h.nameOf_eq htail]
  have hcondition : head.attribute.name ∈ l.names ∧ tail.attribute.name ∈ l.names ∧
      ∀ e ∈ l.between head.attribute.name tail.attribute.name, e.1.toJoining ≠ k.joining := by
    refine ⟨h.mem_names.2 ⟨head, hhead, rfl⟩, h.mem_names.2 ⟨tail, htail, rfl⟩,
      fun e he hj => ?_⟩
    obtain ⟨m, hm, hmjoin⟩ := h.known_iff.1 ⟨e, he, hj⟩
    exact hnew m hm hmjoin
  rw [Ledger.withJoin, dif_pos hcondition]
  constructor
  · exact h.attributes
  · exact h.areAttributes
  · exact h.distinct
  · have hlinks : g.links.map (join { g with links := g.links ++ [k] }) = l.joins.map Prod.fst :=
      h.joins
    rw [List.map_append, List.map_append, hlinks]
    exact congrArg (l.joins.map Prod.fst ++ [·]) hjoin
  · intro m hm
    rcases List.mem_append.1 hm with hm | hm
    · exact h.areJoins m hm
    · rwa [List.mem_singleton.1 hm]
  · intro m hm
    rcases List.mem_append.1 hm with hm | hm
    · exact h.ends m hm
    · rw [List.mem_singleton.1 hm, hkhead, hktail]
      exact ⟨⟨head, hhead, rfl⟩, tail, htail, rfl⟩
  · rw [List.map_append, List.map_singleton, List.pairwise_append]
    refine ⟨h.created, List.pairwise_singleton _ _, fun id hid id' hid' => ?_⟩
    obtain ⟨m, hm, rfl⟩ := List.mem_map.1 hid
    rw [List.mem_singleton.1 hid']
    exact hlater m hm

/-- **The labels of a node for the flag of its attribute.** -/
theorem withFlag {f : List String → List String} (hn : n ∈ g.nodes)
    (hattribute : ∀ ls, "attribute" ∈ ls → "attribute" ∈ f ls)
    (hprimary : ∀ ls, "primary" ∈ f ls ↔
      1 < l.joins.countP fun j => j.1.head = n.attribute.name) :
    (g.relabel f n.id).Mirrors (l.withFlag n.attribute.name) := by
  constructor
  · rw [Ledger.attributes_withFlag, ← h.attributes, List.map_map, relabel, List.map_map]
    refine List.map_congr_left fun m hm => ?_
    have hiff := h.id_eq_iff ⟨m, hm, rfl⟩ hn
    rw [h.nameOf_eq hm] at hiff
    rw [Function.comp_apply, Function.comp_apply, GraphNode.relabel, Attribute.flagged]
    by_cases heq : m.id = n.id
    · rw [if_pos heq, if_pos (hiff.1 heq)]
      exact congrArg (Attribute.mk _ _) (decide_eq_decide.2 (hprimary m.labels))
    · rw [if_neg heq, if_neg (mt hiff.2 heq)]
  · intro m hm
    obtain ⟨m, hm', rfl⟩ := List.mem_map.1 hm
    have hold := h.areAttributes m hm'
    rw [GraphNode.relabel]
    split
    · exact ⟨hattribute _ hold.label, hold.name, hold.description⟩
    · exact hold
  · rw [relabel, List.map_map]
    have hids : GraphNode.id ∘ GraphNode.relabel f n.id = GraphNode.id :=
      funext (GraphNode.id_relabel f n.id)
    rw [hids]
    exact h.distinct
  · rw [Ledger.joins_withFlag, ← h.joins]
    exact List.map_congr_left fun k _ =>
      join_congr (nameOf_relabel f _ _ _) (nameOf_relabel f _ _ _)
  · exact h.areJoins
  · have hends {id : Nat} : (∃ m ∈ g.nodes, m.id = id) →
        ∃ m ∈ (g.relabel f n.id).nodes, m.id = id := by
      rintro ⟨m, hm, hid⟩
      exact ⟨m.relabel f n.id, List.mem_map_of_mem hm,
        (GraphNode.id_relabel f n.id m).trans hid⟩
    exact fun k hk => (h.ends k hk).imp hends hends
  · exact h.created

end PropertyGraph.Mirrors

end Mirrored

end Crosswalk
