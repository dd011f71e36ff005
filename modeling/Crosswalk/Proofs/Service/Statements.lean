import Crosswalk.Proofs.Service.Mirror

/-!
# Statements as queries

Every statement is a query.  A question is answered by the attributes and joins of the ledger that
the graph mirrors, and leaves the graph as it is.

A statement begins with patterns of attributes.  Since no two attributes have one name, each pattern
finds one node at most, whatever the order in which the service comes across its nodes.  Joins come
in any order, and only sorting by their numbers puts them in the order in which they were created.

* `Statement.query`, `Statement.text_query` — **the query of a statement**, which is written as
  the statement is.
* `Statement.run` — what a statement does.
* `found_attribute_of_mem`, `found_attribute_of_notMem` — the node of a name.
* `mergeSort_joinBinding` — the order of joins.
* `run_findName_of_mem`, `run_getAttribute_of_mem`, `run_findJoins`, `run_countAttributes`,
  `run_countJoins` — **the answers to questions**, with their counterparts for what is not there.
-/

namespace Crosswalk

open Cypher

/-- The pattern of an attribute with a letter that is named by a parameter. -/
def attributeNode (letter parameter : String) : NodePattern :=
  { letter, label := "attribute", wanted := [("name", parameter)] }

/-- The pattern of a join. -/
def joinLink : LinkPattern := { letter := "r", type := "has" }

/-- The pattern of the join that is given by parameters. -/
def givenLink : LinkPattern :=
  { joinLink with wanted :=
      [("datasource", "datasource"), ("query", "query"), ("key", "key"), ("value", "value")] }

/-- A property of what a letter stands for, under its own name. -/
def propertyColumn (letter name : String) : Column := .value (.property letter name) name

namespace Statement

/-- **The query of a statement.** -/
def query : Statement → Query
  | ping => .clauses [] (some { columns := [.value (.constant (.int 1)) "ok"] })
  | requireUniqueNames => .unique "attribute_name" "attribute" "name"
  | findName _ => .clauses [.find false (.nodes [attributeNode "n" "name"])]
      (some { columns := [propertyColumn "n" "name"], limit := some 1 })
  | mergeAttribute _ _ =>
    .clauses
      [.mergeNode (attributeNode "n" "name") [("description", .parameter "description")]] none
  | getAttribute _ => .clauses [.find false (.nodes [attributeNode "n" "name"])]
      (some { columns := [propertyColumn "n" "name", propertyColumn "n" "description",
        .value (.hasLabel "primary" "n") "primary"] })
  | mergeJoin _ _ _ =>
    .clauses
      [.find false (.nodes [attributeNode "a" "head", attributeNode "b" "tail"]),
        .mergeLink "a" givenLink "b" [("selected", .constant (.bool false))]]
      (some { columns := [.count "r" "cnt"] })
  | recomputePrimary _ =>
    .clauses
      [.find false (.nodes [attributeNode "n" "name"]),
        .find true (.step { letter := "n" } joinLink {}),
        .columns [.kept "n", .count "r" "cnt"],
        .change (.above "cnt" 1) (.set "n" "primary"),
        .change (.atMost "cnt" 1) (.remove "n" "primary")]
      (some { columns := [.value (.above "cnt" 1) "primary"] })
  | findJoins _ _ =>
    .clauses [.find false (.step (attributeNode "a" "head") joinLink (attributeNode "b" "tail"))]
      (some
        { columns := ["datasource", "query", "key", "value", "selected"].map (propertyColumn "r")
          order := some "r" })
  | clear => .clauses [.find false (.nodes [{ letter := "n" }]), .delete "n"] none
  | countAttributes => .clauses [.find false (.nodes [{ letter := "n", label := "attribute" }])]
      (some { columns := [.count "n" "cnt"] })
  | countJoins =>
    .clauses [.find false (.step { label := "attribute" } joinLink { label := "attribute" })]
      (some { columns := [.count "r" "cnt"] })

/-- **The query of a statement is written as its text.** -/
theorem text_query (s : Statement) : s.query.text = s.text := by
  cases s with
  | ping => decide +kernel
  | requireUniqueNames => decide +kernel
  | findName name => exact (by decide +kernel : (findName "").query.text = (findName "").text)
  | mergeAttribute name description =>
      exact (by decide +kernel : (mergeAttribute "" "").query.text = (mergeAttribute "" "").text)
  | getAttribute name =>
      exact (by decide +kernel : (getAttribute "").query.text = (getAttribute "").text)
  | mergeJoin head tail j =>
      exact (by decide +kernel : (mergeJoin "" "" ⟨"", "", "", ""⟩).query.text
        = (mergeJoin "" "" ⟨"", "", "", ""⟩).text)
  | recomputePrimary name =>
      exact (by decide +kernel : (recomputePrimary "").query.text = (recomputePrimary "").text)
  | findJoins head tail =>
      exact (by decide +kernel : (findJoins "" "").query.text = (findJoins "" "").text)
  | clear => decide +kernel
  | countAttributes => decide +kernel
  | countJoins => decide +kernel

/-- **What a statement does.** -/
def run (c : Choices) (g : PropertyGraph) (s : Statement) : PropertyGraph × List Answer :=
  s.query.run c s.parameters g

end Statement

/-! ## Parts of queries -/

section Parts

variable (c : Choices) (parameters : List (String × String)) (g : PropertyGraph) (b : Binding)

lemma runAll_cons (bs : List Binding) (clause : Clause) (cs : List Clause) :
    runAll c parameters g bs (clause :: cs)
      = runAll c parameters (clause.run c parameters g bs).1 (clause.run c parameters g bs).2 cs :=
  rfl

lemma eachRow_singleton (f : PropertyGraph → Binding → PropertyGraph × List Binding) :
    eachRow f g [b] = f g b := by
  simp [eachRow]

lemma found_one (p : NodePattern) :
    (Pattern.nodes [p]).found c parameters g b = p.found c parameters g b := by
  simp [Pattern.found]

lemma found_two (p q : NodePattern) : (Pattern.nodes [p, q]).found c parameters g b
    = (p.found c parameters g b).flatMap (q.found c parameters g) := by
  simp [Pattern.found]

/-- A clause that finds a pattern. -/
lemma run_clause_find (p : Pattern) :
    Clause.run c parameters g [[]] (.find false p) = (g, p.found c parameters g []) := by
  rw [Clause.run, List.flatMap_singleton]
  cases p.found c parameters g [] <;> rfl

/-- A query that finds a pattern. -/
lemma run_find (p : Pattern) (r : Result) :
    (Query.clauses [.find false p] (some r)).run c parameters g
      = (g, r.answers parameters g (p.found c parameters g [])) := by
  rw [Query.run, runAll_cons, run_clause_find]
  rfl

/-- Rows that are counted. -/
lemma answers_count (l name : String) (bs : List Binding) :
    Result.answers parameters g bs { columns := [.count l name] }
      = [[(name, .int (bs.countP fun b => b.get l ≠ .value .null))]] := by
  have hall : bs.filter (fun b => keyOf parameters g [.count l name] b = []) = bs :=
    List.filter_eq_self.2 fun b _ => decide_eq_true rfl
  simp [Result.answers, project, Column.counts, Column.ofGroup, hall, Bound.toJson, Scalar.toJson]

/-- Rows that were made of something for which a letter stands. -/
lemma answers_count_of_map {α : Type} (l name : String) (xs : List α) (f : α → Binding)
    (hf : ∀ x ∈ xs, (f x).get l ≠ .value .null) :
    Result.answers parameters g (xs.map f) { columns := [.count l name] }
      = [[(name, .int xs.length)]] := by
  have hcount : (xs.map f).countP (fun b => b.get l ≠ .value .null) = xs.length := by
    rw [List.countP_map, List.countP_eq_length]
    exact fun x hx => decide_eq_true (hf x hx)
  rw [answers_count, hcount]

end Parts

/-- The row of a join that was found between two attributes. -/
def joinBinding (k : GraphLink) : Binding :=
  [("a", .node k.head), ("r", .link k.id), ("b", .node k.tail)]

/-- **Joins that are sorted by their numbers** come in the order in which they were created. -/
lemma mergeSort_joinBinding {xs ys : List GraphLink} (hperm : xs.Perm ys)
    (hcreated : (ys.map GraphLink.id).Pairwise (· < ·)) :
    (xs.map joinBinding).mergeSort (fun a b => a.number "r" ≤ b.number "r")
      = ys.map joinBinding := by
  have hsort := (List.mergeSort_perm (xs.map joinBinding)
    fun a b => a.number "r" ≤ b.number "r").trans (hperm.map joinBinding)
  -- both lists are sorted, and no two joins have one number
  refine List.Perm.eq_of_pairwise (fun a b ha hb hab hba => ?_)
    (List.pairwise_mergeSort (by simp; omega) (by simp; omega) _) ?_ hsort
  · obtain ⟨k, hk, rfl⟩ := List.mem_map.1 (hsort.mem_iff.1 ha)
    obtain ⟨k', hk', rfl⟩ := List.mem_map.1 hb
    have hid : k.id = k'.id := Nat.le_antisymm (of_decide_eq_true hab) (of_decide_eq_true hba)
    rw [List.inj_on_of_nodup_map (hcreated.imp Nat.ne_of_lt) hk hk' hid]
  · exact List.pairwise_map.2 ((List.pairwise_map.1 hcreated).imp fun hlt =>
      decide_eq_true (Nat.le_of_lt hlt))

/-! ## Finding attributes -/

section Mirrored

variable {g : PropertyGraph} {l : Ledger} {name : String} {n : GraphNode} (h : g.Mirrors l)
include h

variable (c : Choices)

/-- The nodes of a name: there is one at most. -/
lemma filter_named (hn : n ∈ g.nodes) (hname : n.attribute.name = name) :
    (c.nodes g).filter (fun m => m.attribute.name = name) = [n] := by
  have hnodup := (c.nodes_perm g).nodup_iff.2 h.distinct.of_map
  refine List.perm_singleton.1 ((List.perm_ext_iff_of_nodup (hnodup.filter _)
    (List.nodup_singleton n)).2 fun m => ?_)
  rw [List.mem_filter, (c.nodes_perm g).mem_iff, List.mem_singleton, decide_eq_true_iff]
  refine ⟨fun hm => h.eq_of_name hn hm.1 (hm.2.trans hname.symm), ?_⟩
  rintro rfl
  exact ⟨hn, hname⟩

variable {parameters : List (String × String)} {letter parameter : String} {b : Binding}
  (hparameter : parameters.lookup parameter = some name)
include hparameter

/-- A pattern of an attribute fits the node of its name. -/
lemma fits_attribute (hn : n ∈ g.nodes) :
    (attributeNode letter parameter).fits parameters n = decide (n.attribute.name = name) := by
  have hnode := h.areAttributes n hn
  simp [attributeNode, NodePattern.fits, Wanted.holds, hparameter, hnode.label, hnode.name]

lemma found_attribute (hb : b.lookup letter = none) :
    (attributeNode letter parameter).found c parameters g b
      = ((c.nodes g).filter fun m => m.attribute.name = name).map fun m =>
          b ++ [(letter, .node m.id)] := by
  rw [NodePattern.found, ← List.filterMap_eq_map, List.filterMap_filter]
  refine List.filterMap_congr fun m hm => ?_
  rw [fits_attribute h hparameter ((c.nodes_perm g).mem_iff.1 hm)]
  simp [attributeNode, Binding.putAt, Binding.put, hb]

/-- **The node of an attribute is found.** -/
lemma found_attribute_of_mem (hb : b.lookup letter = none) (hn : n ∈ g.nodes)
    (hname : n.attribute.name = name) :
    (attributeNode letter parameter).found c parameters g b = [b ++ [(letter, .node n.id)]] := by
  rw [found_attribute h c hparameter hb, filter_named h c hn hname, List.map_singleton]

/-- **What is no attribute is not found.** -/
lemma found_attribute_of_notMem (hb : b.lookup letter = none) (hname : name ∉ l.names) :
    (attributeNode letter parameter).found c parameters g b = [] := by
  rw [found_attribute h c hparameter hb, List.map_eq_nil_iff, List.filter_eq_nil_iff]
  intro m hm hname'
  exact hname (h.mem_names.2 ⟨m, (c.nodes_perm g).mem_iff.1 hm, of_decide_eq_true hname'⟩)

end Mirrored

/-! ## Questions -/

section Questions

variable {g : PropertyGraph} {l : Ledger} {name : String} {n : GraphNode} (h : g.Mirrors l)
  (c : Choices)
include h

/-- A question about an attribute. -/
lemma run_find_attribute_of_mem (hn : n ∈ g.nodes) (r : Result) :
    (Query.clauses [.find false (.nodes [attributeNode "n" "name"])] (some r)).run c
        [("name", n.attribute.name)] g
      = (g, r.answers [("name", n.attribute.name)] g [[("n", .node n.id)]]) := by
  have hfound : (attributeNode "n" "name").found c [("name", n.attribute.name)] g []
      = [[("n", .node n.id)]] := found_attribute_of_mem h c rfl rfl hn rfl
  rw [run_find, found_one, hfound]

/-- A question about what is no attribute. -/
lemma run_find_attribute_of_notMem (hname : name ∉ l.names) (r : Result) :
    (Query.clauses [.find false (.nodes [attributeNode "n" "name"])] (some r)).run c
        [("name", name)] g
      = (g, r.answers [("name", name)] g []) := by
  have hfound : (attributeNode "n" "name").found c [("name", name)] g [] = [] :=
    found_attribute_of_notMem h c rfl rfl hname
  rw [run_find, found_one, hfound]

lemma run_findName_of_mem (hname : name ∈ l.names) :
    (Statement.findName name).run c g = (g, [[("name", .text name)]]) := by
  obtain ⟨n, hn, rfl⟩ := h.mem_names.1 hname
  refine (run_find_attribute_of_mem h c hn _).trans ?_
  simp [Result.answers, project, keyOf, propertyColumn, Expr.eval, Binding.get, h.node?_eq hn,
    Properties.valueOf, (h.areAttributes n hn).name, Column.counts, Bound.toJson, Scalar.toJson]

lemma run_findName_of_notMem (hname : name ∉ l.names) :
    (Statement.findName name).run c g = (g, []) :=
  run_find_attribute_of_notMem h c hname _

lemma run_getAttribute_of_mem (hn : n ∈ g.nodes) :
    (Statement.getAttribute n.attribute.name).run c g
      = (g, [[("name", .text n.attribute.name), ("description", .text n.attribute.description),
          ("primary", .bool n.attribute.primary)]]) := by
  have hnode := h.areAttributes n hn
  have hprimary : n.attribute.primary = decide ("primary" ∈ n.labels) := rfl
  refine (run_find_attribute_of_mem h c hn _).trans ?_
  simp [Result.answers, project, keyOf, propertyColumn, Expr.eval, Binding.get, h.node?_eq hn,
    Properties.valueOf, hnode.name, hnode.description, hprimary, Column.counts, Bound.toJson,
    Scalar.toJson]

lemma run_getAttribute_of_notMem (hname : name ∉ l.names) :
    (Statement.getAttribute name).run c g = (g, []) :=
  run_find_attribute_of_notMem h c hname _

lemma run_countAttributes :
    Statement.countAttributes.run c g = (g, [[("cnt", .int l.attributes.length)]]) := by
  have hfound : ({ letter := "n", label := "attribute" } : NodePattern).found c [] g []
      = (c.nodes g).map fun n => [("n", .node n.id)] := by
    rw [NodePattern.found, ← List.filterMap_eq_map]
    refine List.filterMap_congr fun n hn => ?_
    have hlabel := (h.areAttributes n ((c.nodes_perm g).mem_iff.1 hn)).label
    simp [NodePattern.fits, Wanted.holds, hlabel, Binding.putAt, Binding.put]
  rw [Statement.run, Statement.parameters, Statement.query, run_find, found_one, hfound,
    answers_count_of_map _ _ _ _ _ _ (by simp [Binding.get]), (c.nodes_perm g).length_eq,
    ← h.attributes, List.length_map]

/-! ## Finding joins -/

/-- **Both ends of a link are there.** -/
lemma exists_ends {k : GraphLink} (hk : k ∈ c.links g) :
    ∃ head ∈ g.nodes, ∃ tail ∈ g.nodes, k.IsJoin ∧ head.id = k.head ∧
      tail.id = k.tail ∧
      ∀ (parameters : List (String × String)) (front back : NodePattern) (b : Binding),
        stepAt parameters g front joinLink back b k
          = if front.fits parameters head && back.fits parameters tail then do
              let b ← b.putAt front.letter (.node k.head)
              let b ← b.put "r" (.link k.id)
              b.putAt back.letter (.node k.tail)
            else none := by
  rw [(c.links_perm g).mem_iff] at hk
  obtain ⟨⟨head, hhead, hkhead⟩, tail, htail, hktail⟩ := h.ends k hk
  have hjoin := h.areJoins k hk
  refine ⟨head, hhead, tail, htail, hjoin, hkhead, hktail, fun parameters front back b => ?_⟩
  have hfits : joinLink.fits parameters k = true := by
    simp [joinLink, LinkPattern.fits, Wanted.holds, hjoin.type]
  have hletter : joinLink.letter = "r" := rfl
  rw [stepAt, ← hkhead, ← hktail, h.node?_eq hhead, h.node?_eq htail]
  simp [hfits, hletter]

lemma run_countJoins :
    Statement.countJoins.run c g = (g, [[("cnt", .int l.joins.length)]]) := by
  have hfound : (Pattern.step { label := "attribute" } joinLink { label := "attribute" }).found
      c [] g [] = (c.links g).map fun k => [("r", .link k.id)] := by
    rw [Pattern.found, ← List.filterMap_eq_map]
    refine List.filterMap_congr fun k hk => ?_
    obtain ⟨head, hhead, tail, htail, -, -, -, hstep⟩ := exists_ends h c hk
    rw [hstep]
    simp [NodePattern.fits, Wanted.holds, (h.areAttributes head hhead).label,
      (h.areAttributes tail htail).label, Binding.putAt, Binding.put]
  have hlength : g.links.length = l.joins.length := by
    simpa using congrArg List.length h.joins
  rw [Statement.run, Statement.parameters, Statement.query, run_find, hfound,
    answers_count_of_map _ _ _ _ _ _ (by simp [Binding.get]), (c.links_perm g).length_eq, hlength]

/-- The row of an answer about a join. -/
def joinAnswer (j : Joining) : Answer :=
  [("datasource", .text j.datasource), ("query", .text j.query), ("key", .text j.key),
    ("value", .text j.value), ("selected", .bool false)]

lemma found_joins (head tail : String) :
    (Pattern.step (attributeNode "a" "head") joinLink (attributeNode "b" "tail")).found c
        [("head", head), ("tail", tail)] g []
      = ((c.links g).filter fun k => (g.join k).leads head tail).map joinBinding := by
  rw [Pattern.found, ← List.filterMap_eq_map, List.filterMap_filter]
  refine List.filterMap_congr fun k hk => ?_
  obtain ⟨front, hfront, back, hback, -, hkhead, hktail, hstep⟩ := exists_ends h c hk
  have hleads : (g.join k).leads head tail
      = (decide (front.attribute.name = head) && decide (back.attribute.name = tail)) := by
    rw [PropertyGraph.join, JoinEdge.leads, ← hkhead, ← hktail, h.nameOf_eq hfront,
      h.nameOf_eq hback, Bool.decide_and]
  rw [hstep, fits_attribute h rfl hfront, fits_attribute h rfl hback, hleads]
  rfl

lemma run_findJoins (head tail : String) :
    (Statement.findJoins head tail).run c g
      = (g, (l.between head tail).map fun e => joinAnswer e.1.toJoining) := by
  have hrows : (l.between head tail).map (fun e => joinAnswer e.1.toJoining)
      = (g.links.filter fun k => (g.join k).leads head tail).map fun k => joinAnswer k.joining := by
    have hmap := congrArg (List.map fun e : JoinEdge => joinAnswer e.toJoining)
      (h.between_eq head tail)
    rwa [List.map_map, List.map_map] at hmap
  have hsorted := mergeSort_joinBinding
    (((c.links_perm g).filter fun k => (g.join k).leads head tail))
    (h.created.sublist (List.filter_sublist.map _))
  rw [Statement.run, Statement.parameters, Statement.query, run_find, found_joins h, hrows,
    Result.answers]
  dsimp only [Option.elim]
  rw [hsorted]
  refine congrArg (Prod.mk g) ?_
  rw [project, if_neg (by decide), List.map_map, List.map_map]
  refine List.map_congr_left fun k hk => ?_
  have hk := (List.mem_filter.1 hk).1
  have hjoin := h.areJoins k hk
  simp [keyOf, propertyColumn, Expr.eval, Binding.get, joinBinding, List.lookup_cons, h.link?_eq hk,
    Properties.valueOf, hjoin.datasource, hjoin.query, hjoin.key, hjoin.value, hjoin.selected,
    Bound.toJson, Scalar.toJson, joinAnswer]

end Questions

end Crosswalk
