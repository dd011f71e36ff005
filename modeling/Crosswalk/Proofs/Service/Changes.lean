import Crosswalk.Proofs.Service.Statements

/-!
# Statements that change a graph

A change of a graph that mirrors a ledger leads to a graph that mirrors the changed ledger.  What is
there already is found and left alone: an attribute by its name, a join by all of its values.

The primary flag is a label of a node.  It is set right by the number of links that lead away from
the node, for which the rows of the node are put together; if no link does, there is one row in
which the link is missing, and nothing is counted.

* `run_mergeAttribute` — a new attribute.
* `fits_givenLink`, `run_mergeJoin_of_mem`, `run_mergeJoin_of_missing` — **a join**, which needs
  both attributes.
* `run_away`, `run_flag`, `run_recomputePrimary_of_mem` — the flag of an attribute.
* `run_clear` — everything removed.
-/

namespace Crosswalk

open Cypher

section Changes

variable {g : PropertyGraph} {l : Ledger} {n : GraphNode} (h : g.Mirrors l) (c : Choices)
include h

/-! ## Attributes -/

/-- **A new attribute** gets a node. -/
lemma run_mergeAttribute {name : String} (hname : name ∉ l.names) (description : String) :
    ∃ g' : PropertyGraph, (Statement.mergeAttribute name description).run c g = (g', []) ∧
      g'.Mirrors (l.withAttribute name description) := by
  have hfound : (attributeNode "n" "name").found c
      [("name", name), ("description", description)] g [] = [] :=
    found_attribute_of_notMem h c rfl rfl hname
  let n : GraphNode := ⟨c.newNode g, ["attribute"],
    [("name", .text name), ("description", .text description)]⟩
  refine ⟨{ g with nodes := g.nodes ++ [n] }, ?_, ?_⟩
  · rw [Statement.run, Statement.parameters, Statement.query, Query.run, runAll, Clause.run,
      eachRow, mergeNodeAt, hfound]
    rfl
  · exact h.withAttribute hname ⟨by simp [n], rfl, rfl⟩ rfl (c.newNode_ne g)

/-! ## Joins -/

/-- **A link fits if it is the join that is given.** -/
lemma fits_givenLink {head tail : GraphNode} (hhead : head ∈ g.nodes) (htail : tail ∈ g.nodes)
    {k : GraphLink} (hk : k ∈ g.links) (j : Joining) :
    (k.head = head.id ∧ k.tail = tail.id ∧ givenLink.fits
        (Statement.mergeJoin head.attribute.name tail.attribute.name j).parameters k = true)
      ↔ g.join k = { j with head := head.attribute.name, tail := tail.attribute.name } := by
  have hjoin := h.areJoins k hk
  have hsame : k.joining = j ↔
      k.joining.datasource = j.datasource ∧ k.joining.query = j.query ∧
      k.joining.key = j.key ∧ k.joining.value = j.value := by
    cases k.joining
    cases j
    rw [Joining.mk.injEq]
  have hfits : givenLink.fits (Statement.mergeJoin head.attribute.name tail.attribute.name
      j).parameters k = true ↔ k.joining = j := by
    rw [hsame]
    simp [givenLink, joinLink, LinkPattern.fits, Wanted.holds, Statement.parameters,
      List.lookup_cons, hjoin.type, hjoin.datasource, hjoin.query, hjoin.key, hjoin.value]
  rw [hfits, h.id_eq_iff (h.ends k hk).1 hhead, h.id_eq_iff (h.ends k hk).2 htail]
  constructor
  · rintro ⟨hheadName, htailName, rfl⟩
    rw [PropertyGraph.join, hheadName, htailName]
  · intro heq
    exact ⟨congrArg JoinEdge.head heq, congrArg JoinEdge.tail heq,
      congrArg JoinEdge.toJoining heq⟩

/-- The rows in front of a join: both attributes, if they are there. -/
lemma found_ends {head tail : GraphNode} (hhead : head ∈ g.nodes) (htail : tail ∈ g.nodes)
    (j : Joining) :
    (Pattern.nodes [attributeNode "a" "head", attributeNode "b" "tail"]).found c
        (Statement.mergeJoin head.attribute.name tail.attribute.name j).parameters g []
      = [[("a", .node head.id), ("b", .node tail.id)]] := by
  let s := Statement.mergeJoin head.attribute.name tail.attribute.name j
  have hfirst : (attributeNode "a" "head").found c s.parameters g [] = [[("a", .node head.id)]] :=
    found_attribute_of_mem h c rfl rfl hhead rfl
  have hsecond : (attributeNode "b" "tail").found c s.parameters g [("a", .node head.id)]
      = [[("a", .node head.id), ("b", .node tail.id)]] :=
    found_attribute_of_mem h c rfl rfl htail rfl
  rw [found_two, hfirst, List.flatMap_singleton, hsecond]

omit h in
/-- What the statement does with the rows in front of a join. -/
lemma run_mergeJoin (head tail : String) (j : Joining) {bs : List Binding}
    (hfound : (Pattern.nodes [attributeNode "a" "head", attributeNode "b" "tail"]).found c
      (Statement.mergeJoin head tail j).parameters g [] = bs) :
    let s := Statement.mergeJoin head tail j
    let out := eachRow (mergeLinkAt c s.parameters "a" givenLink "b"
      [("selected", .constant (.bool false))]) g bs
    s.run c g
      = (out.1, Result.answers s.parameters out.1 out.2 { columns := [.count "r" "cnt"] }) := by
  intro s out
  rw [Statement.run, Statement.query, Query.run, runAll_cons, run_clause_find, hfound]
  rfl

omit h in
/-- **A link that is not found** is created. -/
lemma mergeLinkAt_of_nil {parameters : List (String × String)} {front back : String}
    {p : LinkPattern} {created : List (String × Expr)} {b : Binding} {head tail : Nat}
    (hfront : b.get front = .node head) (hback : b.get back = .node tail)
    (hnone : (c.links g).filter
      (fun k => k.head = head ∧ k.tail = tail ∧ p.fits parameters k) = []) :
    let k : GraphLink := ⟨c.newLink g, p.type, head, tail,
      Wanted.properties parameters p.wanted ++ valuesOf parameters g b created⟩
    mergeLinkAt c parameters front p back created g b
      = ({ g with links := g.links ++ [k] }, (b.put p.letter (.link k.id)).toList) := by
  rw [mergeLinkAt, hfront, hback]
  dsimp only
  rw [hnone]

omit h in
/-- **Links that are found** are left alone. -/
lemma mergeLinkAt_of_cons {parameters : List (String × String)} {front back : String}
    {p : LinkPattern} {created : List (String × Expr)} {b : Binding} {head tail : Nat}
    {k : GraphLink} {ks : List GraphLink}
    (hfront : b.get front = .node head) (hback : b.get back = .node tail)
    (hsome : (c.links g).filter
      (fun k => k.head = head ∧ k.tail = tail ∧ p.fits parameters k) = k :: ks) :
    mergeLinkAt c parameters front p back created g b
      = (g, (k :: ks).filterMap fun k => b.put p.letter (.link k.id)) := by
  rw [mergeLinkAt, hfront, hback]
  dsimp only
  rw [hsome]

/-- **A join between attributes** has a link behind the statement. -/
lemma run_mergeJoin_of_mem {head tail : String} (hhead : head ∈ l.names)
    (htail : tail ∈ l.names) (j : Joining) :
    ∃ (g' : PropertyGraph) (n : Nat),
      (Statement.mergeJoin head tail j).run c g = (g', [[("cnt", .int (n + 1))]]) ∧
      g'.Mirrors (l.withJoin head tail j) := by
  obtain ⟨front, hfront, rfl⟩ := h.mem_names.1 hhead
  obtain ⟨back, hback, rfl⟩ := h.mem_names.1 htail
  let s := Statement.mergeJoin front.attribute.name back.attribute.name j
  let b : Binding := [("a", .node front.id), ("b", .node back.id)]
  let wanted (k : GraphLink) : Bool :=
    k.head = front.id ∧ k.tail = back.id ∧ givenLink.fits s.parameters k = true
  have hwanted {k : GraphLink} (hk : k ∈ g.links) : wanted k = true ↔ g.join k = { j with
      head := front.attribute.name, tail := back.attribute.name } :=
    decide_eq_true_iff.trans (fits_givenLink h hfront hback hk j)
  rw [run_mergeJoin c _ _ j (found_ends h c hfront hback j), eachRow_singleton]
  cases hfilter : (c.links g).filter wanted with
  | nil =>
      -- nothing fits: a link is created, and the join is new to the ledger
      have hnew : ∀ k ∈ g.links, g.join k ≠ { j with
          head := front.attribute.name, tail := back.attribute.name } := fun k hk hjoin =>
        List.filter_eq_nil_iff.1 hfilter k ((c.links_perm g).mem_iff.2 hk) ((hwanted hk).2 hjoin)
      rw [mergeLinkAt_of_nil c (b := b) rfl rfl hfilter]
      exact ⟨_, 0, congrArg (Prod.mk _) (answers_count _ _ _ _ _),
        h.withJoin ⟨rfl, rfl, rfl, rfl, rfl, rfl⟩ hfront hback rfl rfl hnew (c.lt_newLink g)⟩
  | cons k ks =>
      -- what fits is the join itself, which the ledger knows
      have hk :=
        (List.mem_filter.1 (hfilter ▸ List.mem_cons_self : k ∈ (c.links g).filter wanted))
      have hlink := (c.links_perm g).mem_iff.1 hk.1
      have hknown : l.withJoin front.attribute.name back.attribute.name j = l := by
        obtain ⟨e, he, hej⟩ := h.known_iff.2 ⟨k, hlink, (hwanted hlink).1 hk.2⟩
        exact dif_neg fun hcondition => hcondition.2.2 e he hej
      have hcount := answers_count_of_map s.parameters g "r" "cnt" (k :: ks)
        (fun k => b ++ [("r", .link k.id)]) fun k _ => by
          have hget : Binding.get (b ++ [("r", .link k.id)]) "r" = .link k.id := rfl
          rw [hget]
          exact nofun
      have hput : (fun k : GraphLink => b.put givenLink.letter (.link k.id))
          = fun k => some (b ++ [("r", .link k.id)]) := rfl
      rw [mergeLinkAt_of_cons c (b := b) rfl rfl hfilter, hput, List.filterMap_eq_map']
      exact ⟨g, ks.length, congrArg (Prod.mk g) hcount, by rwa [hknown]⟩

/-- **No join without its attributes.** -/
lemma run_mergeJoin_of_missing {head tail : String}
    (hmissing : ¬ (head ∈ l.names ∧ tail ∈ l.names)) (j : Joining) :
    (Statement.mergeJoin head tail j).run c g = (g, [[("cnt", .int 0)]]) := by
  let s := Statement.mergeJoin head tail j
  have hfound : (Pattern.nodes [attributeNode "a" "head", attributeNode "b" "tail"]).found c
      s.parameters g [] = [] := by
    rw [found_two, List.flatMap_eq_nil_iff]
    intro b hb
    by_cases hhead : head ∈ l.names
    · obtain ⟨n, hn, hname⟩ := h.mem_names.1 hhead
      have hfirst : (attributeNode "a" "head").found c s.parameters g [] = [[("a", .node n.id)]] :=
        found_attribute_of_mem h c rfl rfl hn hname
      rw [hfirst, List.mem_singleton] at hb
      rw [hb]
      exact found_attribute_of_notMem h c rfl rfl fun htail => hmissing ⟨hhead, htail⟩
    · have hfirst : (attributeNode "a" "head").found c s.parameters g [] = [] :=
        found_attribute_of_notMem h c rfl rfl hhead
      rw [hfirst] at hb
      cases hb
  rw [run_mergeJoin c _ _ j hfound]
  exact congrArg (Prod.mk g) (answers_count _ _ _ _ _)

/-! ## Flags -/

/-- The links that lead away from a node. -/
lemma found_away (parameters : List (String × String)) (n : GraphNode) :
    (Pattern.step { letter := "n" } joinLink {}).found c parameters g [("n", .node n.id)]
      = ((c.links g).filter fun k => k.head = n.id).map fun k =>
          [("n", .node n.id), ("r", .link k.id)] := by
  rw [Pattern.found, ← List.filterMap_eq_map, List.filterMap_filter]
  refine List.filterMap_congr fun k hk => ?_
  obtain ⟨head, -, tail, -, -, -, -, hstep⟩ := exists_ends h c hk
  rw [hstep]
  by_cases hhead : k.head = n.id
  · simp [NodePattern.fits, Wanted.holds, Binding.putAt, Binding.put, List.lookup_cons, hhead]
  · simp [NodePattern.fits, Wanted.holds, Binding.putAt, Binding.put, hhead, Ne.symm hhead]

/-- There are as many of them as joins that lead away from the attribute. -/
lemma length_away (hn : n ∈ g.nodes) :
    ((c.links g).filter fun k => k.head = n.id).length
      = l.joins.countP fun j => j.1.head = n.attribute.name := by
  have hjoins : (g.links.map g.join).countP (fun j => j.head = n.attribute.name)
      = (l.joins.map Prod.fst).countP (fun j => j.head = n.attribute.name) := by rw [h.joins]
  rw [List.countP_map, List.countP_map] at hjoins
  rw [← List.countP_eq_length_filter, (c.links_perm g).countP_eq]
  refine Eq.trans (List.countP_congr fun k hk => ?_) hjoins
  rw [decide_eq_true_iff, h.id_eq_iff (h.ends k hk).1 hn]
  exact decide_eq_true_iff.symm

omit h in
/-- Rows of one node are put together. -/
lemma project_counted (parameters : List (String × String)) (id : Nat) {bs : List Binding}
    (hsome : bs ≠ []) (hbs : ∀ b ∈ bs, b.get "n" = .node id) :
    project parameters g [.kept "n", .count "r" "cnt"] bs = [[("n", .node id),
      ("cnt", .value (.int (bs.countP fun b => b.get "r" ≠ .value .null)))]] := by
  have hkey : ∀ b ∈ bs, keyOf parameters g [.kept "n", .count "r" "cnt"] b
      = [("n", .node id)] := by
    intro b hb
    simp [keyOf, hbs b hb]
  -- all rows agree in the node, so there is one group of them
  have hkeys : (bs.map (keyOf parameters g [.kept "n", .count "r" "cnt"])).eraseDups
      = [[("n", .node id)]] := by
    rw [List.map_congr_left hkey]
    cases bs with
    | nil => exact absurd rfl hsome
    | cons b bs => simp [List.eraseDups_cons]
  have hmembers : bs.filter
      (fun b => keyOf parameters g [.kept "n", .count "r" "cnt"] b = [("n", .node id)]) = bs :=
    List.filter_eq_self.2 fun b hb => decide_eq_true (hkey b hb)
  rw [project, if_pos (by decide), if_neg (by decide)]
  dsimp only
  rw [hkeys, List.map_singleton, hmembers]
  rfl

/-- The labels of a node whose attribute is primary, or is not. -/
def primaryLabels (primary : Bool) (ls : List String) : List String :=
  if primary then (if ls.contains "primary" then ls else ls ++ ["primary"])
  else ls.filter (· ≠ "primary")

omit h in
lemma mem_primaryLabels (primary : Bool) (ls : List String) :
    ("primary" ∈ primaryLabels primary ls ↔ primary = true) ∧
      ("attribute" ∈ ls → "attribute" ∈ primaryLabels primary ls) := by
  cases primary with
  | false => simp [primaryLabels]
  | true =>
      rw [primaryLabels, if_pos rfl]
      split
      · next hls => exact ⟨⟨fun _ => rfl, fun _ => by simpa using hls⟩, id⟩
      · exact ⟨⟨fun _ => rfl, fun _ => by simp⟩, List.mem_append_left _⟩

/-- The rows of the links that lead away from a node; one row, if there is none. -/
lemma run_away (parameters : List (String × String)) (hn : n ∈ g.nodes) :
    ∃ bs : List Binding, Clause.run c parameters g [[("n", .node n.id)]]
        (.find true (.step { letter := "n" } joinLink {})) = (g, bs) ∧
      bs ≠ [] ∧ (∀ b ∈ bs, b.get "n" = .node n.id) ∧
      (bs.countP fun b => b.get "r" ≠ .value .null)
        = l.joins.countP fun j => j.1.head = n.attribute.name := by
  rw [Clause.run, List.flatMap_singleton, found_away h c parameters n, ← length_away h c hn]
  cases (c.links g).filter fun k => k.head = n.id with
  | nil =>
      exact ⟨_, rfl, by simp, by simp [Pattern.missed, Pattern.letters, joinLink, Binding.get], by
        simp [Pattern.missed, Pattern.letters, joinLink, Binding.get, List.lookup_cons]⟩
  | cons k ks =>
      refine ⟨_, rfl, List.cons_ne_nil _ _, fun b hb => ?_, ?_⟩
      · obtain ⟨k, -, rfl⟩ := List.mem_map.1 (hb : b ∈ (k :: ks).map _)
        rfl
      · let row (k : GraphLink) : Binding := [("n", .node n.id), ("r", .link k.id)]
        show ((k :: ks).map row).countP _ = _
        rw [List.countP_map, List.countP_eq_length]
        intro k _
        simp [row, Binding.get, List.lookup_cons]

omit h in
lemma run_change (parameters : List (String × String)) (b : Binding) {condition : Expr}
    (relabeling : Relabeling) {p : Prop} [Decidable p]
    (hcondition : condition.scalar parameters g b = .bool p) :
    Clause.run c parameters g [b] (.change condition relabeling)
      = (if p then relabeling.apply b g else g, [b]) := by
  rw [Clause.run, List.foldl_cons, List.foldl_nil, hcondition]
  simp

omit h in
/-- The two clauses that set a flag right. -/
lemma run_flag (parameters : List (String × String)) (id count : Nat) :
    runAll c parameters g [[("n", .node id), ("cnt", .value (.int count))]]
        [.change (.above "cnt" 1) (.set "n" "primary"),
          .change (.atMost "cnt" 1) (.remove "n" "primary")]
      = (g.relabel (primaryLabels (1 < count)) id,
          [[("n", .node id), ("cnt", .value (.int count))]]) := by
  rw [runAll_cons, run_change c parameters _ _ (p := (1 : Int) < count) rfl, runAll_cons,
    run_change c parameters _ _ (p := (count : Int) ≤ 1) rfl, runAll]
  by_cases hmany : 1 < count
  · have habove : (1 : Int) < count := by omega
    rw [if_pos habove, if_neg (by omega), decide_eq_true hmany]
    rfl
  · have hatMost : (count : Int) ≤ 1 := by omega
    rw [if_pos hatMost, if_neg (by omega), decide_eq_false hmany]
    rfl

/-- **The flag of an attribute** is found out from its links. -/
lemma run_recomputePrimary_of_mem {name : String} (hname : name ∈ l.names) :
    ∃ g' : PropertyGraph, (Statement.recomputePrimary name).run c g
        = (g', [[("primary", .bool (1 < l.joins.countP fun j => j.1.head = name))]]) ∧
      g'.Mirrors (l.withFlag name) := by
  obtain ⟨n, hn, rfl⟩ := h.mem_names.1 hname
  let parameters : List (String × String) := [("name", n.attribute.name)]
  let count := l.joins.countP fun j => j.1.head = n.attribute.name
  refine ⟨g.relabel (primaryLabels (1 < count)) n.id, ?_, ?_⟩
  · have hfound : (attributeNode "n" "name").found c parameters g [] = [[("n", .node n.id)]] :=
      found_attribute_of_mem h c rfl rfl hn rfl
    obtain ⟨bs, haway, hsome, hnode, hcount⟩ := run_away h c parameters hn
    have hcolumns : Clause.run c parameters g bs (.columns [.kept "n", .count "r" "cnt"])
        = (g, [[("n", .node n.id), ("cnt", .value (.int count))]]) := by
      rw [Clause.run, project_counted parameters n.id hsome hnode, hcount]
    rw [Statement.run, Statement.parameters, Statement.query, Query.run, runAll_cons,
      run_clause_find, found_one, hfound, runAll_cons, haway, runAll_cons, hcolumns, run_flag]
    have hflag : decide ((1 : Int) < count) = decide (1 < count) := decide_eq_decide.2 (by omega)
    exact congrArg (Prod.mk _) (congrArg (fun b => [[("primary", Json.bool b)]]) hflag)
  · refine h.withFlag hn (fun ls => (mem_primaryLabels _ ls).2) fun ls => ?_
    rw [(mem_primaryLabels _ ls).1, decide_eq_true_iff]

/-- No flag without its attribute. -/
lemma run_recomputePrimary_of_notMem {name : String} (hname : name ∉ l.names) :
    (Statement.recomputePrimary name).run c g = (g, []) := by
  have hfound : (attributeNode "n" "name").found c [("name", name)] g [] = [] :=
    found_attribute_of_notMem h c rfl rfl hname
  rw [Statement.run, Statement.parameters, Statement.query, Query.run, runAll_cons,
    run_clause_find, found_one, hfound]
  rfl

/-! ## Everything -/

omit h in
/-- Nodes taken away one after the other, with their links. -/
lemma foldl_detach (ids : List Nat) (g : PropertyGraph) :
    ids.foldl (fun g id => g.detach id) g
      = { nodes := g.nodes.filter fun n => n.id ∉ ids
          links := g.links.filter fun k => k.head ∉ ids ∧ k.tail ∉ ids } := by
  induction ids generalizing g with
  | nil => simp
  | cons id ids ih =>
      rw [List.foldl_cons, ih, PropertyGraph.detach, List.filter_filter, List.filter_filter]
      congr 1
      · refine List.filter_congr fun n _ => ?_
        rw [Bool.eq_iff_iff]
        simp only [Bool.and_eq_true, decide_eq_true_iff, List.mem_cons]
        tauto
      · refine List.filter_congr fun k _ => ?_
        rw [Bool.eq_iff_iff]
        simp only [Bool.and_eq_true, decide_eq_true_iff, List.mem_cons]
        tauto

/-- **Nothing is left.** -/
lemma run_clear : Statement.clear.run c g = (.empty, []) := by
  have hfound : ({ letter := "n" } : NodePattern).found c [] g []
      = (c.nodes g).map fun n => [("n", .node n.id)] := by
    rw [NodePattern.found, ← List.filterMap_eq_map]
    refine List.filterMap_congr fun n _ => ?_
    simp [NodePattern.fits, Wanted.holds, Binding.putAt, Binding.put]
  have hids : ∀ n ∈ g.nodes, n.id ∈ (c.nodes g).map GraphNode.id := fun n hn =>
    List.mem_map_of_mem ((c.nodes_perm g).mem_iff.2 hn)
  have hdelete : Clause.run c [] g ((c.nodes g).map fun n => [("n", .node n.id)]) (.delete "n")
      = (.empty, (c.nodes g).map fun n => [("n", .node n.id)]) := by
    have hfold := foldl_detach ((c.nodes g).map GraphNode.id) g
    have hnodes : (g.nodes.filter fun n => n.id ∉ (c.nodes g).map GraphNode.id) = [] :=
      List.filter_eq_nil_iff.2 fun n hn => by simpa using hids n hn
    have hlinks : (g.links.filter fun k => k.head ∉ (c.nodes g).map GraphNode.id ∧
        k.tail ∉ (c.nodes g).map GraphNode.id) = [] := by
      refine List.filter_eq_nil_iff.2 fun k hk hkept => ?_
      obtain ⟨⟨n, hn, hid⟩, -⟩ := h.ends k hk
      exact (of_decide_eq_true hkept).1 (hid ▸ hids n hn)
    rw [hnodes, hlinks, List.foldl_map] at hfold
    rw [Clause.run, List.foldl_map]
    exact congrArg (Prod.mk · _) hfold
  rw [Statement.run, Statement.parameters, Statement.query, Query.run, runAll_cons,
    run_clause_find, found_one, hfound, runAll_cons, hdelete]
  rfl

end Changes

end Crosswalk
