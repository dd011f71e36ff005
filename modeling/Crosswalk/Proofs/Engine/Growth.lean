import Mathlib.Data.List.Flatten
import Crosswalk.Proofs.Engine.Join
import Crosswalk.Proofs.Engine.Modes
import Crosswalk.Proofs.Engine.Paths
import Crosswalk.Proofs.Pipeline.Groups
import Crosswalk.Proofs.Source.Stream

/-!
# More data, more results

A step that looks at one row at a time does not care which other rows there are.  So if all steps
of a query are of that kind, further pairs in the sources only lead to further rows: those that were
there before stay, in their order.

* `World.Grows` — **the sources hold more pairs**, and all else stays.
* `Step.IsRowwise` — a step that filters or computes.  `pipeline_sublist` says what such steps
  make of more rows, and `startRows_sublist` what a join makes of more rows and more pairs.
* `outcome_grows` — **the result of a node**, by induction on the tree.
* **`evaluateWith_grows`** — the report of a query.
-/

namespace Crosswalk

open QueryTree

/-! ## Worlds -/

/-- **A world that grows**: its joins stay, and whatever can be read behind could be read before,
with a part of the pairs. -/
structure World.Grows (w w' : World) : Prop where
  joins : w'.joins = w.joins
  reads : ∀ e, w'.Readable e → w.Readable e ∧ (w.pairsOf e).Sublist (w'.pairsOf e)

/-- A world whose sources hold the pairs of a table, so that reading them never fails. -/
def World.ofPairs (joins : (head tail : String) → Except Error (List JoinEdge))
    (sources : Catalog) (pairs : Source → (key value : String) → List Pair) : World where
  joins := joins
  sources := sources
  read source key value := .done (.ofItems source.name ((pairs source key value).map .ok))

section Tables

variable {joins : (head tail : String) → Except Error (List JoinEdge)} {sources : Catalog}
  {pairs pairs' : Source → (key value : String) → List Pair}

lemma pairsOf_ofPairs (e : JoinEdge) :
    (World.ofPairs joins sources pairs).pairsOf e
      = (sources.find? e.datasource).elim [] fun source => pairs source e.key e.value := by
  rw [World.pairsOf]
  cases hsource : sources.find? e.datasource with
  | none => simp [World.ofPairs, hsource]
  | some source =>
      simp [World.ofPairs, hsource, Stream.collect_ofItems, Traced.result_done, List.filterMap_map,
        Function.comp_def, Except.toOption]

lemma readable_ofPairs {e : JoinEdge} :
    (World.ofPairs joins sources pairs).Readable e ↔ (sources.find? e.datasource).isSome := by
  constructor
  · rintro ⟨source, -, hsource, -⟩
    exact Option.isSome_iff_exists.2 ⟨source, hsource⟩
  · intro h
    obtain ⟨source, hsource⟩ := Option.isSome_iff_exists.1 h
    refine ⟨source, _, hsource, rfl, fun item hitem => ?_⟩
    rw [Stream.collect_ofItems] at hitem
    obtain ⟨p, -, rfl⟩ := List.mem_map.1 hitem
    exact ⟨p, rfl⟩

/-- **Tables that grow** make a world that grows. -/
lemma grows_ofPairs
    (h : ∀ source key value, (pairs source key value).Sublist (pairs' source key value)) :
    (World.ofPairs joins sources pairs).Grows (World.ofPairs joins sources pairs') := by
  refine ⟨rfl, fun e he => ⟨readable_ofPairs.2 (readable_ofPairs.1 he), ?_⟩⟩
  rw [pairsOf_ofPairs, pairsOf_ofPairs]
  cases sources.find? e.datasource with
  | none => exact .slnil
  | some source => exact h source e.key e.value

end Tables

/-- Reading joins succeeds only if nothing fails that is read. -/
lemma readable_of_readJoins {w : World} {child parent : QueryNode} {edges : List JoinEdge}
    {pairs out : List Pair} (h : (readJoins w child parent pairs edges).result = .ok out) :
    ∀ e ∈ edges, w.Readable e := by
  induction edges generalizing pairs with
  | nil => simp
  | cons e edges ih =>
      rw [readJoins] at h
      split at h
      · cases h
      · next source hsource =>
        simp only [Traced.result_bind, Traced.result_of, Traced.result_note, ok_bind] at h
        obtain ⟨stream, hstream, h⟩ := bind_eq_ok.1 h
        obtain ⟨more, hmore, h⟩ := bind_eq_ok.1 h
        intro e' he'
        rcases List.mem_cons.1 he' with rfl | he'
        · refine ⟨source, stream, hsource, hstream, fun item hitem => ?_⟩
          obtain ⟨p, -, hp⟩ := exists_ok_of_mapM hmore item hitem
          exact ⟨p, hp⟩
        · exact ih h e' he'

/-- **What is read for a node** if reading succeeds: its pairs, unless there is no join. -/
lemma edgePairs_eq_ok {w : World} {child parent : QueryNode} {pairs : Option (List Pair)} :
    (edgePairs w child parent).result = .ok pairs ↔
      ∃ edges, w.joins child.name parent.name = .ok edges ∧ (∀ e ∈ edges, w.Readable e) ∧
        pairs = if edges.isEmpty then none else some (edges.flatMap w.pairsOf) := by
  rw [edgePairs, Traced.result_bind, Traced.result_of, bind_eq_ok]
  refine exists_congr fun edges => and_congr_right fun _ => ?_
  rw [Traced.result_bind, Traced.result_note, ok_bind]
  by_cases hnil : edges.isEmpty
  · rw [if_pos hnil, if_pos hnil]
    rw [List.isEmpty_iff] at hnil
    subst hnil
    constructor
    · intro h
      cases h
      simp
    · rintro ⟨-, rfl⟩
      rfl
  · rw [if_neg hnil, if_neg hnil, Traced.result_bind, bind_eq_ok]
    constructor
    · rintro ⟨out, hout, h⟩
      have hread := readable_of_readJoins hout
      rw [readJoins_result hread, List.nil_append] at hout
      cases hout
      cases h
      exact ⟨hread, rfl⟩
    · rintro ⟨hread, rfl⟩
      exact ⟨_, readJoins_result hread [], rfl⟩

/-- **The pairs of a node grow with the world**, and a join is there or not as before. -/
lemma World.Grows.edgePairs {w w' : World} (hw : w.Grows w') {child parent : QueryNode}
    {pairs' : Option (List Pair)} (h : (edgePairs w' child parent).result = .ok pairs') :
    ∃ pairs, (Crosswalk.edgePairs w child parent).result = .ok pairs ∧
      Option.Rel List.Sublist pairs pairs' := by
  obtain ⟨edges, hedges, hread, rfl⟩ := edgePairs_eq_ok.1 h
  have hread' := fun e he => hw.reads e (hread e he)
  refine ⟨_,
    edgePairs_eq_ok.2 ⟨edges, hw.joins ▸ hedges, fun e he => (hread' e he).1, rfl⟩, ?_⟩
  split
  · exact .none
  · exact .some (List.Sublist.flatMap_right edges fun e he => (hread' e he).2)

/-! ## Steps -/

/-- A step that looks at one row at a time. -/
def Step.IsRowwise : Step → Prop
  | .filter _ => True
  | .map _ => True
  | .aggregate _ => False

instance (step : Step) : Decidable step.IsRowwise := by
  cases step <;> unfold Step.IsRowwise <;> infer_instance

section Steps

variable {focus : String} {group : Option String} {rows rows' out' : List Row}

lemma Step.keep_sublist {f : Formula} (hsub : rows.Sublist rows') (h : keep f rows' = .ok out') :
    ∃ out, keep f rows = .ok out ∧ out.Sublist out' := by
  induction hsub generalizing out' with
  | slnil =>
      cases h
      exact ⟨[], rfl, .slnil⟩
  | cons row hsub ih =>
      obtain ⟨v, -, h⟩ := bind_eq_ok.1 h
      obtain ⟨kept', hkept', h⟩ := bind_eq_ok.1 h
      cases h
      obtain ⟨kept, hkept, hsub⟩ := ih hkept'
      refine ⟨kept, hkept, ?_⟩
      split
      · exact hsub.cons row
      · exact hsub
  | cons_cons row hsub ih =>
      obtain ⟨v, hv, h⟩ := bind_eq_ok.1 h
      obtain ⟨kept', hkept', h⟩ := bind_eq_ok.1 h
      cases h
      obtain ⟨kept, hkept, hsub⟩ := ih hkept'
      refine ⟨_, by rw [keep, hv, ok_bind, hkept, ok_bind], ?_⟩
      split
      · exact hsub.cons_cons row
      · exact hsub

/-- **One step** on a part of the rows. -/
lemma Step.apply_sublist {step : Step} (hstep : step.IsRowwise) (hsub : rows.Sublist rows')
    (h : step.apply focus group rows' = .ok out') :
    ∃ out, step.apply focus group rows = .ok out ∧ out.Sublist out' := by
  cases step with
  | filter source =>
      obtain ⟨f, hf, h⟩ := bind_eq_ok.1 h
      obtain ⟨out, hout, hsub⟩ := keep_sublist hsub h
      exact ⟨out, by rw [apply, hf, ok_bind, hout], hsub⟩
  | map source =>
      obtain ⟨f, hf, h⟩ := bind_eq_ok.1 h
      obtain ⟨out, hout, hsub⟩ := mapM_sublist hsub h
      exact ⟨out, by rw [apply, hf, ok_bind, hout], hsub⟩
  | aggregate a => exact hstep.elim

/-- **A pipeline of rowwise steps** on a part of the rows. -/
theorem pipeline_sublist {steps : List Step} (hsteps : ∀ step ∈ steps, step.IsRowwise)
    (hsub : rows.Sublist rows') (h : pipeline focus group steps rows' = .ok out') :
    ∃ out, pipeline focus group steps rows = .ok out ∧ out.Sublist out' := by
  simp only [pipeline_eq_ok] at h ⊢
  induction steps generalizing rows rows' with
  | nil =>
      cases h
      exact ⟨rows, rfl, hsub⟩
  | cons step steps ih =>
      obtain ⟨mid', hmid', h⟩ := bind_eq_ok.1 h
      obtain ⟨mid, hmid, hsub⟩ := Step.apply_sublist (hsteps step List.mem_cons_self) hsub hmid'
      obtain ⟨out, hout, hsub⟩ := ih (fun s hs => hsteps s (List.mem_cons_of_mem _ hs)) hsub h
      exact ⟨out, by rw [applySteps, hmid, ok_bind, hout], hsub⟩

end Steps

/-! ## Joins -/

lemma joinRow_sublist {pairs pairs' : List Pair} (h : pairs.Sublist pairs')
    (label parent : String) (row : Row) :
    (joinRow (PairIndex.ofPairs pairs) label parent row).Sublist
      (joinRow (PairIndex.ofPairs pairs') label parent row) := by
  cases hget : row.get? label with
  | none => simp [joinRow, hget]
  | some own =>
      rw [joinRow_ofPairs hget, joinRow_ofPairs hget]
      exact (h.filter _).map _

/-- **The rows of a node in front of its steps** grow with the rows from below and the pairs. -/
lemma startRows_sublist {incoming incoming' : List Row} {pairs pairs' : List Pair}
    (hin : incoming.Sublist incoming') (hpairs : pairs.Sublist pairs') (t : QueryTree)
    (parent : String) :
    (startRows t parent incoming pairs).Sublist (startRows t parent incoming' pairs') := by
  unfold startRows
  split
  · exact hpairs.map _
  · exact (List.Sublist.flatMap_right incoming fun row _ =>
      joinRow_sublist hpairs t.label parent row).trans (hin.flatMap _)

/-! ## Results -/

/-- A result that grows. -/
structure NodeResult.Grows (r r' : NodeResult) : Prop where
  rows : r.rows.Sublist r'.rows
  contribution : r.contribution.Sublist r'.contribution

namespace QueryTree

/-- All steps of a tree look at one row at a time. -/
def Rowwise (tree : QueryTree) : Prop :=
  ∀ t ∈ tree.postorder, ∀ step ∈ t.own.steps, step.IsRowwise

lemma Rowwise.child {own : QueryNode} {ts : List QueryTree} (h : (node own ts).Rowwise)
    {c : QueryTree} (hc : c ∈ ts) : c.Rowwise :=
  fun t ht => h t (mem_postorder_of_child hc ht)

end QueryTree

/-- **The result of a visit** grows with what comes from below and what is read. -/
lemma resultOf_grows {t : QueryTree} (hsteps : ∀ step ∈ t.own.steps, step.IsRowwise)
    {incoming incoming' : List Row} {pairs pairs' : Option (List Pair)}
    (hin : incoming.Sublist incoming') (hpairs : Option.Rel List.Sublist pairs pairs')
    {parent : Option QueryNode} {r' : NodeResult}
    (h : resultOf t parent incoming' pairs' = .ok r') :
    ∃ r, resultOf t parent incoming pairs = .ok r ∧ r.Grows r' := by
  have hapart : resultOf t none incoming' none = .ok r' →
      ∃ r, resultOf t none incoming none = .ok r ∧ r.Grows r' := by
    intro h
    rw [resultOf_top] at h ⊢
    obtain ⟨rows', hrows', h⟩ := bind_eq_ok.1 h
    cases h
    obtain ⟨rows, hrows, hsub⟩ := pipeline_sublist hsteps hin hrows'
    exact ⟨⟨rows, []⟩, by rw [hrows, ok_bind], hsub, .slnil⟩
  cases parent with
  | none => exact hapart h
  | some p =>
      cases hpairs with
      | none => exact hapart h
      | some hpairs =>
          rw [resultOf_joined] at h ⊢
          obtain ⟨rows', hrows', h⟩ := bind_eq_ok.1 h
          cases h
          obtain ⟨rows, hrows, hsub⟩ :=
            pipeline_sublist hsteps (startRows_sublist hin hpairs t p.label) hrows'
          exact ⟨⟨rows, rows⟩, by rw [hrows, ok_bind], hsub, hsub⟩

section Engines

variable {w w' : World}

/-- What children hand on grows if the result of each of them does. -/
lemma handedOn_grows {parent : QueryNode} {ts : List QueryTree} {rows' : List Row}
    (hts : ∀ c ∈ ts, ∀ r', c.outcome w' (some parent) = .ok r' →
      ∃ r, c.outcome w (some parent) = .ok r ∧ r.Grows r')
    (h : handedOn w' parent ts = .ok rows') :
    ∃ rows, handedOn w parent ts = .ok rows ∧ rows.Sublist rows' := by
  induction ts generalizing rows' with
  | nil =>
      cases h
      exact ⟨[], rfl, .slnil⟩
  | cons c ts ih =>
      obtain ⟨r', hr', h⟩ := bind_eq_ok.1 h
      obtain ⟨rest', hrest', h⟩ := bind_eq_ok.1 h
      cases h
      obtain ⟨r, hr, hgrows⟩ := hts c List.mem_cons_self r' hr'
      obtain ⟨rest, hrest, hsub⟩ := ih (fun u hu => hts u (List.mem_cons_of_mem _ hu)) hrest'
      exact ⟨_, by rw [handedOn, hr, ok_bind, hrest, ok_bind], hgrows.contribution.append hsub⟩

/-- **The result of a node** in a world that grows. -/
theorem outcome_grows (hw : w.Grows w') {t : QueryTree} (ht : t.Rowwise) {parent : Option QueryNode}
    {r' : NodeResult} (h : t.outcome w' parent = .ok r') :
    ∃ r, t.outcome w parent = .ok r ∧ r.Grows r' := by
  induction t using QueryTree.induction generalizing parent r' with
  | node own ts ih =>
      obtain ⟨incoming', hincoming', h⟩ := bind_eq_ok.1 h
      rw [visit_result] at h
      obtain ⟨pairs', hpairs', h⟩ := bind_eq_ok.1 h
      obtain ⟨incoming, hincoming, hin⟩ :=
        handedOn_grows (fun c hc r' hr' => ih c hc (ht.child hc) hr') hincoming'
      obtain ⟨pairs, hpairs, hrel⟩ : ∃ pairs, nodePairs w parent (node own ts) = .ok pairs ∧
          Option.Rel List.Sublist pairs pairs' := by
        cases parent with
        | none =>
            cases hpairs'
            exact ⟨none, rfl, .none⟩
        | some p => exact hw.edgePairs hpairs'
      obtain ⟨r, hr, hgrows⟩ := resultOf_grows (ht _ (self_mem_postorder _)) hin hrel h
      exact ⟨r, by rw [outcome, hincoming, ok_bind, visit_result, hpairs, ok_bind, hr], hgrows⟩

end Engines

/-! ## Reports -/

/-- A record that grows: it is about the same node, and has further values. -/
structure OutputRecord.Grows (r r' : OutputRecord) : Prop where
  label : r.label = r'.label
  name : r.name = r'.name
  values : r.values.Sublist r'.values

lemma ownRecord_grows (own : QueryNode) {rows rows' : List Row} (h : rows.Sublist rows') :
    List.Forall₂ OutputRecord.Grows (ownRecord own rows) (ownRecord own rows') := by
  unfold ownRecord
  split
  · exact .cons ⟨rfl, rfl, h.filterMap _⟩ .nil
  · exact .nil

section Reports

variable {w w' : World}

lemma recordsAll_grows {parent : QueryNode} {ts : List QueryTree} {below' : List OutputRecord}
    (hts : ∀ c ∈ ts, ∀ records', c.records w' (some parent) = .ok records' →
      ∃ records, c.records w (some parent) = .ok records ∧
        List.Forall₂ OutputRecord.Grows records records')
    (h : recordsAll w' parent ts = .ok below') :
    ∃ below, recordsAll w parent ts = .ok below ∧
      List.Forall₂ OutputRecord.Grows below below' := by
  induction ts generalizing below' with
  | nil =>
      cases h
      exact ⟨[], rfl, .nil⟩
  | cons c ts ih =>
      obtain ⟨first', hfirst', h⟩ := bind_eq_ok.1 h
      obtain ⟨others', hothers', h⟩ := bind_eq_ok.1 h
      cases h
      obtain ⟨first, hfirst, hgrows⟩ := hts c List.mem_cons_self first' hfirst'
      obtain ⟨others, hothers, hrest⟩ :=
        ih (fun u hu => hts u (List.mem_cons_of_mem _ hu)) hothers'
      exact ⟨_, by rw [recordsAll, hfirst, ok_bind, hothers, ok_bind],
        List.rel_append hgrows hrest⟩

/-- **The report by recursion** in a world that grows. -/
lemma records_grows (hw : w.Grows w') {t : QueryTree} (ht : t.Rowwise) {parent : Option QueryNode}
    {records' : List OutputRecord} (h : t.records w' parent = .ok records') :
    ∃ records, t.records w parent = .ok records ∧
      List.Forall₂ OutputRecord.Grows records records' := by
  induction t using QueryTree.induction generalizing parent records' with
  | node own ts ih =>
      obtain ⟨below', hbelow', h⟩ := bind_eq_ok.1 h
      obtain ⟨r', hr', h⟩ := bind_eq_ok.1 h
      cases h
      obtain ⟨below, hbelow, hgrows⟩ :=
        recordsAll_grows (fun c hc records' hc' => ih c hc (ht.child hc) hc') hbelow'
      obtain ⟨r, hr, hown⟩ := outcome_grows hw ht hr'
      exact ⟨_, by rw [records, hbelow, ok_bind, hr, ok_bind],
        List.rel_append hgrows (ownRecord_grows own hown.rows)⟩

/-- **More data, more results.**  If all steps of a query filter or compute, and it can be evaluated
with more pairs in its sources, then it can be evaluated with fewer, in either way and in whatever
order visits come to an end.  Each node that is reported has some of its values then, in the same
order. -/
theorem evaluateWith_grows (hw : w.Grows w') {tree : QueryTree} (hd : tree.labels.Nodup)
    (ht : tree.Rowwise) {completion completion' : Completion}
    (hc : ∀ attempts, (completion attempts).Perm attempts)
    (hc' : ∀ attempts, (completion' attempts).Perm attempts) (mode mode' : EvaluationMode)
    {records' : List OutputRecord}
    (h : (evaluateWith completion' mode' w' tree).result = .ok records') :
    ∃ records, (evaluateWith completion mode w tree).result = .ok records ∧
      List.Forall₂ OutputRecord.Grows records records' := by
  obtain ⟨records, hrec, hgrows⟩ := records_grows hw ht ((evaluateWith_eq_ok hd hc').1 h)
  exact ⟨records, (evaluateWith_eq_ok hd hc).2 hrec, hgrows⟩

end Reports

/-- Cities with long names, and the regions that they are in, in upper case. -/
def cityTree : QueryTree :=
  .node { name := "Region", label := "R", output := true, steps := [.map "upper($R$)"] }
    [.node { name := "City", label := "C", output := true, steps := [.filter "len($C$) > 4"] } []]

/-- One source that holds the regions of cities. -/
def cityWorld (pairs : List Pair) : World :=
  .ofPairs
    (fun head tail => .ok [{ datasource := "shops", key := head, value := tail, head, tail }])
    ⟨[.xml ⟨0, "shops", "shops.xml", ""⟩]⟩ fun _ _ _ => pairs

/-- Some cities; one of them comes twice, and another one has a short name. -/
def cityPairs : List Pair :=
  [⟨"milan", "north"⟩, ⟨"rome", "south"⟩, ⟨"naples", "south"⟩, ⟨"milan", "north"⟩]

/-- What the cities and their regions come to. -/
def cityRecords : List OutputRecord :=
  [⟨"C", "City", ["milan", "naples", "milan"]⟩,
    ⟨"R", "Region", ["NORTH", "SOUTH", "NORTH"]⟩]

lemma records_cityTree : cityTree.records (cityWorld cityPairs) none = .ok cityRecords := by
  have hpairs (child parent : QueryNode) :
      (edgePairs (cityWorld cityPairs) child parent).result = .ok (some cityPairs) := by
    refine edgePairs_eq_ok.2 ⟨_, rfl, fun e he => ?_, ?_⟩
    · rw [List.mem_singleton.1 he]
      exact readable_ofPairs.2 rfl
    · rw [List.flatMap_singleton, cityWorld, pairsOf_ofPairs]
      rfl
  simp only [cityTree, records, recordsAll, outcome, handedOn, visit_result, nodePairs, hpairs,
    ok_bind]
  exact ok_of_toOption (by decide +kernel)

/-- Without the city that comes first, and evaluated in the other way. -/
theorem evaluateWith_grows_cityTree :
    (cityWorld cityPairs.tail).Grows (cityWorld cityPairs) ∧ cityTree.labels.Nodup ∧
      cityTree.Rowwise ∧ (∀ attempts, (byWaiting attempts).Perm attempts) ∧
      (evaluateWith byWaiting .concurrent (cityWorld cityPairs) cityTree).result
        = .ok cityRecords ∧
      ∃ records, (evaluateWith byWaiting .sequential (cityWorld cityPairs.tail) cityTree).result
          = .ok records ∧ List.Forall₂ OutputRecord.Grows records cityRecords := by
  have hw : (cityWorld cityPairs.tail).Grows (cityWorld cityPairs) :=
    grows_ofPairs fun _ _ _ => List.tail_sublist _
  have hd : cityTree.labels.Nodup := by decide
  have ht : cityTree.Rowwise := by
    intro t
    revert t
    decide
  have heval : (evaluateWith byWaiting .concurrent (cityWorld cityPairs) cityTree).result
      = .ok cityRecords := (evaluateWith_eq_ok hd byWaiting_perm).2 records_cityTree
  exact ⟨hw, hd, ht, byWaiting_perm, heval,
    evaluateWith_grows hw hd ht byWaiting_perm byWaiting_perm .sequential .concurrent heval⟩

end Crosswalk
