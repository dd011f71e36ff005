import Crosswalk.Proofs.Engine.Recursion
import Crosswalk.Proofs.Engine.Levels

/-!
# Both ways of evaluating a tree

Visiting nodes one after the other and visiting them level by level both follow a schedule and keep
a table of results.  What the table holds is compared with the recursion: a step of either way keeps
the two in agreement, and so does a whole run.

* `Agrees` — **the invariant**: the nodes that are done have in the table what the recursion says.
* `visitNext_result` — in agreement a visit computes what the recursion does.
* `evaluateInOrder_settled`, `evaluateByLevels_settled` — whole runs.
* **`evaluateWith_eq_records`** — both ways report what the recursion reports.
-/

namespace Crosswalk

open QueryTree

/-- The result of a node by recursion, under the parent that the tree gives it. -/
def outcomeIn (w : World) (tree t : QueryTree) : Except Error NodeResult :=
  t.outcome w ((parentsOf tree.walk).lookup t.label)

/-- **The table agrees with the recursion** on the nodes that are done. -/
def Agrees (w : World) (tree : QueryTree) (done : List QueryTree) (rs : Results) : Prop :=
  ∀ t ∈ done, ∃ r, outcomeIn w tree t = .ok r ∧ rs.lookup t.label = some r

/-- **What a run may come to**: a table that agrees with the recursion, or a failure, if the
recursion fails somewhere. -/
def Settled (w : World) (tree : QueryTree) (done : List QueryTree) : Except Error Results → Prop
  | .ok rs => Agrees w tree done rs
  | .error _ => ∃ t ∈ tree.postorder, ∃ e, outcomeIn w tree t = .error e

lemma Settled.exists_ok {w : World} {tree : QueryTree} {done : List QueryTree}
    {result : Except Error Results} (h : Settled w tree done result)
    (hok : ∀ t ∈ tree.postorder, ∃ r, outcomeIn w tree t = .ok r) :
    ∃ rs, result = .ok rs := by
  cases result with
  | ok rs => exact ⟨rs, rfl⟩
  | error e =>
      obtain ⟨t, ht, e', he'⟩ := h
      obtain ⟨r, hr⟩ := hok t ht
      rw [hr] at he'
      cases he'

lemma Settled.mono {w : World} {tree : QueryTree} {done fewer : List QueryTree}
    {result : Except Error Results} (h : Settled w tree done result) (hsub : fewer ⊆ done) :
    Settled w tree fewer result := by
  cases result with
  | ok rs => exact fun t ht => h t (hsub ht)
  | error e => exact h

lemma rowsOf_of_lookup {rs : Results} {l : String} {r : NodeResult} (h : rs.lookup l = some r) :
    rs.rowsOf l = r.rows := by
  rw [Results.rowsOf, h]
  rfl

/-- Children whose results are known hand on what the recursion says. -/
lemma handedOn_eq {w : World} {own : QueryNode} {ts : List QueryTree} {rs : Results}
    (h : ∀ c ∈ ts, ∃ r, c.outcome w (some own) = .ok r ∧ rs.lookup c.label = some r) :
    handedOn w own ts = .ok (rs.incoming (.node own ts)) := by
  induction ts with
  | nil => rfl
  | cons c ts ih =>
      obtain ⟨r, hr, hlookup⟩ := h c List.mem_cons_self
      have hrest := ih fun u hu => h u (List.mem_cons_of_mem _ hu)
      simp only [Results.incoming, children_node] at hrest ⊢
      rw [handedOn, hr, ok_bind, hrest, ok_bind, List.flatMap_cons, hlookup]
      rfl

section Outcomes

variable {w : World} {tree : QueryTree} (hd : tree.labels.Nodup)
include hd

lemma outcomeIn_child {c t : QueryTree} (ht : t ∈ tree.postorder) (hc : c ∈ t.children) :
    outcomeIn w tree c = c.outcome w (some t.own) := by
  rw [outcomeIn, lookup_parentsOf hd ht hc]

lemma outcomeIn_top : outcomeIn w tree tree = tree.outcome w none := by
  rw [outcomeIn, lookup_parentsOf_top hd]

lemma handedOn_incoming {done : List QueryTree} {rs : Results} {t : QueryTree}
    (h : Agrees w tree done rs) (ht : t ∈ tree.postorder) (hbelow : ∀ c ∈ t.children, c ∈ done) :
    handedOn w t.own t.children = .ok (rs.incoming t) := by
  cases t with
  | node own ts =>
      refine handedOn_eq fun c hc => ?_
      obtain ⟨r, hr, hlookup⟩ := h c (hbelow c hc)
      rw [outcomeIn_child hd ht hc] at hr
      exact ⟨r, hr, hlookup⟩

/-- **A visit computes what the recursion does.** -/
lemma visitNext_result {done : List QueryTree} {rs : Results} {t : QueryTree}
    (h : Agrees w tree done rs) (ht : t ∈ tree.postorder) (hbelow : ∀ c ∈ t.children, c ∈ done) :
    (visitNext w (parentsOf tree.walk) rs t).result = outcomeIn w tree t := by
  have hin := handedOn_incoming hd h ht hbelow
  cases t with
  | node own ts =>
      rw [outcomeIn, outcome]
      rw [show handedOn w own ts = _ from hin, ok_bind, visitNext]

/-- **A batch is added to the table.**  The labels of the batch may repeat labels that are done:
they belong to the same nodes. -/
lemma Agrees.append {done batch : List QueryTree} {rs more : Results}
    (h : Agrees w tree done rs) (hdone : done ⊆ tree.postorder) (hbatch : batch ⊆ tree.postorder)
    (hmore : ∀ l r, (l, r) ∈ more →
      ∃ t ∈ batch, t.label = l ∧ outcomeIn w tree t = .ok r)
    (hall : ∀ t ∈ batch, ∃ r, (t.label, r) ∈ more) :
    Agrees w tree (done ++ batch) (more ++ rs) := by
  intro t ht
  rw [List.lookup_append]
  cases hl : more.lookup t.label with
  | some r =>
      obtain ⟨s, hs, hlabel, hr⟩ := hmore _ _ (mem_of_lookup hl)
      have htree : t ∈ tree.postorder := (List.append_subset.2 ⟨hdone, hbatch⟩) ht
      rw [eq_of_label_eq hd (hbatch hs) htree hlabel] at hr
      exact ⟨r, hr, rfl⟩
  | none =>
      rcases List.mem_append.1 ht with ht | ht
      · exact h t ht
      · obtain ⟨r, hr⟩ := hall t ht
        exact absurd (List.lookup_eq_none_iff.1 hl _ hr) (by simp)

/-! ## One after the other -/

/-- **A run over nodes in the order of a schedule.** -/
lemma evaluateInOrder_settled {order done : List QueryTree} {rs : Results}
    (h : Agrees w tree done rs) (hdone : done ⊆ tree.postorder) (horder : order ⊆ tree.postorder)
    (hs : IsSchedule children done (oneByOne order)) :
    Settled w tree (done ++ order)
      (evaluateInOrder w (parentsOf tree.walk) rs order).result := by
  induction order generalizing done rs with
  | nil =>
      rw [List.append_nil]
      exact h
  | cons t order ih =>
      have ht : t ∈ tree.postorder := horder List.mem_cons_self
      have hvisit := visitNext_result hd h ht (hs.1 t List.mem_cons_self)
      rw [evaluateInOrder, Traced.result_bind, hvisit]
      cases hr : outcomeIn w tree t with
      | error e => exact ⟨t, ht, e, hr⟩
      | ok r =>
          have hbatch : [t] ⊆ tree.postorder := List.cons_subset.2 ⟨ht, List.nil_subset _⟩
          have hstep : Agrees w tree (done ++ [t]) ([(t.label, r)] ++ rs) := by
            refine h.append hd hdone hbatch ?_ ?_ <;> simp [hr]
          rw [ok_bind, List.append_cons]
          exact ih hstep (List.append_subset.2 ⟨hdone, hbatch⟩)
            (fun s hs => horder (List.mem_cons_of_mem _ hs)) hs.2

end Outcomes

/-! ## Those of the same height together -/

lemma Attempt.failure?_eq_none {a : Attempt} :
    a.failure? = none ↔ ∃ r, a.outcome.result = .ok r := by
  unfold Attempt.failure?
  cases a.outcome.result <;> simp

lemma byWaiting_perm (attempts : List Attempt) : (byWaiting attempts).Perm attempts :=
  List.mergeSort_perm attempts _

section Together

variable {completion : Completion} {attempts : List Attempt}
  (hc : (completion attempts).Perm attempts)
include hc

/-- Attempts that all succeed come to their results, in whatever order they end. -/
lemma together_ok (h : ∀ a ∈ attempts, ∃ r, a.outcome.result = .ok r) :
    (together completion attempts).result = .ok (resultsOf attempts).reverse := by
  have hnone : (completion attempts).findSome? Attempt.failure? = none :=
    List.findSome?_eq_none_iff.2 fun a ha => Attempt.failure?_eq_none.2 (h a (hc.mem_iff.1 ha))
  simp [together, hnone]

/-- One attempt that fails is a failure of all, in whatever order they end. -/
lemma together_error {a : Attempt} {e : Error} (ha : a ∈ attempts)
    (he : a.outcome.result = .error e) :
    ∃ e', (together completion attempts).result = .error e' := by
  cases hf : (completion attempts).findSome? Attempt.failure? with
  | some e' => exact ⟨e', by simp [together, hf]⟩
  | none =>
      have hnone := List.findSome?_eq_none_iff.1 hf a (hc.mem_iff.2 ha)
      obtain ⟨r, hr⟩ := Attempt.failure?_eq_none.1 hnone
      rw [hr] at he
      cases he

end Together

lemma mem_resultsOf {attempts : List Attempt} {l : String} {r : NodeResult} :
    (l, r) ∈ resultsOf attempts ↔
      ∃ a ∈ attempts, a.label = l ∧ a.outcome.result = .ok r := by
  rw [resultsOf, List.mem_filterMap]
  refine exists_congr fun a => and_congr_right fun _ => ?_
  cases a.outcome.result <;> simp

section Results

variable {w : World} {tree : QueryTree} {completion : Completion} (hd : tree.labels.Nodup)
  (hc : ∀ attempts, (completion attempts).Perm attempts)
include hd hc

/-- **The visits of a level**, in agreement with the recursion on everything lower. -/
lemma together_settled {done level : List QueryTree} {rs : Results} (h : Agrees w tree done rs)
    (hdone : done ⊆ tree.postorder) (hlevel : level ⊆ tree.postorder)
    (hbelow : ∀ t ∈ level, ∀ c ∈ t.children, c ∈ done) :
    Settled w tree (done ++ level)
      ((together completion
        (attemptsAt w (parentsOf tree.walk) rs level)).result.map (· ++ rs)) := by
  have hattempt : ∀ t ∈ level,
      (visitNext w (parentsOf tree.walk) rs t).result = outcomeIn w tree t :=
    fun t ht => visitNext_result hd h (hlevel ht) (hbelow t ht)
  -- which attempt fails first depends on the completion, whether one fails does not
  by_cases hall : ∀ t ∈ level, ∃ r, outcomeIn w tree t = .ok r
  · have hok : ∀ a ∈ attemptsAt w (parentsOf tree.walk) rs level,
        ∃ r, a.outcome.result = .ok r := by
      intro a ha
      obtain ⟨t, ht, rfl⟩ := List.mem_map.1 ha
      rw [hattempt t ht]
      exact hall t ht
    rw [together_ok (hc _) hok]
    refine h.append hd hdone hlevel (fun l r hr => ?_) fun t ht => ?_
    · obtain ⟨a, ha, hal, har⟩ := mem_resultsOf.1 (List.mem_reverse.1 hr)
      obtain ⟨t, ht, rfl⟩ := List.mem_map.1 ha
      exact ⟨t, ht, hal, hattempt t ht ▸ har⟩
    · obtain ⟨r, hr⟩ := hall t ht
      refine ⟨r, List.mem_reverse.2 (mem_resultsOf.2 ⟨_, List.mem_map_of_mem ht, rfl, ?_⟩)⟩
      rw [hattempt t ht, hr]
  · push Not at hall
    obtain ⟨t, ht, hfail⟩ := hall
    cases hr : outcomeIn w tree t with
    | ok r => exact absurd hr (hfail r)
    | error e =>
        have he := (hattempt t ht).trans hr
        obtain ⟨e', he'⟩ : ∃ e', (together completion
            (attemptsAt w (parentsOf tree.walk) rs level)).result = .error e' :=
          together_error (hc _) (List.mem_map_of_mem ht) he
        rw [he']
        exact ⟨t, hlevel ht, e, hr⟩

/-- **A run over levels** that are a schedule. -/
lemma evaluateByLevels_settled {levels : List (List QueryTree)} {done : List QueryTree}
    {rs : Results} (h : Agrees w tree done rs) (hdone : done ⊆ tree.postorder)
    (hlevels : levels.flatten ⊆ tree.postorder) (hs : IsSchedule children done levels) :
    Settled w tree (done ++ levels.flatten)
      (evaluateByLevels w completion (parentsOf tree.walk) rs levels).result := by
  induction levels generalizing done rs with
  | nil =>
      rw [List.flatten_nil, List.append_nil]
      exact h
  | cons level levels ih =>
      rw [List.flatten_cons] at hlevels
      have hlevel := List.append_subset.1 hlevels
      have hstep := together_settled hd hc h hdone hlevel.1 hs.1
      rw [evaluateByLevels, Traced.result_bind, List.flatten_cons, ← List.append_assoc]
      cases hr : (together completion (attemptsAt w (parentsOf tree.walk) rs level)).result with
      | error e =>
          rw [hr] at hstep
          exact hstep
      | ok more =>
          rw [hr] at hstep
          exact ih hstep (List.append_subset.2 ⟨hdone, hlevel.1⟩) hlevel.2 hs.2

/-- **A whole evaluation**, in either way. -/
theorem resultsIn_settled (mode : EvaluationMode) :
    Settled w tree tree.postorder (resultsIn mode w completion tree.walk).result := by
  have hstart : Agrees w tree [] [] := fun t ht => absurd ht List.not_mem_nil
  cases mode with
  | sequential =>
      have hrun := evaluateInOrder_settled hd hstart (List.nil_subset _)
        (List.Subset.refl tree.postorder) (isSchedule_postorder tree)
      rw [List.nil_append] at hrun
      simpa only [resultsIn, walk_eq_postorder] using hrun
  | concurrent =>
      have hmem : ∀ {t}, t ∈ (heightLevels tree.walk).flatten ↔ t ∈ tree.postorder :=
        mem_flatten_heightLevels
      have hrun := evaluateByLevels_settled hd hc hstart (List.nil_subset _)
        (fun t ht => hmem.1 ht) (isSchedule_heightLevels tree)
      rw [List.nil_append] at hrun
      exact hrun.mono fun t ht => hmem.2 ht

end Results

/-! ## Reports -/

lemma report_append (front back : List QueryTree) (rs : Results) :
    report (front ++ back) rs = report front rs ++ report back rs := by
  simp [report]

lemma report_singleton (t : QueryTree) (rs : Results) :
    report [t] rs = ownRecord t.own (rs.rowsOf t.label) := by
  by_cases hout : t.own.output <;> simp [report, ownRecord, hout, label]

section Alike

variable {w : World} {tree : QueryTree} (hd : tree.labels.Nodup)
include hd

/-- In agreement with the recursion the report is that of the recursion. -/
lemma records_eq_report {rs : Results} (h : Agrees w tree tree.postorder rs) :
    ∀ t ∈ tree.postorder, t.records w ((parentsOf tree.walk).lookup t.label)
      = .ok (report t.postorder rs) := by
  intro t
  induction t using QueryTree.induction with
  | node own ts ih =>
      intro ht
      have hbelow : ∀ us ⊆ ts, recordsAll w own us
          = .ok (report (us.flatMap postorder) rs) := by
        intro us
        induction us with
        | nil => exact fun _ => rfl
        | cons u us ihus =>
            intro hsub
            have hu := hsub List.mem_cons_self
            have hrec := ih u hu (child_mem_postorder ht hu)
            rw [lookup_parentsOf hd ht hu, own_node] at hrec
            rw [recordsAll, hrec, ok_bind, ihus fun v hv => hsub (List.mem_cons_of_mem _ hv),
              ok_bind, List.flatMap_cons, report_append]
      obtain ⟨r, hr, hlookup⟩ := h _ ht
      rw [outcomeIn] at hr
      rw [records, hbelow ts (List.Subset.refl _), ok_bind, hr, ok_bind, postorder_node,
        report_append]
      rw [report_singleton, rowsOf_of_lookup hlookup, own_node]

/-- A report by recursion needs the result of every node. -/
lemma outcomeIn_of_records :
    ∀ t ∈ tree.postorder, ∀ records,
      t.records w ((parentsOf tree.walk).lookup t.label) = .ok records →
      ∀ s ∈ t.postorder, ∃ r, outcomeIn w tree s = .ok r := by
  intro t
  induction t using QueryTree.induction with
  | node own ts ih =>
      intro ht records hrec s hs
      obtain ⟨below, hbelow, hrec⟩ := bind_eq_ok.1 hrec
      obtain ⟨r, hr, -⟩ := bind_eq_ok.1 hrec
      have hall : ∀ (us : List QueryTree) (below : List OutputRecord),
          recordsAll w own us = .ok below → ∀ c ∈ us, ∃ first,
            c.records w (some own) = .ok first := by
        intro us
        induction us with
        | nil => exact fun _ _ c hc => absurd hc List.not_mem_nil
        | cons u us ihus =>
            intro below hus c hc
            obtain ⟨first, hfirst, hus⟩ := bind_eq_ok.1 hus
            obtain ⟨others, hothers, -⟩ := bind_eq_ok.1 hus
            rcases List.mem_cons.1 hc with rfl | hc
            · exact ⟨first, hfirst⟩
            · exact ihus others hothers c hc
      rcases mem_postorder_node.1 hs with ⟨c, hc, hsc⟩ | rfl
      · obtain ⟨first, hfirst⟩ := hall ts below hbelow c hc
        have hparent := lookup_parentsOf hd ht hc
        exact ih c hc (child_mem_postorder ht hc) first (hparent ▸ hfirst) s hsc
      · exact ⟨r, hr⟩

end Alike

lemma evaluateWith_result (completion : Completion) (mode : EvaluationMode) (w : World)
    (tree : QueryTree) :
    (evaluateWith completion mode w tree).result
      = (resultsIn mode w completion tree.walk).result.map (report tree.walk) := by
  cases h : (resultsIn mode w completion tree.walk).result <;> simp [evaluateWith, h] <;> rfl

section Reports

variable {w : World} {tree : QueryTree} {completion : Completion} (hd : tree.labels.Nodup)
  (hc : ∀ attempts, (completion attempts).Perm attempts)
include hd hc

/-- An evaluation succeeds with the report of the recursion, or both fail. -/
lemma evaluateWith_cases (mode : EvaluationMode) :
    (∃ rs, (evaluateWith completion mode w tree).result = .ok (report tree.postorder rs) ∧
        tree.records w none = .ok (report tree.postorder rs)) ∨
      (∃ e, (evaluateWith completion mode w tree).result = .error e) ∧
        ∃ e, tree.records w none = .error e := by
  have hsettled := resultsIn_settled (w := w) hd hc mode
  rw [evaluateWith_result]
  cases hr : (resultsIn mode w completion tree.walk).result with
  | ok rs =>
      rw [hr] at hsettled
      have hrec := records_eq_report hd hsettled tree (self_mem_postorder tree)
      rw [lookup_parentsOf_top hd] at hrec
      rw [walk_eq_postorder]
      exact Or.inl ⟨rs, rfl, hrec⟩
  | error e =>
      rw [hr] at hsettled
      obtain ⟨t, ht, e', he'⟩ := hsettled
      refine Or.inr ⟨⟨e, rfl⟩, ?_⟩
      cases hrec : tree.records w none with
      | error e => exact ⟨e, rfl⟩
      | ok records =>
          rw [← lookup_parentsOf_top hd] at hrec
          obtain ⟨r, hr⟩ :=
            outcomeIn_of_records hd tree (self_mem_postorder tree) records hrec t ht
          rw [hr] at he'
          cases he'

/-- **What a successful evaluation reports** is what the recursion reports. -/
lemma evaluateWith_eq_ok {mode : EvaluationMode} {records : List OutputRecord} :
    (evaluateWith completion mode w tree).result = .ok records
      ↔ tree.records w none = .ok records := by
  rcases evaluateWith_cases (w := w) hd hc mode with
    ⟨rs, heval, hrec⟩ | ⟨⟨e, heval⟩, e', hrec⟩
  · rw [heval, hrec]
  · rw [heval, hrec]
    exact ⟨nofun, nofun⟩

/-- **Both ways of evaluating a tree compute the recursion.**  Whatever the joins, the sources and
the outcomes of reading them are, and in whatever order the visits of a level come to an end: each
way reports what the recursion reports, which is one record for every node with output, in
post-order; and one way fails if and only if the other does. -/
theorem evaluateWith_eq_records :
    (∀ mode records, (evaluateWith completion mode w tree).result = .ok records
        ↔ tree.records w none = .ok records) ∧
      (∀ records, tree.records w none = .ok records →
        records.map (fun r => (r.label, r.name))
          = (tree.postorder.filter fun t => t.own.output).map fun t => (t.label, t.own.name)) ∧
      ((∃ e, (evaluateWith completion .sequential w tree).result = .error e)
        ↔ ∃ e, (evaluateWith completion .concurrent w tree).result = .error e) := by
  have hcases := evaluateWith_cases (w := w) hd hc
  refine ⟨fun _ _ => evaluateWith_eq_ok hd hc, fun records hrec => ?_, ?_⟩
  · rcases hcases .sequential with ⟨rs, -, hrs⟩ | ⟨-, e, he⟩
    · rw [hrec, Except.ok.injEq] at hrs
      rw [hrs, report, List.map_map]
      rfl
    · rw [he] at hrec
      cases hrec
  · rcases hcases .sequential with ⟨rs, hseq, hrs⟩ | ⟨hseq, e, he⟩ <;>
      rcases hcases .concurrent with ⟨rs', hcon, hrs'⟩ | ⟨hcon, e', he'⟩
    · simp [hseq, hcon]
    · rw [hrs] at he'
      cases he'
    · rw [hrs'] at he
      cases he
    · exact ⟨fun _ => hcon, fun _ => hseq⟩

end Reports

/-- A tree with two leaves at different depths. -/
def shopTree : QueryTree :=
  .node { name := "Region", label := "R", output := true }
    [.node { name := "City", label := "C", output := true } [],
      .node { name := "Shop", label := "S" } [.node { name := "Item", label := "I" } []]]

/-- The pairs that are found when keys are those of an attribute; a key and a pair may repeat. -/
def shopPairs : String → List Pair
  | "City" => [⟨"rome", "south"⟩, ⟨"oslo", "north"⟩]
  | "Item" => [⟨"pen", "s1"⟩, ⟨"ink", "s2"⟩, ⟨"pen", "s1"⟩]
  | "Shop" => [⟨"s1", "north"⟩, ⟨"s2", "north"⟩, ⟨"s1", "south"⟩]
  | _ => []

/-- One join between any two attributes, in a source that never fails. -/
def shopWorld : World where
  joins head tail := .ok [{ datasource := "shops", key := head, value := tail, head, tail }]
  sources := ⟨[.xml ⟨0, "shops", "shops.xml", ""⟩]⟩
  read _ key _ := .done (.ofItems "shops" ((shopPairs key).map .ok))

/-- Both ways, with the visits that wait less coming to an end earlier. -/
theorem evaluateWith_shopTree :
    shopTree.labels.Nodup ∧ (∀ attempts, (byWaiting attempts).Perm attempts) ∧
      ∀ mode records, (evaluateWith byWaiting mode shopWorld shopTree).result = .ok records
        ↔ shopTree.records shopWorld none = .ok records :=
  have hd : shopTree.labels.Nodup := by decide
  ⟨hd, byWaiting_perm, (evaluateWith_eq_records hd byWaiting_perm).1⟩

end Crosswalk
