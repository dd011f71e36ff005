import Crosswalk.Proofs.Engine.Modes

/-!
# The visits of an evaluation

An evaluation visits a node when a part of its run is behind it.  The table of results that the node
is visited with is that of this part, whether the evaluation succeeds in the end or not.

* `Visits` — **a node is visited with a table of results.**
* `Visits.agrees` — the table says what the recursion says, of everything below the node.
* `exists_visits` — no node is left out.
-/

namespace Crosswalk

open QueryTree

/-- **A node is visited with a table of results**: behind the nodes in front of it if they are
visited one after the other, behind the lower levels if they are visited together. -/
inductive Visits (w : World) (completion : Completion) (tree : QueryTree) :
    EvaluationMode → Results → QueryTree → Prop where
  | sequential {before after : List QueryTree} {t : QueryTree} {rs : Results}
      (order : tree.walk = before ++ t :: after)
      (run : (evaluateInOrder w (parentsOf tree.walk) [] before).result = .ok rs) :
      Visits w completion tree .sequential rs t
  | concurrent {before after : List (List QueryTree)} {level : List QueryTree} {t : QueryTree}
      {rs : Results} (levels : heightLevels tree.walk = before ++ level :: after)
      (run : (evaluateByLevels w completion (parentsOf tree.walk) [] before).result = .ok rs)
      (mem : t ∈ level) : Visits w completion tree .concurrent rs t

section Distinct

variable {w : World} {tree : QueryTree} {completion : Completion} (hd : tree.labels.Nodup)
  (hc : ∀ attempts, (completion attempts).Perm attempts)
include hd

lemma evaluateInOrder_before {before after : List QueryTree} {t : QueryTree}
    (h : tree.walk = before ++ t :: after) :
    Settled w tree before (evaluateInOrder w (parentsOf tree.walk) [] before).result ∧
      t ∈ tree.postorder ∧ ∀ c ∈ t.children, c ∈ before := by
  have hschedule := isSchedule_postorder tree
  rw [walk_eq_postorder] at h
  rw [h, oneByOne_append, isSchedule_append, flatten_oneByOne] at hschedule
  refine ⟨?_, by simp [h], hschedule.2.1 t (List.mem_singleton_self t)⟩
  have hsub : before ⊆ tree.postorder := by simp [h]
  exact evaluateInOrder_settled hd (fun t ht => absurd ht List.not_mem_nil) (List.nil_subset _) hsub
    hschedule.1

include hc

lemma evaluateByLevels_before {before after : List (List QueryTree)} {level : List QueryTree}
    (h : heightLevels tree.walk = before ++ level :: after) :
    Settled w tree before.flatten
        (evaluateByLevels w completion (parentsOf tree.walk) [] before).result ∧
      ∀ t ∈ level, t ∈ tree.postorder ∧ ∀ c ∈ t.children, c ∈ before.flatten := by
  have hschedule := isSchedule_heightLevels tree
  rw [h, isSchedule_append] at hschedule
  have hmem : ∀ t ∈ (before ++ level :: after).flatten, t ∈ tree.postorder := by
    rw [← h]
    exact fun t ht => mem_flatten_heightLevels.1 ht
  rw [List.flatten_append, List.flatten_cons] at hmem
  refine ⟨?_, fun t ht => ⟨hmem t (by simp [ht]), hschedule.2.1 t ht⟩⟩
  exact evaluateByLevels_settled hd hc (fun t ht => absurd ht List.not_mem_nil)
    (List.nil_subset _) (fun t ht => hmem t (List.mem_append_left _ ht)) hschedule.1

/-- **A visit knows what the recursion says** of the children. -/
theorem Visits.agrees {mode : EvaluationMode} {rs : Results} {t : QueryTree}
    (h : Visits w completion tree mode rs t) :
    t ∈ tree.postorder ∧
      ∃ done, Agrees w tree done rs ∧ ∀ c ∈ t.children, c ∈ done := by
  cases h with
  | sequential order run =>
      obtain ⟨hsettled, ht, hbelow⟩ := evaluateInOrder_before (w := w) hd order
      rw [run] at hsettled
      exact ⟨ht, _, hsettled, hbelow⟩
  | concurrent levels run mem =>
      obtain ⟨hsettled, hlevel⟩ := evaluateByLevels_before (w := w) hd hc levels
      rw [run] at hsettled
      exact ⟨(hlevel _ mem).1, _, hsettled, (hlevel _ mem).2⟩

/-- What comes to a visit is what the recursion hands on. -/
lemma Visits.handedOn_eq {mode : EvaluationMode} {rs : Results} {t : QueryTree}
    (h : Visits w completion tree mode rs t) :
    handedOn w t.own t.children = .ok (rs.incoming t) := by
  obtain ⟨ht, done, hagrees, hbelow⟩ := h.agrees hd hc
  exact handedOn_incoming hd hagrees ht hbelow

/-- **Every node is visited** if the recursion succeeds. -/
theorem exists_visits (hok : ∀ t ∈ tree.postorder, ∃ r, outcomeIn w tree t = .ok r)
    (mode : EvaluationMode) {t : QueryTree} (ht : t ∈ tree.postorder) :
    ∃ rs, Visits w completion tree mode rs t := by
  cases mode with
  | sequential =>
      rw [← walk_eq_postorder] at ht
      obtain ⟨before, after, order⟩ := List.append_of_mem ht
      obtain ⟨rs, run⟩ := (evaluateInOrder_before (w := w) hd order).1.exists_ok hok
      exact ⟨rs, .sequential order run⟩
  | concurrent =>
      obtain ⟨level, hlevel, hmem⟩ := List.mem_flatten.1 (mem_flatten_heightLevels.2 ht)
      obtain ⟨before, after, levels⟩ := List.append_of_mem hlevel
      obtain ⟨rs, run⟩ := (evaluateByLevels_before (w := w) hd hc levels).1.exists_ok hok
      exact ⟨rs, .concurrent levels run hmem⟩

end Distinct

end Crosswalk
