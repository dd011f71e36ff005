import Crosswalk.Engine.Evaluate
import Crosswalk.Proofs.Query.Addresses
import Crosswalk.Proofs.Sequence

/-!
# Schedules

A tree can be evaluated in batches of nodes if the children of every node come in earlier batches.
Both ways of evaluating follow such a schedule: the post-order with one node in a batch, and the
nodes by height.

* `IsSchedule` — **batches behind nodes that are done**, whatever nodes are.
* `isSchedule_located`, `isSchedule_postorder` — the post-order is a schedule, with and without
  regard to where nodes stand.
-/

namespace Crosswalk

open QueryTree

section Batches

variable {α β : Type} {below : α → List α} {below' : β → List β}

/-- **Batches of nodes** in which children come in front of their parents, when some nodes are done
already. -/
def IsSchedule (below : α → List α) : List α → List (List α) → Prop
  | _, [] => True
  | done, batch :: batches =>
    (∀ t ∈ batch, ∀ c ∈ below t, c ∈ done) ∧ IsSchedule below (done ++ batch) batches

lemma isSchedule_append {done : List α} {front back : List (List α)} :
    IsSchedule below done (front ++ back)
      ↔ IsSchedule below done front ∧ IsSchedule below (done ++ front.flatten) back := by
  induction front generalizing done with
  | nil => simp [IsSchedule]
  | cons batch front ih =>
      simp only [List.cons_append, IsSchedule, ih, List.flatten_cons, List.append_assoc, and_assoc]

/-- Nodes as batches of one. -/
def oneByOne (order : List α) : List (List α) := order.map fun t => [t]

@[simp] lemma flatten_oneByOne (order : List α) : (oneByOne order).flatten = order := by
  induction order with
  | nil => rfl
  | cons t order ih => rw [oneByOne, List.map_cons, List.flatten_cons, ← oneByOne, ih]; rfl

lemma oneByOne_append (front back : List α) :
    oneByOne (front ++ back) = oneByOne front ++ oneByOne back :=
  List.map_append

/-- What is forgotten of the nodes leaves a schedule if their children are forgotten alike. -/
lemma IsSchedule.map {f : α → β} (hf : ∀ t, below' (f t) = (below t).map f) {done : List α}
    {order : List α} (h : IsSchedule below done (oneByOne order)) :
    IsSchedule below' (done.map f) (oneByOne (order.map f)) := by
  induction order generalizing done with
  | nil => exact trivial
  | cons t order ih =>
      refine ⟨fun s hs c hc => ?_, ?_⟩
      · obtain rfl := List.mem_singleton.1 hs
        rw [hf] at hc
        obtain ⟨c, hbelow, rfl⟩ := List.mem_map.1 hc
        exact List.mem_map_of_mem (h.1 t (List.mem_singleton_self t) c hbelow)
      · have hrest := ih h.2
        rwa [List.map_append, List.map_singleton] at hrest

end Batches

/-- **The post-order is a schedule**, whatever is done before it. -/
theorem isSchedule_located (o : Located) :
    ∀ done, IsSchedule Located.children done (oneByOne o.postorder) := by
  induction o using Located.induction with
  | node o ih =>
      have forest : ∀ cs : List Located, cs ⊆ o.children → ∀ done,
          IsSchedule Located.children done (oneByOne (cs.flatMap Located.postorder)) := by
        intro cs
        induction cs with
        | nil => exact fun _ _ => trivial
        | cons c cs ihcs =>
            intro hsub done
            rw [List.flatMap_cons, oneByOne_append, isSchedule_append]
            exact ⟨ih c (hsub List.mem_cons_self) done,
              ihcs (fun d hd => hsub (List.mem_cons_of_mem _ hd)) _⟩
      intro done
      rw [Located.postorder_eq, oneByOne_append, isSchedule_append, flatten_oneByOne]
      refine ⟨forest _ (List.Subset.refl _) done, fun s hs c hc => ?_, trivial⟩
      obtain rfl := List.mem_singleton.1 hs
      refine List.mem_append_right _ (List.mem_flatMap.2 ⟨c, hc, ?_⟩)
      exact Located.mem_postorder.2 ⟨[], (List.append_nil _).symm, rfl⟩

lemma isSchedule_postorder (t : QueryTree) : IsSchedule children [] (oneByOne t.postorder) := by
  rw [← map_tree_located]
  exact (isSchedule_located _ []).map fun o => o.map_tree_children.symm

end Crosswalk
