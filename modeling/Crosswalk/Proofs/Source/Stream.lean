import Mathlib.Tactic.Lemma
import Crosswalk.Source.Stream

/-!
# What comes out of a stream

A stream that nothing has closed hands out the items that it has taken and those that are left, in
their order, and no others.

* `Stream.Flowing` — **the invariant**: the stream is open, and at the end nothing is left behind.
* `Stream.collect_of_flowing` — **everything that comes.**
-/

namespace Crosswalk

namespace Stream

/-- **A stream that loses nothing**: it is open, and if the end is reached, nothing is left. -/
structure Flowing (s : Stream) : Prop where
  isOpen : s.isClosed = false
  atEnd : s.isExhausted = true → s.left = []

lemma flowing_ofItems (source : String) (items : List Item) : (ofItems source items).Flowing :=
  ⟨rfl, nofun⟩

/-- Making an item ready changes nothing of what comes, and only at the end there is none. -/
lemma Flowing.prepare {s : Stream} (h : s.Flowing) :
    s.prepare.Flowing ∧ s.prepare.taken ++ s.prepare.left = s.taken ++ s.left ∧
      (s.prepare.taken = [] → s.prepare.left = []) := by
  by_cases hneeds : s.needsBatch
  · rw [Stream.prepare, if_pos hneeds]
    simp only [needsBatch, Bool.and_eq_true, List.isEmpty_iff] at hneeds
    refine ⟨⟨h.isOpen, ?_⟩, ?_, ?_⟩
    · simp only [fill, decide_eq_true_eq, List.drop_eq_nil_iff]
      omega
    · simp [fill]
    · simp only [fill, hneeds.1.1, List.nil_append, List.take_eq_nil_iff]
      rintro (h0 | hleft)
      · simp [batchSize] at h0
      · simp [hleft]
  · rw [Stream.prepare, if_neg hneeds]
    refine ⟨h, rfl, fun htaken => h.atEnd ?_⟩
    simpa [needsBatch, htaken, h.isOpen] using hneeds

/-- **The next item** is the first of those that come, and the others come behind it. -/
lemma Flowing.next {s : Stream} (h : s.Flowing) :
    (∃ item rest, s.next = (some item, rest) ∧ rest.Flowing ∧
        s.taken ++ s.left = item :: (rest.taken ++ rest.left)) ∨
      s.next.1 = none ∧ s.taken ++ s.left = [] := by
  obtain ⟨hflow, hsame, hend⟩ := h.prepare
  rw [← hsame, Stream.next]
  cases htaken : s.prepare.taken with
  | nil => exact Or.inr (by simp [hflow.isOpen, hend htaken])
  | cons item rest =>
      left
      simp only [hflow.isOpen]
      exact ⟨item, _, rfl, ⟨rfl, hflow.atEnd⟩, rfl⟩

/-- **What comes out of a stream** is what it has taken and what is left. -/
theorem collect_of_flowing {s : Stream} (h : s.Flowing) : s.collect.1 = s.taken ++ s.left := by
  fun_induction collect s with
  | case1 s item rest hnext items last hcollect ih =>
      rcases h.next with ⟨item', rest', heq, hflow, hsplit⟩ | ⟨hnone, -⟩
      · rw [hnext, Prod.mk.injEq, Option.some.injEq] at heq
        obtain ⟨rfl, rfl⟩ := heq
        have hrest := ih hflow
        rw [hcollect] at hrest
        rw [hsplit, ← hrest]
      · rw [hnext] at hnone
        cases hnone
  | case2 s rest hnext =>
      rcases h.next with ⟨item, rest', heq, -, -⟩ | ⟨-, hnil⟩
      · rw [hnext] at heq
        cases heq
      · exact hnil.symm

lemma collect_ofItems (source : String) (items : List Item) :
    (ofItems source items).collect.1 = items :=
  collect_of_flowing (flowing_ofItems source items)

end Stream

end Crosswalk
