import Mathlib.Data.List.Chain
import Mathlib.Data.List.Forall2
import Crosswalk.Proofs.Engine.Join

/-!
# Chains of pairs

Several lists of pairs, one for each step of a path, are joined along the path: a chain takes one
pair from every list so that each pair ends with the text with which the next one begins.  Pairs may
repeat, so a chain says of each pair which occurrence it is.

* `choices` — **one element from every list**, in lexicographic order.
* `chainsOf` — **the chains** of some lists of pairs.  `mem_chainsOf` says which chains there are,
  and `pairwise_chainsOf` in which order, each of them once.
* `chainsOf_concat` — one step more.
* `chainRow` — the row of a chain along a path of labels.
-/

namespace Crosswalk

/-! ## Choices -/

section Choices

variable {α : Type}

/-- **One element from each of several lists**; the choice from the first list varies slowest. -/
def choices : List (List α) → List (List α)
  | [] => [[]]
  | xs :: xss => xs.flatMap fun x => (choices xss).map (x :: ·)

lemma mem_choices {s : List α} {xss : List (List α)} :
    s ∈ choices xss ↔ List.Forall₂ (· ∈ ·) s xss := by
  induction xss generalizing s with
  | nil => simp [choices]
  | cons xs xss ih =>
      cases s with
      | nil => simp [choices]
      | cons x s => simp [choices, ih]

lemma choices_concat (xss : List (List α)) (ys : List α) :
    choices (xss ++ [ys]) = (choices xss).flatMap fun s => ys.map fun y => s ++ [y] := by
  induction xss with
  | nil => simp [choices, List.map_eq_flatMap]
  | cons xs xss ih =>
      simp only [List.cons_append, choices, ih, List.flatMap_assoc, List.map_flatMap,
        List.flatMap_map, List.map_map]
      rfl

end Choices

/-- Choices between numbered elements come in the order of their numbers. -/
lemma pairwise_choices {α : Type} {xss : List (List (α × Nat))}
    (h : ∀ xs ∈ xss, xs.Pairwise fun x y => x.2 < y.2) :
    (choices xss).Pairwise fun s t => s.map Prod.snd < t.map Prod.snd := by
  induction xss with
  | nil => exact List.pairwise_singleton _ _
  | cons xs xss ih =>
      have hrest := ih fun ys hys => h ys (List.mem_cons_of_mem _ hys)
      refine List.pairwise_flatMap.2 ⟨fun x _ => ?_, ?_⟩
      · refine List.pairwise_map.2 (hrest.imp fun hst => ?_)
        exact List.cons_lt_cons_iff.2 (Or.inr ⟨rfl, hst⟩)
      · refine (h xs List.mem_cons_self).imp fun hxy s hs t ht => ?_
        obtain ⟨s', -, rfl⟩ := List.mem_map.1 hs
        obtain ⟨t', -, rfl⟩ := List.mem_map.1 ht
        exact List.cons_lt_cons_iff.2 (Or.inl hxy)

/-! ## Chains -/

/-- An occurrence of a pair: the pair and its position. -/
abbrev Occurrence := Pair × Nat

/-- **Each pair ends with the text with which the next one begins.** -/
def Linked (chain : List Occurrence) : Prop := chain.IsChain fun a b => a.1.value = b.1.key

instance : DecidablePred Linked := fun chain =>
  inferInstanceAs (Decidable (chain.IsChain fun a b => a.1.value = b.1.key))

/-- **The chains** that take one occurrence from each of several lists of pairs. -/
def chainsOf (links : List (List Pair)) : List (List Occurrence) :=
  (choices (links.map fun pairs => pairs.zipIdx)).filter fun chain => Linked chain

/-- **Which chains there are**: all that are linked and take an occurrence from every list. -/
theorem mem_chainsOf {chain : List Occurrence} {links : List (List Pair)} :
    chain ∈ chainsOf links
      ↔ List.Forall₂ (fun o pairs => pairs[o.2]? = some o.1) chain links ∧ Linked chain := by
  simp [chainsOf, mem_choices, List.forall₂_map_right_iff, List.mem_zipIdx_iff_getElem?]

/-- **The order of chains**: lexicographic in the positions of their pairs, so none comes twice. -/
theorem pairwise_chainsOf (links : List (List Pair)) :
    (chainsOf links).Pairwise fun s t => s.map Prod.snd < t.map Prod.snd := by
  refine (pairwise_choices fun xs hxs => ?_).filter _
  obtain ⟨pairs, -, rfl⟩ := List.mem_map.1 hxs
  have hrange : (pairs.zipIdx.map Prod.snd).Pairwise (· < ·) := by
    rw [List.zipIdx_map_snd]
    exact List.pairwise_lt_range'
  exact List.pairwise_map.1 hrange

/-- Whether an occurrence may follow a chain. -/
def follows (chain : List Occurrence) (o : Occurrence) : Bool :=
  chain.getLast?.all fun last => last.1.value = o.1.key

lemma linked_concat {chain : List Occurrence} {o : Occurrence} :
    Linked (chain ++ [o]) ↔ Linked chain ∧ follows chain o := by
  unfold Linked
  rw [List.isChain_append]
  simp only [List.IsChain.singleton, true_and, follows]
  cases chain.getLast? <;> simp

/-- **One step more**: every chain is continued by the pairs that may follow it. -/
theorem chainsOf_concat (links : List (List Pair)) (pairs : List Pair) :
    chainsOf (links ++ [pairs])
      = (chainsOf links).flatMap fun chain =>
          (pairs.zipIdx.filter (follows chain)).map fun o => chain ++ [o] := by
  simp only [chainsOf, List.map_append, List.map_cons, List.map_nil, choices_concat]
  generalize choices (links.map fun pairs => pairs.zipIdx) = ss
  induction ss with
  | nil => rfl
  | cons s ss ih =>
      have hhead : ((pairs.zipIdx.map fun o => s ++ [o]).filter fun chain => Linked chain)
          = if Linked s then (pairs.zipIdx.filter (follows s)).map fun o => s ++ [o] else [] := by
        rw [List.filter_map]
        by_cases hs : Linked s <;> simp [Function.comp_def, linked_concat, hs]
      rw [List.flatMap_cons, List.filter_append, ih, hhead]
      by_cases hs : Linked s <;> simp [hs]

lemma chainsOf_eq_nil {links : List (List Pair)} (h : [] ∈ links) : chainsOf links = [] := by
  refine List.eq_nil_iff_forall_not_mem.2 fun chain hchain => ?_
  have hall := (mem_chainsOf.1 hchain).1
  clear hchain
  induction hall with
  | nil => cases h
  | cons ho _ ih =>
      rcases List.mem_cons.1 h with rfl | h
      · simp at ho
      · exact ih h

lemma length_of_mem_chainsOf {chain : List Occurrence} {links : List (List Pair)}
    (h : chain ∈ chainsOf links) : chain.length = links.length :=
  (mem_chainsOf.1 h).1.length_eq

/-! ## Rows of chains -/

/-- The texts along a chain: the key of its first pair, then the values of all. -/
def chainTexts (chain : List Occurrence) : List String :=
  (chain.head?.map fun o => o.1.key).toList ++ chain.map fun o => o.1.value

/-- **The row of a chain** along a path of labels. -/
def chainRow (labels : List String) (chain : List Occurrence) : Row :=
  ⟨labels.zip (chainTexts chain)⟩

lemma chainTexts_concat {chain : List Occurrence} (h : chain ≠ []) (o : Occurrence) :
    chainTexts (chain ++ [o]) = chainTexts chain ++ [o.1.value] := by
  cases chain with
  | nil => exact absurd rfl h
  | cons a chain => simp [chainTexts]

lemma length_chainTexts {chain : List Occurrence} (h : chain ≠ []) :
    (chainTexts chain).length = chain.length + 1 := by
  cases chain with
  | nil => exact absurd rfl h
  | cons a chain => simp [chainTexts]

/-- A longer chain adds a new label behind the others. -/
lemma chainRow_concat {labels : List String} {l : String} {chain : List Occurrence}
    (h : chain ≠ []) (hlen : labels.length = chain.length + 1) (hl : l ∉ labels) (o : Occurrence) :
    chainRow (labels ++ [l]) (chain ++ [o]) = (chainRow labels chain).set l o.1.value := by
  have hlength : labels.length = (chainTexts chain).length := by
    rw [hlen, length_chainTexts h]
  have hfresh : l ∉ (chainRow labels chain).cells.map Prod.fst := by
    rw [chainRow, List.map_fst_zip (Nat.le_of_eq hlength)]
    exact hl
  rw [Row.set_of_notMem hfresh, chainRow, chainTexts_concat h, List.zip_append hlength]
  rfl

/-- The last label of a path has the text with which the chain ends. -/
lemma chainRow_get?_last {labels : List String} {l : String} {chain : List Occurrence}
    {last : Occurrence} (hd : (labels ++ [l]).Nodup) (hlen : labels.length = chain.length + 1) :
    (chainRow (labels ++ [l]) (chain ++ [last])).get? l = some last.1.value := by
  have htexts : ∃ front, chainTexts (chain ++ [last]) = front ++ [last.1.value]
      ∧ labels.length = front.length := by
    cases chain with
    | nil => exact ⟨[last.1.key], rfl, hlen⟩
    | cons a chain =>
        refine ⟨chainTexts (a :: chain), chainTexts_concat (by simp) last, ?_⟩
        rw [hlen, length_chainTexts (by simp)]
  obtain ⟨front, hfront, hlength⟩ := htexts
  have hcells : (chainRow (labels ++ [l]) (chain ++ [last])).cells
      = labels.zip front ++ [(l, last.1.value)] := by
    rw [chainRow, hfront, List.zip_append hlength]
    rfl
  rw [Row.get?, hcells]
  refine lookup_of_mem ?_ (by simp)
  rw [List.map_append, List.map_fst_zip (Nat.le_of_eq hlength)]
  exact hd

end Crosswalk
