import Mathlib.Data.List.Forall2
import Mathlib.Data.List.Induction
import Mathlib.Data.List.Nodup
import Mathlib.Data.List.Perm.Basic

/-!
# Computations in sequence

How a computation that may fail is taken apart into its steps, what is found in a list of keys with
values, which elements come first among repeated ones, and where in a list a test ends or an
element of two lists stands. -/

namespace Crosswalk

section Steps

variable {ε α β : Type}

@[simp] lemma ok_bind (a : α) (f : α → Except ε β) :
    ((.ok a : Except ε α) >>= f) = f a := rfl

@[simp] lemma error_bind (e : ε) (f : α → Except ε β) :
    ((.error e : Except ε α) >>= f) = .error e := rfl

/-- Two steps succeed if both do. -/
lemma bind_eq_ok {x : Except ε α} {f : α → Except ε β} {b : β} :
    x >>= f = .ok b ↔ ∃ a, x = .ok a ∧ f a = .ok b := by
  cases x <;> simp

/-- Two steps fail if the first one does, or else the second one. -/
lemma bind_eq_error {x : Except ε α} {f : α → Except ε β} {e : ε} :
    x >>= f = .error e ↔ x = .error e ∨ ∃ a, x = .ok a ∧ f a = .error e := by
  cases x <;> simp

/-- A map behind a computation leaves its success alone. -/
lemma map_eq_ok {x : Except ε α} {f : α → β} {b : β} :
    x.map f = .ok b ↔ ∃ a, x = .ok a ∧ f a = b := by
  cases x <;> simp [Except.map]

/-- So does a map of its failures. -/
lemma mapError_eq_ok {ε' : Type} {x : Except ε α} {f : ε → ε'} {a : α} :
    x.mapError f = .ok a ↔ x = .ok a := by
  cases x <;> simp [Except.mapError]

lemma ok_of_toOption {x : Except ε α} {a : α} (h : x.toOption = some a) : x = .ok a := by
  cases x with
  | ok b => exact congrArg Except.ok (Option.some.inj h)
  | error e => cases h

/-- **What comes of a list** comes of its elements one by one. -/
lemma mapM_eq_ok {f : α → Except ε β} {xs : List α} {ys : List β} :
    xs.mapM f = .ok ys ↔ List.Forall₂ (fun x y => f x = .ok y) xs ys := by
  induction xs generalizing ys with
  | nil => simp [pure, Except.pure, eq_comm]
  | cons x xs ih =>
      rw [List.mapM_cons, bind_eq_ok, List.forall₂_cons_left_iff]
      constructor
      · rintro ⟨y, hy, h⟩
        obtain ⟨rest, hrest, h⟩ := bind_eq_ok.1 h
        cases h
        exact ⟨y, rest, hy, ih.1 hrest, rfl⟩
      · rintro ⟨y, rest, hy, hrest, rfl⟩
        rw [ih.2 hrest]
        exact ⟨y, hy, rfl⟩

/-- Lists that are related one by one have no element without a partner. -/
lemma exists_of_forall₂ {R : α → β → Prop} {xs : List α} {ys : List β}
    (h : List.Forall₂ R xs ys) : ∀ y ∈ ys, ∃ x ∈ xs, R x y := by
  induction h with
  | nil => simp
  | cons hx _ ih =>
      intro y' hy'
      rcases List.mem_cons.1 hy' with rfl | hy'
      · exact ⟨_, List.mem_cons_self, hx⟩
      · obtain ⟨x, hx', hR⟩ := ih y' hy'
        exact ⟨x, List.mem_cons_of_mem _ hx', hR⟩

/-- What comes of a list comes of its elements. -/
lemma exists_of_mapM_ok {f : α → Except ε β} {xs : List α} {ys : List β}
    (h : xs.mapM f = .ok ys) : ∀ y ∈ ys, ∃ x ∈ xs, f x = .ok y :=
  exists_of_forall₂ (mapM_eq_ok.1 h)

/-- If a list comes to something, so do all of its elements. -/
lemma exists_ok_of_mapM {f : α → Except ε β} {xs : List α} {ys : List β}
    (h : xs.mapM f = .ok ys) : ∀ x ∈ xs, ∃ y ∈ ys, f x = .ok y :=
  exists_of_forall₂ (mapM_eq_ok.1 h).flip

/-- A list comes to something exactly if all of its elements do. -/
lemma exists_mapM_eq_ok {f : α → Except ε β} {xs : List α} :
    (∃ ys, xs.mapM f = .ok ys) ↔ ∀ x ∈ xs, ∃ y, f x = .ok y := by
  simp only [mapM_eq_ok]
  induction xs with
  | nil => simp
  | cons x xs ih => simp [List.forall₂_cons_left_iff, ih]

/-- A part of a list comes to a part of what the whole comes to. -/
lemma mapM_sublist {f : α → Except ε β} {xs xs' : List α} {ys' : List β} (h : xs.Sublist xs')
    (h' : xs'.mapM f = .ok ys') : ∃ ys, xs.mapM f = .ok ys ∧ ys.Sublist ys' := by
  simp only [mapM_eq_ok] at h' ⊢
  induction h generalizing ys' with
  | slnil =>
      cases h'
      exact ⟨[], .nil, .slnil⟩
  | cons x h ih =>
      cases h' with
      | cons hx h' =>
          obtain ⟨ys, hys, hsub⟩ := ih h'
          exact ⟨ys, hys, hsub.cons _⟩
  | cons_cons x h ih =>
      cases h' with
      | cons hx h' =>
          obtain ⟨ys, hys, hsub⟩ := ih h'
          exact ⟨_, .cons hx hys, hsub.cons_cons _⟩

lemma mapM_of_ok {f : α → Except ε β} {g : α → β} {xs : List α}
    (h : ∀ x ∈ xs, f x = .ok (g x)) :
    xs.mapM f = .ok (xs.map g) := by
  induction xs with
  | nil => rfl
  | cons x xs ih =>
      rw [List.mapM_cons, h x List.mem_cons_self, ih fun y hy => h y (List.mem_cons_of_mem _ hy)]
      rfl

/-- A selection that the computation leaves alone may be made before or behind it. -/
lemma mapM_filter {f : α → Except ε β} {p : α → Bool} {q : β → Bool} {xs : List α}
    {ys : List β} (hf : ∀ x y, f x = .ok y → q y = p x) (h : xs.mapM f = .ok ys) :
    (xs.filter p).mapM f = .ok (ys.filter q) := by
  induction xs generalizing ys with
  | nil =>
      cases h
      rfl
  | cons x xs ih =>
      rw [List.mapM_cons] at h
      obtain ⟨y, hy, h⟩ := bind_eq_ok.1 h
      obtain ⟨rest, hrest, h⟩ := bind_eq_ok.1 h
      cases h
      have hq := hf x y hy
      by_cases hp : p x
      · rw [List.filter_cons_of_pos hp, List.filter_cons_of_pos (hq.trans hp), List.mapM_cons, hy,
          ok_bind, ih hrest]
        rfl
      · rw [List.filter_cons_of_neg hp, List.filter_cons_of_neg (by simpa [hq] using hp), ih hrest]

lemma exists_of_mapM_error {f : α → Except ε β} {xs : List α} {e : ε}
    (h : xs.mapM f = .error e) : ∃ x ∈ xs, f x = .error e := by
  induction xs with
  | nil => cases h
  | cons x xs ih =>
      rw [List.mapM_cons] at h
      rcases bind_eq_error.1 h with hx | ⟨y, -, h⟩
      · exact ⟨x, List.mem_cons_self, hx⟩
      · rcases bind_eq_error.1 h with hrest | ⟨rest, -, h⟩
        · obtain ⟨x', hx', heq⟩ := ih hrest
          exact ⟨x', List.mem_cons_of_mem _ hx', heq⟩
        · cases h

/-- **A list fails with its first element that fails.** -/
lemma mapM_eq_error {f : α → Except ε β} {xs : List α} {e : ε} :
    xs.mapM f = .error e ↔ ∃ before x behind, xs = before ++ x :: behind ∧
      (∀ y ∈ before, ∃ z, f y = .ok z) ∧ f x = .error e := by
  induction xs with
  | nil => simp [pure, Except.pure]
  | cons x xs ih =>
      rw [List.mapM_cons, bind_eq_error]
      constructor
      · rintro (hx | ⟨z, hz, h⟩)
        · exact ⟨[], x, xs, rfl, nofun, hx⟩
        · rcases bind_eq_error.1 h with hrest | ⟨rest, -, h⟩
          · obtain ⟨before, y, behind, rfl, hbefore, hy⟩ := ih.1 hrest
            exact ⟨x :: before, y, behind, rfl,
              List.forall_mem_cons.2 ⟨⟨z, hz⟩, hbefore⟩, hy⟩
          · cases h
      · rintro ⟨before, y, behind, hsplit, hbefore, hy⟩
        cases before with
        | nil =>
            obtain ⟨rfl, rfl⟩ := List.cons.inj hsplit
            exact Or.inl hy
        | cons x' before =>
            obtain ⟨rfl, rfl⟩ := List.cons.inj hsplit
            obtain ⟨⟨z, hz⟩, hbefore⟩ := List.forall_mem_cons.1 hbefore
            exact Or.inr ⟨z, hz,
              bind_eq_error.2 (Or.inl (ih.2 ⟨before, y, behind, rfl, hbefore, hy⟩))⟩

end Steps

section Lookup

variable {α β : Type} [DecidableEq α] {l : List (α × β)} {a : α} {b : β}

lemma mem_of_lookup (h : l.lookup a = some b) : (a, b) ∈ l := by
  obtain ⟨before, after, rfl, -⟩ := List.lookup_eq_some_iff.1 h
  exact List.mem_append_right _ List.mem_cons_self

/-- If keys are distinct, what is in the list is found. -/
lemma lookup_of_mem (hd : (l.map Prod.fst).Nodup) (h : (a, b) ∈ l) : l.lookup a = some b := by
  induction l with
  | nil => cases h
  | cons kv l ih =>
      obtain ⟨k, v⟩ := kv
      rw [List.map_cons, List.nodup_cons] at hd
      rcases List.mem_cons.1 h with heq | hmem
      · simp only [Prod.mk.injEq] at heq
        obtain ⟨rfl, rfl⟩ := heq
        exact List.lookup_cons_self
      · have hne : a ≠ k := by
          intro heq
          exact hd.1 (List.mem_map.2 ⟨(a, b), hmem, heq⟩)
        rw [List.lookup_cons, beq_false_of_ne hne]
        exact ih hd.2 hmem

lemma isSome_lookup_iff : (l.lookup a).isSome ↔ a ∈ l.map Prod.fst := by
  induction l with
  | nil => simp
  | cons kv l ih =>
      obtain ⟨k, v⟩ := kv
      by_cases h : a = k
      · simp [h]
      · simp [List.lookup_cons, beq_false_of_ne h, h, ih]

lemma lookup_eq_none_of_notMem (h : a ∉ l.map Prod.fst) : l.lookup a = none := by
  cases hl : l.lookup a with
  | none => rfl
  | some b => exact absurd (List.mem_map.2 ⟨(a, b), mem_of_lookup hl, rfl⟩) h

end Lookup

section Repeated

lemma eraseDups_concat {α : Type} [DecidableEq α] (xs : List α) (x : α) :
    (xs ++ [x]).eraseDups = if x ∈ xs then xs.eraseDups else xs.eraseDups ++ [x] := by
  rw [List.eraseDups_append, List.cons_removeAll]
  by_cases h : x ∈ xs
  · simp [h, List.nil_removeAll]
  · simp [h, List.nil_removeAll, List.eraseDups_cons]

lemma nodup_eraseDups {α : Type} [DecidableEq α] (xs : List α) : xs.eraseDups.Nodup := by
  induction xs using List.reverseRecOn with
  | nil => exact .nil
  | append_singleton xs x ih =>
      rw [eraseDups_concat]
      split
      · exact ih
      · next h =>
          rw [← List.concat_eq_append]
          exact ih.concat (mt List.mem_eraseDups.1 h)

lemma flatMap_ite_of_nodup {α β γ : Type} [DecidableEq γ] {f : α → γ} {k : γ}
    {ys : List β} {xs : List α} (hd : (xs.map f).Nodup) :
    (xs.flatMap fun x => if f x = k then ys else []) = if k ∈ xs.map f then ys else [] := by
  induction xs with
  | nil => rfl
  | cons x xs ih =>
      rw [List.map_cons, List.nodup_cons] at hd
      rw [List.flatMap_cons, ih hd.2, List.map_cons]
      by_cases hx : f x = k
      · subst hx
        simp [hd.1]
      · simp [hx, Ne.symm hx]

end Repeated

/-- **What is taken as long as a test holds** ends where the test first fails. -/
lemma takeWhile_dropWhile_append {α : Type} {p : α → Bool} {front rest : List α}
    (hfront : ∀ x ∈ front, p x = true) (hrest : ∀ x ∈ rest.head?, p x = false) :
    (front ++ rest).takeWhile p = front ∧ (front ++ rest).dropWhile p = rest := by
  rw [List.takeWhile_append_of_pos hfront, List.dropWhile_append_of_pos hfront]
  cases rest with
  | nil => simp
  | cons x rest => simp [hrest x rfl]

/-- An element of two lists behind each other stands in the second one, or in the first one. -/
lemma append_eq_append_cons {α : Type} {t u front back : List α} {x : α}
    (h : t ++ u = front ++ x :: back) :
    (∃ more, front = t ++ more ∧ u = more ++ x :: back) ∨
      ∃ more, t = front ++ x :: more ∧ back = more ++ u := by
  rcases List.append_eq_append_iff.1 h with ⟨more, hfront, hu⟩ | ⟨more, ht, hmore⟩
  · exact Or.inl ⟨more, hfront, hu⟩
  · cases more with
    | nil => exact Or.inl ⟨[], by simpa using ht.symm, hmore.symm⟩
    | cons y more =>
        obtain ⟨rfl, hback⟩ := List.cons.inj hmore
        exact Or.inr ⟨more, ht, hback⟩

end Crosswalk
