import Crosswalk.Proofs.Formula.Sizes

/-!
# How large the values of functions are

A function gives back one of its arguments, a part of a text or several texts joined, a number that
is read from a text of few digits, or a number that rounding has made a bit longer.  Four functions
are apart: capitals and small letters may be longer than what they come from, a text may be
replaced by a longer one over and over, and a text may be read as a number in a base whose digits
are not counted.

* `Function.IsUnchecked` — those four.
* **`Function.apply_fits`** — the others keep to the allowance of their arguments.
-/

namespace Crosswalk

namespace Value

lemma bitLength_le_maxBits {i : Int} (h : i.natAbs ≤ digitBound) : bitLength i ≤ maxBits := by
  have hroom : 4 * maxDigits < maxBits := by decide
  rw [bitLength_le_iff]
  unfold digitBound at h
  generalize maxDigits = a at h hroom
  generalize maxBits = b at hroom ⊢
  exact h.trans_lt (ten_pow_lt_two_pow hroom)

lemma natAbs_nearestInt?_le {x : Binary64} {i : Int} (h : x.nearestInt? = some i) :
    i.natAbs ≤ digitBound := by
  cases x with
  | finite negative m =>
      have hsteps := m.steps_div_le
      have hbound := two_pow_lt_digitBound
      generalize Nat.pow 2 1024 = most at hsteps hbound
      have hround : halfEven m.steps stepsPerOne ≤ digitBound :=
        (halfEven_le m.steps stepsPerOne_pos).trans ((Nat.succ_le_succ hsteps).trans hbound)
      cases h
      generalize halfEven m.steps stepsPerOne = q at hround
      cases negative <;> simpa using hround
  | _ => cases h

lemma natAbs_roundInt_le (i places : Int) : (roundInt i places).natAbs ≤ 2 * i.natAbs := by
  have hround : halfEven i.natAbs (Nat.pow 10 places.natAbs) * Nat.pow 10 places.natAbs
      ≤ 2 * i.natAbs :=
    halfEven_mul_le i.natAbs (Nat.pow_pos (by decide))
  unfold roundInt
  split
  · omega
  · split
    · simp
    · simp only
      split <;> omega

section Allowance

variable {chars m n : Nat} {v w places base : Value}

lemma wholeOf_fits {x : Binary64} {whole : Option Int}
    (hwhole : ∀ i, whole = some i → i.natAbs ≤ digitBound) (h : wholeOf x whole = .ok w) :
    w.Fits chars n := by
  unfold wholeOf at h
  split at h
  · next i =>
      cases h
      exact fits_int.2 ((bitLength_le_maxBits (hwhole i rfl)).trans (Nat.le_add_right _ _))
  · cases h

lemma absolute_fits (hv : v.Fits chars n) (h : v.absolute = .ok w) : w.Fits chars n := by
  unfold absolute at h
  split at h
  · cases h
    exact fits_float
  · simp only at h
    split at h
    · cases h
    · cases h
      exact fits_float
  · split at h
    · next i hi =>
        cases h
        have hsize : bitLength (i.natAbs : Int) ≤ bitLength i :=
          bitLength_mono (Int.natAbs_natCast _).le
        exact fits_int.2 (hsize.trans (hv.bits i hi))
    · cases h

/-- Rounding makes a whole number longer by one bit at most. -/
lemma rounded_fits (hv : v.Fits chars n) (h : v.rounded places = .ok w) : w.Fits chars (n + 1) := by
  have hdouble : ∀ x p, roundDouble x p = .ok w → w.Fits chars (n + 1) := by
    intro x p hw
    unfold roundDouble at hw
    simp only at hw
    repeat' split at hw
    all_goals first
      | cases hw; done
      | (cases hw; exact fits_float)
  unfold rounded at h
  split at h
  · exact wholeOf_fits (fun i hi => natAbs_nearestInt?_le hi) h
  · obtain ⟨p, -, h⟩ := bind_eq_ok.1 h
    exact hdouble _ p h
  · split at h
    · next i hi _ =>
        cases h
        exact fits_int.2 ((hv.bits i hi).trans (Nat.le_succ _))
    · next i hi _ _ =>
        obtain ⟨p, -, h⟩ := bind_eq_ok.1 h
        cases h
        exact fits_int.2 (bitLength_of_le_double (hv.bits i hi) (natAbs_roundInt_le i p))
    · cases h

/-! ## Extremes -/

lemma bestOf_mem {wanted : Ordering} {best : Value} {vs : List Value}
    (h : bestOf wanted best vs = .ok w) : w ∈ best :: vs := by
  induction vs generalizing best with
  | nil =>
      cases h
      exact List.mem_cons_self
  | cons v vs ih =>
      obtain ⟨o, -, h⟩ := bind_eq_ok.1 h
      have hmem := ih h
      split at hmem
      · exact List.mem_cons_of_mem _ hmem
      · rcases List.mem_cons.1 hmem with rfl | hmem
        · exact List.mem_cons_self
        · exact List.mem_cons_of_mem _ (List.mem_cons_of_mem _ hmem)

/-- An extreme is one of the values, or one character of a text. -/
lemma extreme_fits {wanted : Ordering} {vs : List Value} (hchars : 0 < chars)
    (hvs : ∀ v ∈ vs, v.Fits chars n) (h : extreme wanted vs = .ok w) :
    w.Fits chars (n + 1) := by
  unfold extreme at h
  split at h
  · split at h
    · cases h
    · next c cs heq =>
        have hmem := bestOf_mem h
        rw [← heq] at hmem
        obtain ⟨c, -, rfl⟩ := List.mem_map.1 hmem
        have hlength : c.toString.length = 1 := String.length_singleton
        rw [fits_text, hlength]
        exact Nat.mul_pos hchars (Nat.succ_pos n)
  · cases h
  · cases h
  · exact (hvs w (bestOf_mem h)).mono (Nat.le_succ n)

/-! ## Conversions -/

lemma index_fits {i : Int} (hv : v.Fits chars n) (h : v.index = .ok i) :
    bitLength i ≤ maxBits + n := by
  unfold index at h
  simp only at h
  split at h
  · next j hj =>
      cases h
      exact hv.bits i hj
  · cases h

lemma toInt_fits (hv : v.Fits chars n) (h : v.toInt = .ok w) : w.Fits chars n := by
  unfold toInt at h
  split at h
  · refine wholeOf_fits (fun i hi => ?_) h
    exact (natAbs_truncate?_le hi).trans two_pow_lt_digitBound.le
  · split at h
    · next i hi =>
        cases h
        exact fits_int.2 ((bitLength_le_maxBits (natAbs_readInteger?_lt hi).le).trans
          (Nat.le_add_right _ _))
    · cases h
  · obtain ⟨i, hi, h⟩ := bind_eq_ok.1 h
    cases h
    exact fits_int.2 (index_fits hv hi)

lemma toFloat_fits (h : v.toFloat = .ok w) : w.Fits chars n := by
  unfold toFloat at h
  split at h
  · split at h
    · cases h
      exact fits_float
    · cases h
  · obtain ⟨x, -, h⟩ := bind_eq_ok.1 h
    cases h
    exact fits_float

/-! ## Texts -/

lemma format_fits {s : String} (hchars : maxRepetition ≤ chars) (hn : 0 < n) (hv : v.Fits chars n)
    (h : v.format = .ok s) : s.length ≤ chars * n := by
  rcases length_format_le h with rfl | hshort
  · exact hv.length s rfl
  · exact hshort.trans (hchars.trans (Nat.le_mul_of_pos_right _ hn))

lemma length_trim_le (s : String) : (trim s).length ≤ s.length := by
  have hfront := (List.dropWhile_sublist isBlank (l := s.toList)).length_le
  have hback :=
    (List.dropWhile_sublist isBlank (l := (s.toList.dropWhile isBlank).reverse)).length_le
  rw [List.length_reverse] at hback
  rw [trim, String.length_ofList, trimChars, List.length_reverse]
  exact hback.trans (hfront.trans (Nat.le_of_eq String.length_toList))

lemma length_cutOut_le (start stop : Option Int) (cs : List Char) :
    (cutOut start stop cs).length ≤ cs.length := by
  unfold cutOut
  simp only [List.length_drop, List.length_take]
  omega

lemma part_fits {start length : Value} (hchars : maxRepetition ≤ chars) (hn : 0 < n)
    (hv : v.Fits chars n) (h : v.part start length = .ok w) : w.Fits chars n := by
  obtain ⟨s, hs, h⟩ := bind_eq_ok.1 h
  have hcut : ∀ stop : Value, (start.bound >>= fun first => stop.bound >>= fun last =>
      .ok (text (String.ofList (cutOut first last s.toList)))) = .ok w → w.Fits chars n := by
    intro stop hw
    obtain ⟨first, -, hw⟩ := bind_eq_ok.1 hw
    obtain ⟨last, -, hw⟩ := bind_eq_ok.1 hw
    cases hw
    have hlength := length_cutOut_le first last s.toList
    rw [String.length_toList] at hlength
    rw [fits_text, String.length_ofList]
    exact hlength.trans (format_fits hchars hn hv hs)
  simp only at h
  split at h
  · exact hcut absent h
  · obtain ⟨stop, -, h⟩ := bind_eq_ok.1 h
    exact hcut stop h

end Allowance
end Value

/-! ## Functions -/

namespace Formula

/-- **The functions without a size check** that can make much out of little, when called with so
many arguments. -/
def Function.IsUnchecked (f : Function) (count : Nat) : Prop :=
  f ∈ [replace, upper, lower] ∨ (f = int ∧ count = 2)

section Functions

open Value

variable {chars n : Nat} {v w : Value}

lemma bitLength_length_le {s : String} (hroom : bitLength chars ≤ maxBits)
    (h : s.length ≤ chars * n) : bitLength s.length ≤ maxBits + n := by
  rw [bitLength_le_iff, Int.natAbs_natCast] at hroom ⊢
  calc s.length ≤ chars * n := h
    _ ≤ chars * 2 ^ n := Nat.mul_le_mul_left _ Nat.lt_two_pow_self.le
    _ < 2 ^ maxBits * 2 ^ n := Nat.mul_lt_mul_of_pos_right hroom (Nat.two_pow_pos n)
    _ = 2 ^ (maxBits + n) := (Nat.pow_add 2 maxBits n).symm

/-- A function of the text of a value fits if it does not make it longer. -/
lemma onText_fits {g : String → Value} (hchars : maxRepetition ≤ chars) (hn : 0 < n)
    (hv : v.Fits chars n) (hg : ∀ s : String, s.length ≤ chars * n → (g s).Fits chars n)
    (h : v.onText g = .ok w) : w.Fits chars n := by
  obtain ⟨s, hs, h⟩ := bind_eq_ok.1 h
  cases h
  exact hg s (format_fits hchars hn hv hs)

lemma asked_fits {g : List Char → List Char → Bool} {t : Value} (h : v.asked g t = .ok w) :
    w.Fits chars n := by
  obtain ⟨s, -, h⟩ := bind_eq_ok.1 h
  obtain ⟨t, -, h⟩ := bind_eq_ok.1 h
  cases h
  exact fits_bool

/-- **A function keeps to the allowance of its arguments**, of all their texts together. -/
theorem Function.apply_fits {f : Function} {vs : List Value}
    (hchars : maxRepetition ≤ chars) (hroom : bitLength chars ≤ maxBits) (hn : vs ≠ [] → 0 < n)
    (hvs : ∀ w ∈ vs, w.Fits chars n)
    (htexts : ∀ ss, vs.mapM Value.format = .ok ss → (ss.map String.length).sum ≤ chars * n)
    (hchecked : ¬ f.IsUnchecked vs.length) (h : f.apply vs = .ok v) : v.Fits chars (n + 1) := by
  have hpos : 0 < chars := Nat.lt_of_lt_of_le (by decide) hchars
  have hmore : v.Fits chars n → v.Fits chars (n + 1) := fun hv => hv.mono (Nat.le_succ n)
  unfold apply at h
  -- one case for each function and number of arguments, in the order of the definition
  split at h
  · exact hmore (absolute_fits (hvs _ List.mem_cons_self) h)
  · exact rounded_fits (hvs _ List.mem_cons_self) h
  · exact rounded_fits (hvs _ List.mem_cons_self) h
  · exact extreme_fits hpos hvs h
  · exact extreme_fits hpos hvs h
  · refine hmore (onText_fits hchars (hn (List.cons_ne_nil _ _)) (hvs _ List.mem_cons_self)
      (fun s hs => ?_) h)
    exact fits_int.2 (bitLength_length_le hroom hs)
  · cases h
    exact fits_int.2 (Nat.zero_le _)
  · exact hmore (toInt_fits (hvs _ List.mem_cons_self) h)
  · exact absurd (Or.inr ⟨rfl, rfl⟩) hchecked
  · cases h
    exact fits_float
  · exact toFloat_fits h
  · exact hmore (onText_fits hchars (hn (List.cons_ne_nil _ _)) (hvs _ List.mem_cons_self)
      (fun s hs => fits_text.2 hs) h)
  · exact absurd (Or.inl (by simp)) hchecked
  · exact absurd (Or.inl (by simp)) hchecked
  · refine hmore (onText_fits hchars (hn (List.cons_ne_nil _ _)) (hvs _ List.mem_cons_self)
      (fun s hs => ?_) h)
    exact fits_text.2 ((length_trim_le s).trans hs)
  · obtain ⟨ss, hss, h⟩ := bind_eq_ok.1 h
    cases h
    refine hmore (fits_text.2 ?_)
    rw [String.length_join]
    exact htexts ss hss
  · exact hmore (part_fits hchars (hn (List.cons_ne_nil _ _)) (hvs _ List.mem_cons_self) h)
  · exact hmore (part_fits hchars (hn (List.cons_ne_nil _ _)) (hvs _ List.mem_cons_self) h)
  · exact absurd (Or.inl (by simp)) hchecked
  · exact asked_fits h
  · exact asked_fits h
  · exact asked_fits h
  · cases h

end Functions

end Formula
end Crosswalk
