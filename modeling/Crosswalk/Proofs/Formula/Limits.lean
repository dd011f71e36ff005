import Crosswalk.Proofs.Formula.FunctionSizes
import Crosswalk.Proofs.Formula.Whitelist
import Mathlib.Algebra.Order.BigOperators.Group.List

/-!
# How large the values of a formula are

Products and powers are checked when they are computed, and nothing else is.  By induction on the
term, every value keeps to an allowance that grows with the nodes below it, as long as the few
operations do that can make much out of little and are not checked: a literal of any length, a
template that is filled to any width, a text replaced by a longer one, capitals and small letters,
and a text that is read as a number in a base.

* `Term.subterms`, `Term.size` — the terms inside of a term, and how many there are.
* `Term.IsUnchecked` — the operations that nothing keeps from making much out of little.
* `Term.evaluate_fits` — **every value keeps to the allowance of its nodes** if those do.
* **`evaluate_within`** — the same for formulas on rows.
* `evaluate_padded` — without the condition it fails.
-/

namespace Crosswalk.Formula

/-! ## The terms inside of a term -/

mutual

/-- **The terms inside of a term**, itself among them: one for each of its nodes. -/
def Term.subterms : Term → List Term
  | .literal v => [.literal v]
  | .field label => [.field label]
  | .unary op t => .unary op t :: t.subterms
  | .binary op l r => .binary op l r :: (l.subterms ++ r.subterms)
  | .junction op ts => .junction op ts :: Term.allSubterms ts
  | .comparison t ops ts => .comparison t ops ts :: (t.subterms ++ Term.allSubterms ts)
  | .choice c y n => .choice c y n :: (c.subterms ++ y.subterms ++ n.subterms)
  | .call f args => .call f args :: Term.allSubterms args

/-- The terms inside of several terms. -/
def Term.allSubterms : List Term → List Term
  | [] => []
  | t :: ts => t.subterms ++ Term.allSubterms ts

end

/-- The number of nodes of a term. -/
def Term.size (t : Term) : Nat := t.subterms.length

section Subterms

variable {t u : Term} {ts : List Term}

lemma Term.mem_subterms_self (t : Term) : t ∈ t.subterms := by
  cases t <;> exact List.mem_cons_self

lemma Term.size_pos (t : Term) : 0 < t.size := List.length_pos_of_mem t.mem_subterms_self

lemma Term.allSubterms_eq_flatMap (ts : List Term) :
    Term.allSubterms ts = ts.flatMap Term.subterms := by
  induction ts with
  | nil => rfl
  | cons t ts ih => rw [Term.allSubterms, ih, List.flatMap_cons]

lemma Term.mem_allSubterms : u ∈ Term.allSubterms ts ↔ ∃ t ∈ ts, u ∈ t.subterms := by
  rw [Term.allSubterms_eq_flatMap, List.mem_flatMap]

lemma Term.subterms_sublist_all (h : t ∈ ts) : t.subterms.Sublist (Term.allSubterms ts) := by
  rw [Term.allSubterms_eq_flatMap]
  exact List.sublist_flatten_of_mem (List.mem_map_of_mem h)

lemma Term.forall_allSubterms {P : Term → Prop} :
    (∀ u ∈ Term.allSubterms ts, P u) ↔ ∀ t ∈ ts, ∀ u ∈ t.subterms, P u := by
  rw [Term.allSubterms_eq_flatMap, List.forall_mem_flatMap]

/-- What is inside of a subterm is inside of the term. -/
lemma Term.subterms_sublist (t : Term) : ∀ u ∈ t.subterms, u.subterms.Sublist t.subterms := by
  have hall : ∀ ts : List Term,
      (∀ t ∈ ts, ∀ u ∈ t.subterms, u.subterms.Sublist t.subterms) →
      ∀ u ∈ Term.allSubterms ts, u.subterms.Sublist (Term.allSubterms ts) := by
    intro ts hts u hu
    obtain ⟨t, ht, hu⟩ := Term.mem_allSubterms.1 hu
    exact (hts t ht u hu).trans (Term.subterms_sublist_all ht)
  have hcons : ∀ (t : Term) (below : List Term), t.subterms = t :: below →
      (∀ u ∈ below, u.subterms.Sublist below) →
        ∀ u ∈ t.subterms, u.subterms.Sublist t.subterms := by
    intro t below heq hbelow u hu
    rw [heq] at hu
    rcases List.mem_cons.1 hu with rfl | hu
    · exact List.Sublist.refl _
    · rw [heq]
      exact (hbelow u hu).trans (List.sublist_cons_self _ _)
  have happend : ∀ {as bs : List Term}, (∀ u ∈ as, u.subterms.Sublist as) →
      (∀ u ∈ bs, u.subterms.Sublist bs) →
        ∀ u ∈ as ++ bs, u.subterms.Sublist (as ++ bs) := by
    intro as bs has hbs u hu
    rcases List.mem_append.1 hu with hu | hu
    · exact (has u hu).trans (List.sublist_append_left _ _)
    · exact (hbs u hu).trans (List.sublist_append_right _ _)
  induction t using Term.induction with
  | literal v => exact hcons _ [] rfl (List.forall_mem_nil _)
  | field label => exact hcons _ [] rfl (List.forall_mem_nil _)
  | unary op t ht => exact hcons _ _ rfl ht
  | binary op l r hl hr => exact hcons _ _ rfl (happend hl hr)
  | junction op ts hts => exact hcons _ _ rfl (hall ts hts)
  | comparison t ops ts ht hts => exact hcons _ _ rfl (happend ht (hall ts hts))
  | choice c y n hc hy hn => exact hcons _ _ rfl (happend (happend hc hy) hn)
  | call f args hargs => exact hcons _ _ rfl (hall args hargs)

/-- Size checks change the nodes, but not their number. -/
lemma Term.subterms_guarded (t : Term) : t.guarded.subterms = t.subterms.map Term.guarded := by
  have hall : ∀ ts : List Term,
      (∀ t ∈ ts, t.guarded.subterms = t.subterms.map Term.guarded) →
      Term.allSubterms (Term.allGuarded ts) = (Term.allSubterms ts).map Term.guarded := by
    intro ts hts
    rw [Term.allGuarded_eq_map, Term.allSubterms_eq_flatMap, Term.allSubterms_eq_flatMap,
      List.flatMap_map, List.map_flatMap, List.flatMap_congr hts]
  induction t using Term.induction with
  | literal v => rfl
  | field label => rfl
  | unary op t ht => simp [Term.guarded, Term.subterms, ht]
  | binary op l r hl hr => simp [Term.guarded, Term.subterms, hl, hr]
  | junction op ts hts => simp [Term.guarded, Term.subterms, hall ts hts]
  | comparison t ops ts ht hts => simp [Term.guarded, Term.subterms, ht, hall ts hts]
  | choice c y n hc hy hn => simp [Term.guarded, Term.subterms, hc, hy, hn]
  | call f args hargs => simp [Term.guarded, Term.subterms, hall args hargs]

/-- **No product and no power is left without a check**, at any depth. -/
lemma Term.checked_of_guarded {op : ArithmeticOp} {l r : Term}
    (h : .binary op l r ∈ t.guarded.subterms) : op ≠ .mul ∧ op ≠ .pow := by
  rw [Term.subterms_guarded] at h
  obtain ⟨s, -, hs⟩ := List.mem_map.1 h
  cases s with
  | binary op' l' r' =>
      rw [Term.guarded, Term.binary.injEq] at hs
      obtain ⟨rfl, -, -⟩ := hs
      cases op' <;> decide
  | _ => cases hs

end Subterms

/-! ## Operators -/

section Operators

variable {chars m n : Nat} {l r v w : Value}

lemma SignOp.apply_fits {op : SignOp} (hv : v.Fits chars n) (h : op.apply v = .ok w) :
    w.Fits chars n := by
  cases op with
  | plus => exact Value.affirm_fits hv h
  | minus => exact Value.negate_fits hv h
  | not =>
      cases h
      exact Value.fits_bool

/-- **The operators that are checked, or need no check.** -/
lemma ArithmeticOp.apply_fits {op : ArithmeticOp} (hchars : Value.maxRepetition ≤ chars)
    (hchecked : op ≠ .mul ∧ op ≠ .pow) (htemplate : ∀ s, l = .text s → op ≠ .mod)
    (hl : l.Fits chars m) (hr : r.Fits chars n) (h : op.apply l r = .ok v) :
    v.Fits chars (m + n + 1) := by
  cases op with
  | add => exact Value.add_fits hl hr h
  | sub => exact Value.sub_fits hl hr h
  | mul => exact absurd rfl hchecked.1
  | div => exact Value.div_fits h
  | floorDiv => exact (Value.floorDiv_fits hl h).mono (by omega)
  | mod =>
      have h : l.mod r = .ok v := h
      unfold Value.mod at h
      split at h
      · exact absurd rfl (htemplate _ rfl)
      · exact (Value.numberMod_fits hr h).mono (by omega)
  | pow => exact absurd rfl hchecked.2
  | boundedMul => exact (Value.boundedMul_bounded h).fits hchars
  | boundedPow => exact (Value.boundedPow_bounded h).fits hchars

end Operators

/-! ## Terms -/

section Terms

variable {chars : Nat} {env : String → Value}

/-- **The operations that nothing keeps from making much out of little.** -/
inductive Term.IsUnchecked (env : String → Value) : Term → Prop where
  /-- A literal has the size that it is written with. -/
  | literal (v : Value) : IsUnchecked env (.literal v)
  /-- A template is filled to the widths that it asks for. -/
  | template {l r : Term} {s : String} (h : l.evaluate env = .ok (.text s)) :
      IsUnchecked env (.binary .mod l r)
  /-- Some functions make longer texts, or read long numbers. -/
  | call {f : Function} {args : List Term} (h : f.IsUnchecked args.length) :
      IsUnchecked env (.call f args)

/-- What is asked of a node: it is no product or power without a check, and if it is an operation
that has none, it keeps to its allowance. -/
structure Term.IsTame (chars : Nat) (env : String → Value) (t : Term) : Prop where
  checked : ∀ op l r, t = .binary op l r → op ≠ .mul ∧ op ≠ .pow
  unchecked : t.IsUnchecked env → ∀ v, t.evaluate env = .ok v → v.Fits chars t.size

lemma Term.evaluateJunction_mem {op : Junction} {ts : List Term} {last v : Value}
    (h : Term.evaluateJunction env op last ts = .ok v) :
    v = last ∨ ∃ t ∈ ts, t.evaluate env = .ok v := by
  induction ts generalizing last with
  | nil =>
      cases h
      exact Or.inl rfl
  | cons t ts ih =>
      obtain ⟨w, hw, h⟩ := bind_eq_ok.1 h
      split at h
      · cases h
        exact Or.inr ⟨t, List.mem_cons_self, hw⟩
      · rcases ih h with rfl | ⟨t', ht', hv⟩
        · exact Or.inr ⟨t, List.mem_cons_self, hw⟩
        · exact Or.inr ⟨t', List.mem_cons_of_mem _ ht', hv⟩

lemma Term.evaluateChain_bool {ts : List Term} {ops : List Comparison} {left v : Value}
    (h : Term.evaluateChain env left ops ts = .ok v) : ∃ b, v = .bool b := by
  induction ts generalizing left ops with
  | nil =>
      cases ops <;> cases h <;> exact ⟨_, rfl⟩
  | cons t ts ih =>
      cases ops with
      | nil =>
          cases h
          exact ⟨_, rfl⟩
      | cons op ops =>
          obtain ⟨right, -, h⟩ := bind_eq_ok.1 h
          obtain ⟨holds, -, h⟩ := bind_eq_ok.1 h
          split at h
          · exact ih h
          · cases h
            exact ⟨_, rfl⟩

/-- The values of arguments keep to the allowance of all nodes, and so do their texts together. -/
lemma Term.evaluateAll_fits {ts : List Term} {vs : List Value}
    (hchars : Value.maxRepetition ≤ chars)
    (hts : ∀ t ∈ ts, ∀ v, t.evaluate env = .ok v → v.Fits chars t.size)
    (h : Term.evaluateAll env ts = .ok vs) :
    vs.length = ts.length ∧ (∀ v ∈ vs, v.Fits chars (Term.allSubterms ts).length) ∧
      ∀ ss, vs.mapM Value.format = .ok ss →
        (ss.map String.length).sum ≤ chars * (Term.allSubterms ts).length := by
  induction ts generalizing vs with
  | nil =>
      cases h
      refine ⟨rfl, List.forall_mem_nil _, fun ss hss => ?_⟩
      cases hss
      exact Nat.zero_le _
  | cons t ts ih =>
      obtain ⟨v, hv, h⟩ := bind_eq_ok.1 h
      obtain ⟨rest, hrest, h⟩ := bind_eq_ok.1 h
      cases h
      obtain ⟨ht, hts⟩ := List.forall_mem_cons.1 hts
      obtain ⟨hlength, hfits, htexts⟩ := ih hts hrest
      have hsize : (Term.allSubterms (t :: ts)).length = t.size + (Term.allSubterms ts).length :=
        List.length_append
      rw [hsize]
      refine ⟨congrArg (· + 1) hlength, List.forall_mem_cons.2 ⟨?_, fun w hw => ?_⟩,
        fun ss hss => ?_⟩
      · exact (ht v hv).mono (Nat.le_add_right _ _)
      · exact (hfits w hw).mono (Nat.le_add_left _ _)
      · rw [List.mapM_cons] at hss
        obtain ⟨s, hs, hss⟩ := bind_eq_ok.1 hss
        obtain ⟨others, hothers, hss⟩ := bind_eq_ok.1 hss
        cases hss
        have hfirst := Value.format_fits hchars t.size_pos (ht v hv) hs
        rw [List.map_cons, List.sum_cons, Nat.mul_add]
        exact Nat.add_le_add hfirst (htexts others hothers)

/-- **Every value keeps to the allowance of its nodes**, if the operations without a check do. -/
theorem Term.evaluate_fits (hchars : Value.maxRepetition ≤ chars)
    (hroom : Value.bitLength chars ≤ Value.maxBits) (henv : ∀ label, (env label).Fits chars 1)
    (t : Term) (htame : ∀ u ∈ t.subterms, u.IsTame chars env) :
    ∀ v, t.evaluate env = .ok v → v.Fits chars t.size := by
  induction t using Term.induction with
  | literal v => exact (htame _ (Term.mem_subterms_self _)).unchecked (.literal v)
  | field label =>
      rintro v ⟨⟩
      exact henv label
  | unary op t ht =>
      intro v h
      obtain ⟨w, hw, h⟩ := bind_eq_ok.1 h
      have hoperand := ht (List.forall_mem_cons.1 htame).2 w hw
      exact (SignOp.apply_fits hoperand h).mono (Nat.le_succ _)
  | binary op l r hl hr =>
      intro v h
      obtain ⟨hnode, hbelow⟩ := List.forall_mem_cons.1 htame
      obtain ⟨hleft, hright⟩ := List.forall_mem_append.1 hbelow
      -- a template has its own condition, since its operands say nothing of its length
      by_cases hunchecked : (Term.binary op l r).IsUnchecked env
      · exact hnode.unchecked hunchecked v h
      · obtain ⟨a, ha, h⟩ := bind_eq_ok.1 h
        obtain ⟨b, hb, h⟩ := bind_eq_ok.1 h
        have htemplate : ∀ s, a = .text s → op ≠ .mod := by
          rintro s rfl rfl
          exact hunchecked (.template ha)
        have hsize : (Term.binary op l r).size = l.size + r.size + 1 := by
          simp [Term.size, Term.subterms]
        rw [hsize]
        exact ArithmeticOp.apply_fits hchars (hnode.checked op l r rfl) htemplate (hl hleft a ha)
          (hr hright b hb) h
  | junction op ts hts =>
      intro v h
      have hbelow := Term.forall_allSubterms.1 (List.forall_mem_cons.1 htame).2
      rcases Term.evaluateJunction_mem h with rfl | ⟨t, ht, hv⟩
      · exact Value.fits_bool
      · have hsize := (Term.subterms_sublist_all ht).length_le
        exact (hts t ht (hbelow t ht) v hv).mono (hsize.trans (Nat.le_succ _))
  | comparison t ops ts ht hts =>
      intro v h
      obtain ⟨left, -, h⟩ := bind_eq_ok.1 h
      obtain ⟨b, rfl⟩ := Term.evaluateChain_bool h
      exact Value.fits_bool
  | choice c y n hc hy hn =>
      intro v h
      obtain ⟨hboth, hno⟩ := List.forall_mem_append.1 (List.forall_mem_cons.1 htame).2
      obtain ⟨-, hyes⟩ := List.forall_mem_append.1 hboth
      have hsize : (Term.choice c y n).size = c.size + y.size + n.size + 1 := by
        simp [Term.size, Term.subterms, Nat.add_assoc]
      obtain ⟨test, -, h⟩ := bind_eq_ok.1 h
      split at h
      · exact (hy hyes v h).mono (by omega)
      · exact (hn hno v h).mono (by omega)
  | call f args hargs =>
      intro v h
      obtain ⟨hnode, hbelow⟩ := List.forall_mem_cons.1 htame
      by_cases hunchecked : f.IsUnchecked args.length
      · exact hnode.unchecked (.call hunchecked) v h
      · -- a call has the allowance of all its arguments, and joins their texts
        obtain ⟨vs, hvs, h⟩ := bind_eq_ok.1 h
        have hown := fun t ht => hargs t ht (Term.forall_allSubterms.1 hbelow t ht)
        obtain ⟨hlength, hfits, htexts⟩ := Term.evaluateAll_fits hchars hown hvs
        have hpos : vs ≠ [] → 0 < (Term.allSubterms args).length := by
          intro hne
          obtain ⟨t, ht⟩ :=
            List.exists_mem_of_length_pos (hlength ▸ List.length_pos_iff.2 hne)
          exact t.size_pos.trans_le (Term.subterms_sublist_all ht).length_le
        rw [← hlength] at hunchecked
        exact Function.apply_fits hchars hroom hpos hfits htexts hunchecked h

end Terms

/-! ## Formulas -/

section Formulas

variable {source : String} {row : Row} {labels : List String} {values : List (String × Value)}

/-- The characters of a source and of all texts of a row. -/
def totalLength (source : String) (row : Row) : Nat :=
  source.length + (row.cells.map fun cell => cell.2.length).sum

/-- The values of labels; a label that has none counts as nothing. -/
def environment (values : List (String × Value)) (label : String) : Value :=
  (values.lookup label).getD .absent

lemma evaluate_of_bind {f : Formula} (h : bind f.source row f.labels = .ok values) :
    f.evaluate row = match f.term.evaluate (environment values) with
      | .ok v => .ok v
      | .error fault => .error (.evaluation (.failed f.source fault) none) := by
  rw [evaluate, h]
  rfl

lemma readable_of_bind (h : bind source row labels = .ok values) :
    ∀ cell ∈ values, ∃ raw, row.get? cell.1 = some raw ∧
      Value.ofField raw = .ok cell.2 := by
  induction labels generalizing values with
  | nil =>
      cases h
      exact List.forall_mem_nil _
  | cons label labels ih =>
      rw [bind] at h
      split at h
      · cases h
      · next raw hraw =>
          split at h
          · cases h
          · next v hv =>
              obtain ⟨rest, hrest, h⟩ := bind_eq_ok.1 h
              cases h
              exact List.forall_mem_cons.2 ⟨⟨raw, hraw, hv⟩, ih hrest⟩

/-- What is read from a field is no larger than the field. -/
lemma ofField_fits {chars : Nat} {raw : String} {v : Value} (hraw : raw.length ≤ chars)
    (h : Value.ofField raw = .ok v) : v.Fits chars 1 := by
  cases v with
  | int i =>
      have hbits := Value.bitLength_le_maxBits (Value.natAbs_lt_of_ofField h).le
      exact Value.fits_int.2 (hbits.trans (Nat.le_succ _))
  | text s =>
      have hs : s = raw := by
        unfold Value.ofField at h
        simp only at h
        repeat' split at h
        all_goals cases h
        rfl
      rw [Value.fits_text, hs, Nat.mul_one]
      exact hraw
  | bool b => exact Value.fits_bool
  | float x => exact Value.fits_float
  | complex re im => exact Value.fits_complex
  | absent => exact Value.fits_absent

lemma length_le_totalLength {label raw : String} (h : row.get? label = some raw) :
    raw.length ≤ totalLength source row := by
  have hmem : raw.length ∈ row.cells.map fun cell => cell.2.length :=
    List.mem_map.2 ⟨(label, raw), mem_of_lookup h, rfl⟩
  exact (List.single_le_sum (fun _ _ => Nat.zero_le _) _ hmem).trans (Nat.le_add_left _ _)

lemma environment_fits (h : bind source row labels = .ok values) (label : String) :
    (environment values label).Fits (Value.maxRepetition + totalLength source row) 1 := by
  unfold environment
  cases hv : values.lookup label with
  | none => exact Value.fits_absent
  | some v =>
      obtain ⟨raw, hraw, hread⟩ := readable_of_bind h _ (mem_of_lookup hv)
      exact ofField_fits ((length_le_totalLength hraw).trans (Nat.le_add_left _ _)) hread

lemma guarded_of_compile {f : Formula} (h : compile source = .ok f) :
    f.source = source ∧ ∃ term : Term, f.term = term.guarded := by
  unfold compile at h
  simp only at h
  repeat' split at h
  all_goals cases h
  exact ⟨rfl, _, rfl⟩

/-- **No value of a formula is larger than its allowance**, if the operations without a check keep
to it: `maxBits` and one bit for each node, and for each node `maxRepetition` characters and those
of the source and the row.  So the evaluation on a row whose fields can be read ends with such a
value or with a failure of the formula. -/
theorem evaluate_within {f : Formula} (hf : compile source = .ok f)
    (hvalues : bind source row f.labels = .ok values)
    (hroom : Value.bitLength (Value.maxRepetition + totalLength source row : Nat) ≤ Value.maxBits)
    (hunchecked : ∀ t ∈ f.term.subterms, t.IsUnchecked (environment values) →
      ∀ v, t.evaluate (environment values) = .ok v →
        v.Fits (Value.maxRepetition + totalLength source row) t.size) :
    (∀ t ∈ f.term.subterms, ∀ v, t.evaluate (environment values) = .ok v →
        v.Fits (Value.maxRepetition + totalLength source row) f.term.size) ∧
      ((∃ v, f.evaluate row = .ok v ∧
          v.Fits (Value.maxRepetition + totalLength source row) f.term.size) ∨
        ∃ fault, f.evaluate row = .error (.evaluation (.failed source fault) none)) := by
  obtain ⟨hsource, term, hterm⟩ := guarded_of_compile hf
  have htame : ∀ t ∈ f.term.subterms,
      t.IsTame (Value.maxRepetition + totalLength source row) (environment values) := by
    intro t ht
    refine ⟨?_, hunchecked t ht⟩
    rintro op l r rfl
    rw [hterm] at ht
    exact Term.checked_of_guarded ht
  have hvalue : ∀ t ∈ f.term.subterms, ∀ v, t.evaluate (environment values) = .ok v →
      v.Fits (Value.maxRepetition + totalLength source row) f.term.size := by
    intro t ht v hv
    have hinside := f.term.subterms_sublist t ht
    have hfits := Term.evaluate_fits (Nat.le_add_right _ _) hroom (environment_fits hvalues) t
      (fun u hu => htame u (hinside.subset hu)) v hv
    exact hfits.mono hinside.length_le
  refine ⟨hvalue, ?_⟩
  rw [← hsource] at hvalues
  rw [evaluate_of_bind hvalues, hsource]
  cases h : f.term.evaluate (environment values) with
  | ok v => exact Or.inl ⟨v, rfl, hvalue f.term f.term.mem_subterms_self v h⟩
  | error fault => exact Or.inr ⟨fault, rfl⟩

end Formulas

/-- What three pieces cost. -/
def piecesSource : String := "$price$ * 3"

/-- The price of a piece. -/
def priceRow : Row := ⟨[("price", "14")]⟩

/-- The only operation without a check is the literal, and it is small enough. -/
theorem evaluate_within_pieces :
    ∃ f values, compile piecesSource = .ok f ∧
      bind piecesSource priceRow f.labels = .ok values ∧
      Value.bitLength (Value.maxRepetition + totalLength piecesSource priceRow : Nat) ≤
          Value.maxBits ∧
        (∀ t ∈ f.term.subterms, t.IsUnchecked (environment values) →
          ∀ v, t.evaluate (environment values) = .ok v →
            v.Fits (Value.maxRepetition + totalLength piecesSource priceRow) t.size) ∧
          ∃ v, f.evaluate priceRow = .ok v ∧
            v.Fits (Value.maxRepetition + totalLength piecesSource priceRow) 3 := by
  have hshape : (match compile piecesSource with
      | .ok ⟨_, labels, .binary .boundedMul (.field "price") (.literal (.int 3))⟩ =>
        labels == ["price"]
      | _ => false) = true := by decide +kernel
  split at hshape
  · next source labels hf =>
      obtain rfl : labels = ["price"] := by simpa using hshape
      have hvalues : bind piecesSource priceRow ["price"] = .ok [("price", .int 14)] := by
        decide +kernel
      have hroom :
          Value.bitLength (Value.maxRepetition + totalLength piecesSource priceRow : Nat) ≤
          Value.maxBits := by decide +kernel
      have hrun : (compile piecesSource >>= fun f => f.evaluate priceRow) = .ok (.int 42) := by
        decide +kernel
      have hunchecked : ∀ t
          ∈ (Term.binary .boundedMul (.field "price") (.literal (.int 3))).subterms,
          t.IsUnchecked (environment [("price", .int 14)]) →
            ∀ v, t.evaluate (environment [("price", .int 14)]) = .ok v →
              v.Fits (Value.maxRepetition + totalLength piecesSource priceRow) t.size := by
        intro t ht hnode v hv
        simp only [Term.subterms, List.cons_append, List.nil_append, List.mem_cons,
          List.not_mem_nil, or_false] at ht
        rcases ht with rfl | rfl | rfl
        · cases hnode
        · cases hnode
        · cases hv
          exact Value.fits_int.2 (by decide +kernel)
      obtain ⟨-, hend⟩ := evaluate_within hf hvalues hroom hunchecked
      rw [hf, ok_bind] at hrun
      refine ⟨_, _, hf, hvalues, hroom, hunchecked, ?_⟩
      rcases hend with hvalue | ⟨fault, hfails⟩
      · exact hvalue
      · rw [hrun] at hfails
        cases hfails
  · cases hshape

/-! ## Templates -/

/-- A number takes up at least the width that its directive asks for. -/
lemma le_length_padNumber (d : Directive) (letter : Char) (s : String) :
    d.width.getD 0 ≤ (Value.padNumber d letter s).length := by
  unfold Value.padNumber
  split
  next sign body _ =>
    -- what is missing is filled in front, behind the mark of a base or at the end
    cases d.alternate && ['o', 'x', 'X'].contains letter <;> cases d.zeros <;> cases d.left <;>
      simp <;> omega

/-- A template that begins with a directive begins with what the directive writes. -/
lemma fillRest_directive {fuel : Nat} {vs rest : List Value} {v : Value} {cs after tail : List Char}
    {d : Directive} {letter : Char} {s : String} (hcs : cs.head? ≠ some '%')
    (hread : Value.readDirective vs cs = .ok (d, v :: rest, letter, after))
    (happly : Value.applyDirective d letter v = .ok s)
    (hrest : Value.fillRest fuel rest after = .ok tail) :
    Value.fillRest (fuel + 1) vs ('%' :: cs) = .ok (s.toList ++ tail) := by
  have hplain : ('%' :: cs).takeWhile (· != '%') = [] := rfl
  have hdirective : ('%' :: cs).dropWhile (· != '%') = '%' :: cs := rfl
  rw [Value.fillRest, hplain, hdirective]
  cases cs with
  | nil => simp [hread, happly, hrest]
  | cons c cs =>
      have hc : c ≠ '%' := fun heq => hcs (congrArg some heq)
      simp [hread, happly, hrest, hc]

/-- A template of ten characters, filled to a width of ten millions. -/
lemma fill_wide : ∃ s, Value.fill "%10000000d" [.int 1] = .ok s ∧ 10000000 ≤ s.length := by
  have hread : Value.readDirective [.int 1] "10000000d".toList =
      .ok ({ width := some 10000000 }, [.int 1], 'd', []) := rfl
  have hdigits : (Value.templateDigits { width := some 10000000 } 'd' 1).toOption.isSome := by
    decide +kernel
  obtain ⟨digits, hdigits⟩ := Option.isSome_iff_exists.1 hdigits
  have happly : Value.applyDirective { width := some 10000000 } 'd' (.int 1) =
      .ok (Value.padNumber { width := some 10000000 } 'd' digits) := by
    have hint : Value.templateInt true (.int 1) = .ok 1 := rfl
    simp only [Value.applyDirective, hint, ok_bind, ok_of_toOption hdigits]
  have hwide := le_length_padNumber { width := some 10000000 } 'd' digits
  generalize Value.padNumber { width := some 10000000 } 'd' digits = padded at happly hwide
  have hfill := fillRest_directive (by decide) hread happly (rfl : Value.fillRest 10 [] [] = .ok [])
  refine ⟨String.ofList (padded.toList ++ []), ?_, ?_⟩
  · have hchars : "%10000000d".toList = '%' :: "10000000d".toList := by decide
    have hlength : "%10000000d".length = 10 := by decide
    rw [Value.fill, hchars, hlength, hfill]
    rfl
  · rw [String.length_ofList, List.append_nil, String.length_toList]
    exact hwide

/-- A row with a template. -/
def templateRow : Row := ⟨[("A", "%10000000d")]⟩

/-- **A template gives ten million characters**, more than is allowed even if every node is counted
twice, once more for its operator or for being read. -/
theorem evaluate_padded :
    ∃ f v, compile "$A$ % 1" = .ok f ∧ f.evaluate templateRow = .ok v ∧
      ¬ v.Fits (Value.maxRepetition + totalLength "$A$ % 1" templateRow) (2 * f.term.size) := by
  have hshape : (match compile "$A$ % 1" with
      | .ok ⟨_, labels, .binary .mod (.field "A") (.literal (.int 1))⟩ => labels == ["A"]
      | _ => false) = true := by decide +kernel
  split at hshape
  · next source labels hf =>
      obtain rfl : labels = ["A"] := by simpa using hshape
      obtain ⟨s, hfill, hwide⟩ := fill_wide
      have hread : Value.ofField "%10000000d" = .ok (.text "%10000000d") := by decide +kernel
      have hbind : bind source templateRow ["A"] = .ok [("A", .text "%10000000d")] := by
        simp [bind, templateRow, Row.get?, hread]
      have hvalue : (Term.binary .mod (.field "A") (.literal (.int 1))).evaluate
          (environment [("A", .text "%10000000d")]) = .ok (.text s) := by
        have henv : environment [("A", .text "%10000000d")] "A" = .text "%10000000d" := rfl
        simp only [Term.evaluate, henv, ok_bind, ArithmeticOp.apply, Value.mod, hfill]
      refine ⟨_, .text s, hf, ?_, ?_⟩
      · rw [evaluate_of_bind hbind, hvalue]
      · have hallowed : (Value.maxRepetition + totalLength "$A$ % 1" templateRow) *
            (2 * (Term.binary .mod (.field "A") (.literal (.int 1))).size) < 10000000 := by decide
        exact fun hfits => absurd (hwide.trans (Value.fits_text.1 hfits)) (Nat.not_le.2 hallowed)
  · cases hshape

end Crosswalk.Formula
