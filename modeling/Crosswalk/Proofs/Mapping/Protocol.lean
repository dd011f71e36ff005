import Crosswalk.Proofs.Mapping.Loading

/-!
# The calls that loading makes

For each record a store is asked for up to five things: both attributes, the join, and both primary
flags.  The two of a pair are asked for together, and either may be done first.  What loading does
is written down here as a plan, which says what waits for what.  Carried out call by call, the plan
is what loading records is; left to run freely, it has a run for every outcome of the calls and for
every order in which the two of a pair begin and end.  All of these runs keep to the same protocol.

* `Loading.Plan` — **what waits for what.**
* `Loading.Plan.perform` — a plan carried out by a store; `Loading.perform_plan` says that the
  plan of a list of records is `loadAll`.
* `Loading.Plan.Runs` — **the runs of a plan**: the calls that begin and end, and the outcome;
  `Loading.Plan.runs_trace` says that the calls of a plan carried out by a store are one of them.
* `Loading.Call.rank` — the order of the calls: records by their places, and for a record the
  attributes, the join and the flags.
* `Loading.Ranked` — **a run that makes its calls by rank**; `Ranked.append` and `Ranked.failed`
  take it from the stages of a record to the record, and from records to lists of them.
* **`loading_protocol`** — the protocol, read off the ranks.
-/

namespace Crosswalk

/-! ## Interleavings -/

/-- The entries of two lists in one list, those of each in their order. -/
inductive Interleaves {α : Type} : List α → List α → List α → Prop where
  | nil : Interleaves [] [] []
  | left {x : α} {xs ys zs : List α} (h : Interleaves xs ys zs) :
      Interleaves (x :: xs) ys (x :: zs)
  | right {y : α} {xs ys zs : List α} (h : Interleaves xs ys zs) :
      Interleaves xs (y :: ys) (y :: zs)

namespace Interleaves

variable {α : Type} {xs ys zs : List α}

lemma perm (h : Interleaves xs ys zs) : zs.Perm (xs ++ ys) := by
  induction h with
  | nil => exact .nil
  | left _ ih => exact ih.cons _
  | right _ ih => exact (ih.cons _).trans List.perm_middle.symm

/-- One list may come behind the other. -/
lemma append (xs ys : List α) : Interleaves xs ys (xs ++ ys) := by
  induction xs with
  | cons x xs ih => exact .left ih
  | nil =>
      induction ys with
      | nil => exact .nil
      | cons y ys ih => exact .right ih

end Interleaves

namespace Loading

/-! ## Plans -/

/-- What a store is asked for. -/
inductive Part where
  | head | tail | join | headFlag | tailFlag
  deriving DecidableEq

/-- **A call of a store**: the place of the record that it is made for, the record, and what is
asked for. -/
structure Call where
  place : Nat
  record : MappingRecord
  part : Part

/-- A call begins, or it ends with an outcome. -/
inductive Event where
  | starts (c : Call)
  | ends (c : Call) (outcome : Except Error Unit)

/-- The call of an event. -/
def Event.call : Event → Call
  | starts c => c
  | ends c _ => c

/-- **What waits for what.** -/
inductive Plan where
  /-- Nothing is left to be done. -/
  | idle
  | call (c : Call)
  /-- One behind the other, if that has succeeded. -/
  | next (first second : Plan)
  /-- Both together: neither waits for the other, and both are done. -/
  | pair (first second : Plan)
  /-- All that is done for a record; a failure names the record. -/
  | named (r : MappingRecord) (plan : Plan)

/-- The attributes of a record that are asked for. -/
def ends (r : MappingRecord) : List Part :=
  if r.head.name = r.tail.name then [.head] else [.head, .tail]

/-- What is asked for a record. -/
def parts (r : MappingRecord) : List Part := ends r ++ [.join, .headFlag, .tailFlag]

/-- **What is done for a record**: the attributes, then the join, then the flags. -/
def recordPlan (place : Nat) (r : MappingRecord) : Plan :=
  let call (p : Part) : Plan := .call ⟨place, r, p⟩
  .named r
    (.next (if r.head.name = r.tail.name then call .head else .pair (call .head) (call .tail))
      (.next (call .join) (.pair (call .headFlag) (call .tailFlag))))

/-- The records of a list one by one, the first of them at a place. -/
def planFrom (place : Nat) : List MappingRecord → Plan
  | [] => .idle
  | r :: rs => .next (recordPlan place r) (planFrom (place + 1) rs)

/-- **What is done for a list of records.** -/
def plan (records : List MappingRecord) : Plan := planFrom 0 records

/-! ## Plans carried out call by call -/

section Perform

variable {σ : Type}

/-- A call made by a store. -/
def Part.perform (store : Store σ) (r : MappingRecord) : Part → Action σ Unit
  | head => storeAttribute store r.head
  | tail => storeAttribute store r.tail
  | join => store.join r.head.name r.tail.name r.toJoining
  | headFlag => refreshPrimary store r.head.name
  | tailFlag => refreshPrimary store r.tail.name

/-- **A plan carried out by a store**, the first of a pair in front of the second. -/
def Plan.perform (store : Store σ) : Plan → Action σ Unit
  | idle => pure ()
  | call c => c.part.perform store c.record
  | next first second => do
    first.perform store
    second.perform store
  | pair first second => Action.both (first.perform store) (second.perform store)
  | named r plan => do
    Action.note .debug loaderSource
      ("Storing edge: \"" ++ r.head.name ++ "\" -> \"" ++ r.tail.name ++ "\"")
    match ← (plan.perform store).outcome with
    | .ok () => pure ()
    | .error e => Action.of (.error (.ingestion r.head.name r.tail.name e))

lemma Plan.perform_named (store : Store σ) (r : MappingRecord) (a : Plan) (s : Session σ) :
    ∃ s' : Session σ,
      s' = s.noted .debug loaderSource
        ("Storing edge: \"" ++ r.head.name ++ "\" -> \"" ++ r.tail.name ++ "\"") ∧
      (Plan.named r a).perform store s
        = ((a.perform store s').1.mapError (.ingestion r.head.name r.tail.name),
            (a.perform store s').2) := by
  refine ⟨_, rfl, ?_⟩
  let s' := s.noted .debug loaderSource
    ("Storing edge: \"" ++ r.head.name ++ "\" -> \"" ++ r.tail.name ++ "\"")
  have hrun : (a.perform store).outcome s'
      = (.ok (a.perform store s').1, (a.perform store s').2) := rfl
  rw [Plan.perform, Action.note_bind, Action.bind_of_ok hrun]
  cases (a.perform store s').1 <;> rfl

lemma perform_recordPlan (store : Store σ) (place : Nat) (r : MappingRecord) :
    (recordPlan place r).perform store = loadRecord store r := by
  have hends : Plan.perform store (if r.head.name = r.tail.name then .call ⟨place, r, .head⟩
      else .pair (.call ⟨place, r, .head⟩) (.call ⟨place, r, .tail⟩))
        = storeEnds store r := by
    rw [storeEnds]
    split <;> rfl
  rw [loadRecord, storeParts_eq, ← hends]
  rfl

/-- **The plan of a list of records is loading them.** -/
lemma perform_plan (store : Store σ) (records : List MappingRecord) :
    (plan records).perform store = loadAll store records := by
  have hfrom : ∀ place, (planFrom place records).perform store = loadAll store records := by
    induction records with
    | nil => exact fun _ => rfl
    | cons r rs ih =>
        intro place
        rw [planFrom, Plan.perform, perform_recordPlan, ih, loadAll]
  exact hfrom 0

end Perform

/-! ## Runs -/

/-- **The runs of a plan.**  A call may have any outcome, and the calls of a pair may begin and end
in any order; of two failures the first in the plan counts. -/
inductive Plan.Runs : Plan → List Event → Except Error Unit → Prop where
  | idle : Runs .idle [] (.ok ())
  | call (c : Call) (out : Except Error Unit) : Runs (.call c) [.starts c, .ends c out] out
  | next {a b : Plan} {t u : List Event} {out : Except Error Unit} (ha : Runs a t (.ok ()))
    (hb : Runs b u out) : Runs (.next a b) (t ++ u) out
  | failed {a b : Plan} {t : List Event} {e : Error} (ha : Runs a t (.error e)) :
    Runs (.next a b) t (.error e)
  | pair {a b : Plan} {t u v : List Event} {first second : Except Error Unit} (ha : Runs a t first)
    (hb : Runs b u second) (h : Interleaves t u v) :
    Runs (.pair a b) v (first.bind fun _ => second)
  | named {r : MappingRecord} {a : Plan} {t : List Event} {out : Except Error Unit}
    (ha : Runs a t out) :
    Runs (.named r a) t (out.mapError (.ingestion r.head.name r.tail.name))

/-- **The events while a plan is carried out call by call.** -/
def Plan.trace {σ : Type} (store : Store σ) : Plan → Session σ → List Event
  | idle, _ => []
  | call c, s => [.starts c, .ends c (c.part.perform store c.record s).1]
  | next first second, s =>
      first.trace store s ++
        match first.perform store s with
        | (.ok _, s') => second.trace store s'
        | (.error _, _) => []
  | pair first second, s => first.trace store s ++ second.trace store (first.perform store s).2
  | named r plan, s =>
      plan.trace store (s.noted .debug loaderSource
        ("Storing edge: \"" ++ r.head.name ++ "\" -> \"" ++ r.tail.name ++ "\""))

/-- **Carried out call by call, a plan goes through one of its runs.** -/
lemma Plan.runs_trace {σ : Type} (store : Store σ) (a : Plan) (s : Session σ) :
    a.Runs (a.trace store s) (a.perform store s).1 := by
  induction a generalizing s with
  | idle => exact .idle
  | call c => exact .call c _
  | next a b iha ihb =>
      have ha := iha s
      rw [Plan.trace, Plan.perform]
      cases hrun : a.perform store s with
      | mk out s' =>
          rw [hrun] at ha
          cases out with
          | ok x =>
              rw [Action.bind_of_ok hrun]
              exact .next ha (ihb s')
          | error e =>
              rw [Action.bind_of_error hrun, List.append_nil]
              exact .failed ha
  | pair a b iha ihb =>
      rw [Plan.trace, Plan.perform, Action.both_apply]
      exact .pair (iha s) (ihb _) (.append _ _)
  | named r a ih =>
      obtain ⟨s', hs', hrun⟩ := Plan.perform_named store r a s
      rw [hrun, Plan.trace, ← hs']
      exact .named (ih s')

/-! ## Calls by rank -/

/-- Attributes come first, then the join, then the flags. -/
def Part.phase : Part → Nat
  | head | tail => 0
  | join => 1
  | headFlag | tailFlag => 2

/-- Of two failures that of the first part counts. -/
def Part.rank : Part → Nat
  | head => 0
  | tail => 1
  | join => 2
  | headFlag => 3
  | tailFlag => 4

/-- Calls of a lower rank have to be over before a call is made. -/
def Call.rank (c : Call) : Nat := 3 * c.place + c.part.phase

/-- The calls for a record. -/
def recordCalls (place : Nat) (r : MappingRecord) : List Call := (parts r).map (Call.mk place r)

/-- The calls for the records of a list, the first of them at a place. -/
def callsFrom (place : Nat) : List MappingRecord → List Call
  | [] => []
  | r :: rs => recordCalls place r ++ callsFrom (place + 1) rs

/-- **The calls for a list of records.** -/
def calls (records : List MappingRecord) : List Call := callsFrom 0 records

/-- **A run that makes calls by their rank**: a call is made, and made once, if all calls of a lower
rank have succeeded, and behind them; the first failure counts, under the name that it is given. -/
def Ranked (name : Call → Error → Error) (cs : List Call) (t : List Event)
    (out : Except Error Unit) : Prop :=
  ∃ o : Call → Except Error Unit,
    t.Nodup ∧
    (∀ e, e ∈ t ↔ ∃ c ∈ cs, (∀ d ∈ cs, d.rank < c.rank → o d = .ok ()) ∧
      (e = .starts c ∨ e = .ends c (o c))) ∧
    (∀ front c back, t = front ++ .starts c :: back → ∀ d ∈ cs, d.rank < c.rank →
      .ends d (.ok ()) ∈ front) ∧
    out = forM cs fun c => (o c).mapError (name c)

section Ranked

variable {name : Call → Error → Error} {cs ds : List Call} {t u : List Event}
  {out : Except Error Unit} {o o' : Call → Except Error Unit} {e : Error}

lemma forM_eq_ok : (forM cs fun c => (o c).mapError (name c)) = .ok () ↔
    ∀ c ∈ cs, o c = .ok () := by
  induction cs with
  | nil => exact iff_of_true rfl (List.forall_mem_nil _)
  | cons c cs ih =>
      rw [List.forall_mem_cons, ← ih, List.forM_cons, bind_eq_ok]
      simp only [mapError_eq_ok]
      exact ⟨fun ⟨_, hc, hcs⟩ => ⟨hc, hcs⟩, fun ⟨hc, hcs⟩ => ⟨(), hc, hcs⟩⟩

lemma forM_eq_error (h : (forM cs fun c => (o c).mapError (name c)) = .error e) :
    ∃ front c back e', cs = front ++ c :: back ∧ (∀ d ∈ front, o d = .ok ()) ∧
      o c = .error e' ∧
      e = name c e' := by
  induction cs with
  | nil => cases h
  | cons c cs ih =>
      rw [List.forM_cons, bind_eq_error] at h
      cases hc : o c with
      | error e' =>
          simp only [hc, Except.mapError, Except.error.injEq, reduceCtorEq, false_and, exists_false,
            or_false] at h
          exact ⟨[], c, cs, e', rfl, List.forall_mem_nil _, hc, h.symm⟩
      | ok x =>
          simp only [hc, Except.mapError, reduceCtorEq, false_or] at h
          obtain ⟨-, -, h⟩ := h
          obtain ⟨front, d, back, e', rfl, hfront, hd, rfl⟩ := ih h
          exact ⟨c :: front, d, back, e', rfl, List.forall_mem_cons.2 ⟨hc, hfront⟩, hd, rfl⟩

lemma forM_congr (h : ∀ c ∈ cs, o c = o' c) :
    (forM cs fun c => (o c).mapError (name c)) = forM cs fun c => (o' c).mapError (name c) := by
  induction cs with
  | nil => rfl
  | cons c cs ih =>
      obtain ⟨hc, hcs⟩ := List.forall_mem_cons.1 h
      rw [List.forM_cons, List.forM_cons, hc, ih hcs]

lemma Ranked.call (c : Call) (out : Except Error Unit) :
    Ranked (fun _ => id) [c] [.starts c, .ends c out] out := by
  refine ⟨fun _ => out,
    by simp, fun e => by simp, fun front d back h => ?_, by cases out <;> rfl⟩
  intro d' hd' hrank
  rw [List.mem_singleton.1 hd'] at hrank
  -- the only call that begins has no rank below its own
  have hmem : Event.starts d ∈ [Event.starts c, Event.ends c out] := h ▸ by simp
  simp only [List.mem_cons, Event.starts.injEq, List.not_mem_nil, or_false, reduceCtorEq] at hmem
  exact absurd (hmem ▸ hrank) (lt_irrefl _)

/-- Two calls of one rank that are made together. -/
lemma Ranked.pair {c d : Call} {first second : Except Error Unit} (hne : c ≠ d)
    (hrank : c.rank = d.rank)
    (h : Interleaves [.starts c, .ends c first] [.starts d, .ends d second] t) :
    Ranked (fun _ => id) [c, d] t (first.bind fun _ => second) := by
  classical
  have hmem : ∀ e, e ∈ t ↔
      e = .starts c ∨ e = .ends c first ∨ e = .starts d ∨ e = .ends d second := by
    intro e
    rw [h.perm.mem_iff]
    simp
  have hnodup : t.Nodup := by
    rw [h.perm.nodup_iff]
    simp [hne]
  have hcalls : ∀ {x y : Call}, x ∈ [c, d] → y ∈ [c, d] → ¬ x.rank < y.rank := by
    intro x y hx hy
    simp only [List.mem_cons, List.not_mem_nil, or_false] at hx hy
    rcases hx with rfl | rfl <;> rcases hy with rfl | rfl <;> omega
  let o (x : Call) : Except Error Unit := if x = c then first else second
  have hfirst : o c = first := if_pos rfl
  have hsecond : o d = second := if_neg hne.symm
  have hlower : ∀ {x}, x ∈ [c, d] → ∀ y ∈ [c, d], y.rank < x.rank → o y = .ok () :=
    fun hx y hy hlt => absurd hlt (hcalls hy hx)
  refine ⟨o, hnodup, fun e => ?_, fun front x back heq => ?_, ?_⟩
  · rw [hmem]
    constructor
    · rintro (rfl | rfl | rfl | rfl)
      · exact ⟨c, by simp, hlower (by simp), Or.inl rfl⟩
      · exact ⟨c, by simp, hlower (by simp), Or.inr (by rw [hfirst])⟩
      · exact ⟨d, by simp, hlower (by simp), Or.inl rfl⟩
      · exact ⟨d, by simp, hlower (by simp), Or.inr (by rw [hsecond])⟩
    · rintro ⟨x, hx, -, he⟩
      simp only [List.mem_cons, List.not_mem_nil, or_false] at hx
      rcases hx with rfl | rfl
      · rw [hfirst] at he
        exact he.imp_right Or.inl
      · rw [hsecond] at he
        exact Or.inr (Or.inr he)
  · intro y hy hlt
    have hx : x ∈ [c, d] := by
      have hin : Event.starts x ∈ t := heq ▸ by simp
      rw [hmem] at hin
      simpa using hin
    exact absurd hlt (hcalls hy hx)
  · rw [List.forM_cons, List.forM_cons, List.forM_nil, hfirst, hsecond]
    cases first <;> cases second <;> rfl

/-- Failures named after the record that all calls are made for. -/
lemma Ranked.named {r : MappingRecord} (name : MappingRecord → Error → Error)
    (h : Ranked (fun _ => id) cs t out) (hr : ∀ c ∈ cs, c.record = r) :
    Ranked (fun c => name c.record) cs t (out.mapError (name r)) := by
  obtain ⟨o, hnodup, hevents, horder, rfl⟩ := h
  refine ⟨o, hnodup, hevents, horder, ?_⟩
  clear hnodup hevents horder
  induction cs with
  | nil => rfl
  | cons c cs ih =>
      obtain ⟨rfl, hcs⟩ := List.forall_mem_cons.1 hr
      rw [List.forM_cons, List.forM_cons, ← ih hcs]
      cases o c <;> rfl

/-- What is over in the first part of a run, all calls of which have succeeded. -/
lemma ends_mem
    (hevents : ∀ e, e ∈ t ↔ ∃ c ∈ cs, (∀ d ∈ cs, d.rank < c.rank → o d = .ok ()) ∧
      (e = .starts c ∨ e = .ends c (o c)))
    (hok : ∀ c ∈ cs, o c = .ok ()) {c : Call} (hc : c ∈ cs) :
    .ends c (.ok ()) ∈ t :=
  (hevents _).2 ⟨c, hc, fun d hd _ => hok d hd, Or.inr (by rw [hok c hc])⟩

/-- Calls of higher ranks are made behind calls that have all succeeded. -/
lemma Ranked.append (ht : Ranked name cs t (.ok ())) (hu : Ranked name ds u out)
    (hrank : ∀ c ∈ cs, ∀ d ∈ ds, c.rank < d.rank) :
    Ranked name (cs ++ ds) (t ++ u) out := by
  classical
  obtain ⟨o, hnodup, hevents, horder, hout⟩ := ht
  obtain ⟨o', hnodup', hevents', horder', rfl⟩ := hu
  have hok := forM_eq_ok.1 hout.symm
  let both (c : Call) : Except Error Unit := if c ∈ cs then o c else o' c
  have hleft : ∀ c ∈ cs, both c = .ok () := fun c hc => (if_pos hc).trans (hok c hc)
  have hright : ∀ d ∈ ds, both d = o' d :=
    fun d hd => if_neg fun hmem => lt_irrefl _ (hrank d hmem d hd)
  refine ⟨both, hnodup.append hnodup' fun e he he' => ?_, fun e => ?_,
    fun front c back heq d hd hlt => ?_, ?_⟩
  · -- an event of both runs would be one of two calls of different ranks
    obtain ⟨c, hc, -, he⟩ := (hevents e).1 he
    obtain ⟨d, hd, -, he'⟩ := (hevents' e).1 he'
    have hsame : c = d := by
      rcases he with rfl | rfl <;> rcases he' with h | h <;>
        simp only [Event.starts.injEq, Event.ends.injEq, reduceCtorEq] at h
      · exact h
      · exact h.1
    exact absurd (hrank c hc d hd) (hsame ▸ lt_irrefl _)
  · rw [List.mem_append, hevents, hevents']
    constructor
    · rintro (⟨c, hc, -, he⟩ | ⟨d, hd, hlower, he⟩)
      · refine ⟨c, List.mem_append_left _ hc, fun x hx hlt => ?_, ?_⟩
        · rcases List.mem_append.1 hx with hx | hx
          · exact hleft x hx
          · exact absurd (hrank c hc x hx) (lt_asymm hlt)
        · rwa [hleft c hc, ← hok c hc]
      · refine ⟨d, List.mem_append_right _ hd, fun x hx hlt => ?_, ?_⟩
        · rcases List.mem_append.1 hx with hx | hx
          · exact hleft x hx
          · rw [hright x hx]
            exact hlower x hx hlt
        · rwa [hright d hd]
    · rintro ⟨c, hc, hlower, he⟩
      rcases List.mem_append.1 hc with hc | hc
      · refine Or.inl ⟨c, hc, fun x hx _ => hok x hx, ?_⟩
        rwa [hok c hc, ← hleft c hc]
      · refine Or.inr ⟨c, hc, fun x hx hlt => ?_, ?_⟩
        · rw [← hright x hx]
          exact hlower x (List.mem_append_right _ hx) hlt
        · rwa [← hright c hc]
  · rcases append_eq_append_cons heq with ⟨more, rfl, hmore⟩ | ⟨more, rfl, -⟩
    · rcases List.mem_append.1 hd with hd | hd
      · exact List.mem_append_left _ (ends_mem hevents hok hd)
      · exact List.mem_append_right _ (horder' more c back hmore d hd hlt)
    · rcases List.mem_append.1 hd with hd | hd
      · exact horder front c more rfl d hd hlt
      · -- a call of the second part has no rank below one that begins in the first
        obtain ⟨c', hc', -, he⟩ := (hevents (.starts c)).1 (by simp)
        have hsame : c = c' := by simpa using he
        exact absurd (hrank c (hsame ▸ hc') d hd) (lt_asymm hlt)
  · rw [List.forM_append, forM_eq_ok.2 hleft, forM_congr hright]
    rfl

/-- Behind calls of which one has failed none of higher ranks is made. -/
lemma Ranked.failed (ht : Ranked name cs t (.error e))
    (hrank : ∀ c ∈ cs, ∀ d ∈ ds, c.rank < d.rank) :
    Ranked name (cs ++ ds) t (.error e) := by
  obtain ⟨o, hnodup, hevents, horder, hout⟩ := ht
  obtain ⟨front, c, back, e', rfl, -, hc, -⟩ := forM_eq_error hout.symm
  refine ⟨o, hnodup, fun x => ?_, fun front' d back' heq d' hd' hlt => ?_, ?_⟩
  · rw [hevents]
    constructor
    · rintro ⟨d, hd, hlower, hx⟩
      refine ⟨d, List.mem_append_left _ hd, fun y hy hlt => ?_, hx⟩
      rcases List.mem_append.1 hy with hy | hy
      · exact hlower y hy hlt
      · exact absurd (hrank d hd y hy) (lt_asymm hlt)
    · rintro ⟨d, hd, hlower, hx⟩
      rcases List.mem_append.1 hd with hd | hd
      · exact ⟨d, hd, fun y hy => hlower y (List.mem_append_left _ hy), hx⟩
      · have hmem : c ∈ front ++ c :: back := by simp
        have hcok := hlower c (List.mem_append_left _ hmem) (hrank c hmem d hd)
        rw [hc] at hcok
        cases hcok
  · rcases List.mem_append.1 hd' with hd' | hd'
    · exact horder front' d back' heq d' hd' hlt
    · obtain ⟨x, hx, -, he⟩ := (hevents (.starts d)).1 (heq ▸ by simp)
      have hsame : d = x := by simpa using he
      exact absurd (hrank d (hsame ▸ hx) d' hd') (lt_asymm hlt)
  · rw [List.forM_append, ← hout]
    rfl

end Ranked

/-! ## The runs of the plan of a list -/

section Lists

variable {place : Nat} {r : MappingRecord} {records : List MappingRecord} {t : List Event}
  {out : Except Error Unit} {c : Call}

/-- The error for a call that has failed: it names the record that the call was made for. -/
def Call.named (c : Call) (e : Error) : Error := .ingestion c.record.head.name c.record.tail.name e

lemma mem_recordCalls : c ∈ recordCalls place r ↔
    c.place = place ∧ c.record = r ∧ c.part ∈ parts r := by
  rw [recordCalls, List.mem_map]
  constructor
  · rintro ⟨p, hp, rfl⟩
    exact ⟨rfl, rfl, hp⟩
  · rintro ⟨rfl, rfl, hp⟩
    exact ⟨c.part, hp, rfl⟩

lemma place_of_mem_callsFrom (h : c ∈ callsFrom place records) : place ≤ c.place := by
  induction records generalizing place with
  | nil => cases h
  | cons r rs ih =>
      rcases List.mem_append.1 h with h | h
      · exact (mem_recordCalls.1 h).1.ge
      · exact (Nat.le_succ place).trans (ih h)

lemma Part.phase_le (p : Part) : p.phase ≤ 2 := by
  cases p <;> decide

/-- The calls for a record are ranked below those for the records behind it. -/
lemma rank_lt_of_mem {d : Call} (hc : c ∈ recordCalls place r)
    (hd : d ∈ callsFrom (place + 1) records) :
    c.rank < d.rank := by
  have hplace := (mem_recordCalls.1 hc).1
  have hbehind := place_of_mem_callsFrom hd
  have hphase := c.part.phase_le
  simp only [Call.rank]
  omega

/-- Calls made one behind the other, the second ranked above the first. -/
lemma Ranked.next {name : Call → Error → Error} {a b : Plan} {cs ds : List Call}
    (h : (Plan.next a b).Runs t out) (ha : ∀ {t out}, a.Runs t out → Ranked name cs t out)
    (hb : ∀ {t out}, b.Runs t out → Ranked name ds t out)
    (hrank : ∀ c ∈ cs, ∀ d ∈ ds, c.rank < d.rank) : Ranked name (cs ++ ds) t out := by
  cases h with
  | next h h' => exact (ha h).append (hb h') hrank
  | failed h => exact (ha h).failed hrank

lemma Ranked.of_call (h : (Plan.call c).Runs t out) : Ranked (fun _ => id) [c] t out := by
  cases h with
  | call => exact .call c out

lemma Ranked.of_pair {d : Call} (h : (Plan.pair (.call c) (.call d)).Runs t out) (hne : c ≠ d)
    (hrank : c.rank = d.rank) : Ranked (fun _ => id) [c, d] t out := by
  cases h with
  | pair hc hd hmerge =>
      cases hc
      cases hd
      exact .pair hne hrank hmerge

/-- **What is done for a record is done by rank.** -/
lemma Ranked.recordPlan (h : (recordPlan place r).Runs t out) :
    Ranked Call.named (recordCalls place r) t out := by
  let call (p : Part) : Call := ⟨place, r, p⟩
  have hflags : ∀ {t out},
      (Plan.pair (.call (call .headFlag)) (.call (call .tailFlag))).Runs t out →
      Ranked (fun _ => id) [call .headFlag, call .tailFlag] t out :=
    fun h => .of_pair h (by simp [call]) rfl
  have hjoin : ∀ {t out}, (Plan.next (.call (call .join))
      (.pair (.call (call .headFlag)) (.call (call .tailFlag)))).Runs t out →
      Ranked (fun _ => id) [call .join, call .headFlag, call .tailFlag] t out :=
    fun h => .next h .of_call hflags (by simp [call, Call.rank, Part.phase])
  have hends : ∀ {t out}, (if r.head.name = r.tail.name then Plan.call (call .head)
      else .pair (.call (call .head)) (.call (call .tail))).Runs t out →
      Ranked (fun _ => id) ((ends r).map call) t out := by
    intro t out h
    rw [ends]
    split at h
    case isTrue hsame =>
      rw [if_pos hsame]
      exact .of_call h
    case isFalse hother =>
      rw [if_neg hother]
      exact .of_pair h (by simp [call]) rfl
  cases h with
  | named h =>
      refine .named (fun r => .ingestion r.head.name r.tail.name) ?_
        fun c hc => (mem_recordCalls.1 hc).2.1
      rw [recordCalls, parts, List.map_append]
      refine .next h hends hjoin fun c hc d hd => ?_
      have hlow : c.place = place ∧ c.part.phase = 0 := by
        obtain ⟨p, hp, rfl⟩ := List.mem_map.1 hc
        refine ⟨rfl, ?_⟩
        rw [ends] at hp
        split at hp <;> simp only [List.mem_cons, List.not_mem_nil, or_false] at hp
        · rw [hp]
          rfl
        · rcases hp with rfl | rfl <;> rfl
      have hhigh : d.place = place ∧ 0 < d.part.phase := by
        simp only [List.map_cons, List.map_nil, List.mem_cons, List.not_mem_nil, or_false] at hd
        rcases hd with rfl | rfl | rfl <;> exact ⟨rfl, Nat.zero_lt_succ _⟩
      simp only [Call.rank]
      omega

/-- **What is done for a list of records is done by rank.** -/
lemma Ranked.planFrom (h : (planFrom place records).Runs t out) :
    Ranked Call.named (callsFrom place records) t out := by
  induction records generalizing place t out with
  | nil =>
      cases h
      exact ⟨fun _ => .ok (), .nil, by simp [callsFrom], by simp, rfl⟩
  | cons r rs ih => exact .next h .recordPlan ih fun c hc d hd => rank_lt_of_mem hc hd

end Lists

/-! ## The protocol -/

/-- **The protocol of loading records**, for the events of a run and its outcome. -/
structure Protocol (records : List MappingRecord) (t : List Event) (out : Except Error Unit) :
    Prop where
  /-- Each call is made at most once, for one of the records. -/
  once : t.Nodup ∧ ∀ e ∈ t, e.call ∈ calls records
  /-- A call that ends has begun. -/
  begun : ∀ c o, .ends c o ∈ t → .starts c ∈ t
  /-- No call begins before all calls for the records in front, and those for the same record of an
  earlier phase, have succeeded. -/
  inOrder : ∀ front c back, t = front ++ .starts c :: back → ∀ d ∈ calls records,
    d.place < c.place ∨ d.place = c.place ∧ d.part.phase < c.part.phase →
      .ends d (.ok ()) ∈ front
  /-- If a call has begun, then all calls of the phase are made, whatever comes of them. -/
  together : ∀ c, .starts c ∈ t → ∀ d ∈ calls records, d.place = c.place →
    d.part.phase = c.part.phase → .starts d ∈ t ∧ ∃ o, .ends d o ∈ t
  /-- If calls have failed, then all of them for the last record that a call was made for; the error
  names its attributes, and has the cause of the failure that comes first by the parts. -/
  stopped : ∀ d e, .ends d (.error e) ∈ t → ∃ c cause, .ends c (.error cause) ∈ t ∧
    out = .error (.ingestion c.record.head.name c.record.tail.name cause) ∧
    (∀ b, .starts b ∈ t → b.place ≤ c.place) ∧
    ∀ b e', .ends b (.error e') ∈ t → b.place = c.place ∧ c.part.rank ≤ b.part.rank ∧
      (b.part = c.part → e' = cause)
  /-- Otherwise all calls are made. -/
  done : (∀ d e, .ends d (.error e) ∉ t) →
    out = .ok () ∧ ∀ c ∈ calls records, .ends c (.ok ()) ∈ t

section Protocol

variable {place : Nat} {records : List MappingRecord} {t : List Event} {out : Except Error Unit}

/-- The calls are listed by their places, and for one record by their parts. -/
lemma pairwise_callsFrom : (callsFrom place records).Pairwise fun c d =>
    c.place < d.place ∨
      c.place = d.place ∧ c.record = d.record ∧ c.part.rank < d.part.rank := by
  induction records generalizing place with
  | nil => exact .nil
  | cons r rs ih =>
      refine List.pairwise_append.2 ⟨?_, ih, fun c hc d hd => Or.inl ?_⟩
      · rw [recordCalls, List.pairwise_map]
        refine List.Pairwise.imp (fun h => Or.inr ⟨rfl, rfl, h⟩) ?_
        rw [parts, ends]
        split <;> simp [Part.rank]
      · have hplace := (mem_recordCalls.1 hc).1
        have hbehind := place_of_mem_callsFrom hd
        omega

lemma Part.phase_le_phase {p q : Part} (h : p.rank ≤ q.rank) : p.phase ≤ q.phase := by
  revert h
  cases p <;> cases q <;> decide

lemma lt_rank_iff {c d : Call} : d.rank < c.rank ↔
    d.place < c.place ∨ d.place = c.place ∧ d.part.phase < c.part.phase := by
  have hc := c.part.phase_le
  have hd := d.part.phase_le
  simp only [Call.rank]
  omega

/-- Of the calls that fail the first is made, and counts. -/
lemma first_failure {o : Call → Except Error Unit} {e : Error}
    (h : (forM (calls records) fun c => (o c).mapError c.named) = .error e) :
    ∃ c ∈ calls records, ∃ cause, o c = .error cause ∧ e = c.named cause ∧
      (∀ d ∈ calls records, d.rank < c.rank → o d = .ok ()) ∧
      ∀ d ∈ calls records, o d ≠ .ok () →
        d = c ∨ c.place < d.place ∨ c.place = d.place ∧ c.part.rank < d.part.rank := by
  obtain ⟨front, c, back, cause, hcalls, hfront, hc, rfl⟩ := forM_eq_error h
  have hpairwise : (calls records).Pairwise _ := pairwise_callsFrom
  rw [hcalls] at hpairwise
  have hback := (List.pairwise_cons.1 (List.pairwise_append.1 hpairwise).2.1).1
  have hrest : ∀ d ∈ calls records, o d ≠ .ok () →
      d = c ∨ c.place < d.place ∨ c.place = d.place ∧ c.part.rank < d.part.rank := by
    intro d hd hne
    rw [hcalls, List.mem_append, List.mem_cons] at hd
    rcases hd.resolve_left fun hd => hne (hfront d hd) with hd | hd
    · exact Or.inl hd
    · exact Or.inr ((hback d hd).imp_right fun h => ⟨h.1, h.2.2⟩)
  refine ⟨c, hcalls ▸ by simp, cause, hc, rfl, fun d hd hlt => by_contra fun hne => ?_, hrest⟩
  rw [lt_rank_iff] at hlt
  rcases hrest d hd hne with rfl | hplace | ⟨hplace, hrank⟩
  · omega
  · omega
  · have := Part.phase_le_phase hrank.le
    omega

/-- **What is done by rank keeps to the protocol.** -/
lemma Ranked.protocol (h : Ranked Call.named (calls records) t out) : Protocol records t out := by
  obtain ⟨o, hnodup, hevents, horder, hout⟩ := h
  have hstarts : ∀ {c}, .starts c ∈ t ↔
      c ∈ calls records ∧ ∀ d ∈ calls records, d.rank < c.rank → o d = .ok () := by
    intro c
    rw [hevents]
    constructor
    · rintro ⟨d, hd, hlower, he⟩
      obtain rfl : c = d := by simpa using he
      exact ⟨hd, hlower⟩
    · rintro ⟨hc, hlower⟩
      exact ⟨c, hc, hlower, Or.inl rfl⟩
  have hends : ∀ {c out}, .ends c out ∈ t ↔ .starts c ∈ t ∧ out = o c := by
    intro c out
    rw [hstarts, hevents]
    constructor
    · rintro ⟨d, hd, hlower, he⟩
      obtain ⟨rfl, rfl⟩ : c = d ∧ out = o d := by simpa using he
      exact ⟨⟨hd, hlower⟩, rfl⟩
    · rintro ⟨⟨hc, hlower⟩, rfl⟩
      exact ⟨c, hc, hlower, Or.inr rfl⟩
  constructor
  case once =>
    refine ⟨hnodup, fun e he => ?_⟩
    obtain ⟨c, hc, -, rfl | rfl⟩ := (hevents e).1 he <;> exact hc
  case begun => exact fun c o hc => (hends.1 hc).1
  case inOrder =>
    intro front c back heq d hd hlt
    exact horder front c back heq d hd (lt_rank_iff.2 hlt)
  case together =>
    intro c hc d hd hplace hphase
    have hd' : .starts d ∈ t := by
      refine hstarts.2 ⟨hd, fun b hb hlt => (hstarts.1 hc).2 b hb ?_⟩
      simpa only [Call.rank, hplace, hphase] using hlt
    exact ⟨hd', _, hends.2 ⟨hd', rfl⟩⟩
  case stopped =>
    intro d e hd
    obtain ⟨hd, hfail⟩ := hends.1 hd
    cases out with
    | ok x =>
        rw [forM_eq_ok.1 hout.symm d (hstarts.1 hd).1] at hfail
        cases hfail
    | error e =>
        obtain ⟨c, hmem, cause, hc, rfl, hlower, hrest⟩ := first_failure hout.symm
        have hlast : ∀ b, .starts b ∈ t → b.place ≤ c.place := by
          intro b hb
          by_contra hplace
          have hok := (hstarts.1 hb).2 c hmem (lt_rank_iff.2 (Or.inl (not_le.1 hplace)))
          rw [hc] at hok
          cases hok
        refine ⟨c, cause, hends.2 ⟨hstarts.2 ⟨hmem, hlower⟩, hc.symm⟩, rfl, hlast,
          fun b e' hb => ?_⟩
        obtain ⟨hb, hfail⟩ := hends.1 hb
        have hplace := hlast b hb
        rcases hrest b (hstarts.1 hb).1 (by simp [← hfail]) with rfl | hlt | ⟨hsame, hrank⟩
        · exact ⟨rfl, le_rfl, fun _ => by simpa [hc] using hfail⟩
        · omega
        · exact ⟨hsame.symm, hrank.le, fun hpart => absurd (hpart ▸ hrank) (lt_irrefl _)⟩
  case done =>
    intro hnone
    cases out with
    | ok x =>
        have hok := forM_eq_ok.1 hout.symm
        exact ⟨rfl,
          fun c hc => hends.2 ⟨hstarts.2 ⟨hc, fun d hd _ => hok d hd⟩, (hok c hc).symm⟩⟩
    | error e =>
        obtain ⟨c, hmem, cause, hc, -, hlower, -⟩ := first_failure hout.symm
        exact absurd (hends.2 ⟨hstarts.2 ⟨hmem, hlower⟩, hc.symm⟩) (hnone c cause)

end Protocol

end Loading

open Loading

/-- **All runs of loading keep to the protocol**, whatever the calls lead to and in whichever order
the two of a pair begin and end; and what loading does, call by call, is one of these runs, the
failure of which is that of the whole load. -/
theorem loading_protocol (records : List MappingRecord) :
    (∀ {σ : Type} (store : Store σ) (s : Session σ),
      (plan records).perform store s = loadAll store records s ∧
      (plan records).Runs ((plan records).trace store s) (loadAll store records s).1 ∧
      ∀ e, (loadAll store records s).1 = .error e →
        (load store records false s).1 = .error e) ∧
    ∀ t out, (plan records).Runs t out → Protocol records t out := by
  refine ⟨fun store s => ⟨by rw [perform_plan], ?_, fun e h => ?_⟩, fun t out h => ?_⟩
  · rw [← perform_plan]
    exact Plan.runs_trace store (plan records) s
  · have hload : load store records false = loadDelivery store (.ofList records) := rfl
    have hall : loadAll store records s = (.error e, (loadAll store records s).2) :=
      Prod.ext h rfl
    rw [hload, loadDelivery, MappingDocument.Delivery.ofList]
    exact congrArg Prod.fst (Action.bind_of_error hall)
  · exact (Ranked.planFrom h).protocol

/-- Both attributes of a record are refused, the tail first; the error has the cause of the head. -/
theorem loading_protocol_tail_first :
    let r : MappingRecord :=
      ⟨⟨"shops", "", "1", "2"⟩, { name := "shop" }, { name := "city" }⟩
    let head : Call := ⟨0, r, .head⟩
    let tail : Call := ⟨0, r, .tail⟩
    let refused (name : String) : Error := .refusedCall "upsert" name
    let t : List Event := [.starts head, .starts tail, .ends tail (.error (refused "city")),
      .ends head (.error (refused "shop"))]
    let out : Except Error Unit := .error (.ingestion "shop" "city" (refused "shop"))
    (plan [r]).Runs t out ∧ Protocol [r] t out := by
  intro r head tail refused t out
  have hruns : (plan [r]).Runs t out :=
    .failed (.named (.failed (.pair (.call head _) (.call tail _)
      (.left (.right (.right (.left .nil)))))))
  exact ⟨hruns, (loading_protocol [r]).2 t out hruns⟩

end Crosswalk
