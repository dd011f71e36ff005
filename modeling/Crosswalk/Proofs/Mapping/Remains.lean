import Crosswalk.Proofs.Mapping.Protocol
import Crosswalk.Proofs.Mapping.Retry

/-!
# What a record that fails leaves behind

Loading a record undoes nothing.  If one of its calls fails, then the calls that have succeeded keep
their effect: the graph is the one before the record with the changes of just these calls.  Records
that were in the graph stay there.

* `Loading.Call.change` — what the store in memory makes of a call.
* `Loading.Effects` — **what events do to a store some calls of which fail**: only calls that
  succeed change it.  `Loading.Plan.effects` has this of a plan that is carried out, and
  `Effects.keeps` is the induction on events.
* **`loadRecord_stopped`** — what a record leaves behind.
* `loadRecord_not_undone` — a join that is refused leaves both attributes in the graph.
-/

namespace Crosswalk

namespace Loading

/-! ## What calls do -/

/-- What the store in memory makes of a call. -/
def Call.change (c : Call) (m : MemoryStore) : Except Error MemoryStore :=
  let r := c.record
  match c.part with
  | .head => .ok (m.upsert r.head.name r.head.description).2
  | .tail => .ok (m.upsert r.tail.name r.tail.description).2
  | .join => m.join r.head.name r.tail.name r.toJoining
  | .headFlag => (m.recomputePrimary r.head.name).map Prod.snd
  | .tailFlag => (m.recomputePrimary r.tail.name).map Prod.snd

/-- **What events do to a store some calls of which fail.**  A call that is refused has no effect,
and one that the store cannot make has none. -/
inductive Effects (fails : Nat → Option Error) :
    Counted MemoryStore → List Event → Counted MemoryStore → Prop where
  | nil {m : Counted MemoryStore} : Effects fails m [] m
  | starts {c : Call} {m m' : Counted MemoryStore} {t : List Event} (h : Effects fails m t m') :
    Effects fails m (.starts c :: t) m'
  | refused {c : Call} {m m' : Counted MemoryStore} {t : List Event} {e : Error}
    (hcall : fails m.calls = some e) (h : Effects fails ⟨m.store, m.calls + 1⟩ t m') :
    Effects fails m (.ends c (.error e) :: t) m'
  | failed {c : Call} {m m' : Counted MemoryStore} {t : List Event} {e : Error}
    (hcall : fails m.calls = none) (hc : c.change m.store = .error e)
    (h : Effects fails ⟨m.store, m.calls + 1⟩ t m') :
    Effects fails m (.ends c (.error e) :: t) m'
  | made {c : Call} {m m' : Counted MemoryStore} {t : List Event} {k : MemoryStore}
    (hcall : fails m.calls = none) (hc : c.change m.store = .ok k)
    (h : Effects fails ⟨k, m.calls + 1⟩ t m') : Effects fails m (.ends c (.ok ()) :: t) m'

namespace Effects

variable {fails : Nat → Option Error} {m m' m'' : Counted MemoryStore} {t u : List Event}

lemma append (ht : Effects fails m t m') (hu : Effects fails m' u m'') :
    Effects fails m (t ++ u) m'' := by
  induction ht with
  | nil => exact hu
  | starts _ ih => exact .starts (ih hu)
  | refused hcall _ ih => exact .refused hcall (ih hu)
  | failed hcall hc _ ih => exact .failed hcall hc (ih hu)
  | made hcall hc _ ih => exact .made hcall hc (ih hu)

/-- What the calls that succeed keep is kept. -/
lemma keeps {P : MemoryStore → Prop} (h : Effects fails m t m')
    (hstep : ∀ c k k', .ends c (.ok ()) ∈ t → c.change k = .ok k' → P k → P k') (hm : P m.store) :
    P m'.store := by
  induction h with
  | nil => exact hm
  | starts _ ih => exact ih (fun c k k' hc => hstep c k k' (List.mem_cons_of_mem _ hc)) hm
  | refused _ _ ih => exact ih (fun c k k' hc => hstep c k k' (List.mem_cons_of_mem _ hc)) hm
  | failed _ _ _ ih => exact ih (fun c k k' hc => hstep c k k' (List.mem_cons_of_mem _ hc)) hm
  | made _ hk _ ih =>
      exact ih (fun c k k' hc => hstep c k k' (List.mem_cons_of_mem _ hc))
        (hstep _ _ _ List.mem_cons_self hk hm)

end Effects

section Perform

variable {α β : Type} {fails : Nat → Option Error} {s : Session (Counted MemoryStore)}
  {c : Call}

/-- A change of the store in memory as a call that may be refused. -/
lemma effects_guarded {f : MemoryStore → Except Error (α × MemoryStore)}
    (hf : ∀ m, c.change m = (f m).map Prod.snd) {a : Action (Counted MemoryStore) Unit}
    (ha : ∀ out s', (MemoryStore.change f).guarded fails s = (out, s') →
      (a s).1 = out.map (fun _ => ()) ∧ (a s).2.store = s'.store) :
    Effects fails s.store [.starts c, .ends c (a s).1] (a s).2.store := by
  let s₁ : Session (Counted MemoryStore) := s.map fun m => ⟨m.store, m.calls + 1⟩
  cases hcall : fails s.store.calls with
  | some e =>
      have hrun : (MemoryStore.change f).guarded fails s = (.error e, s₁) := by
        rw [Action.guarded, hcall]
      obtain ⟨hout, hstore⟩ := ha _ _ hrun
      rw [hout, hstore]
      exact .starts (.refused hcall .nil)
  | none =>
      have hrun : (MemoryStore.change f).guarded fails s = (MemoryStore.change f).counted s₁ := by
        rw [Action.guarded, hcall]
      cases hchange : f s.store.store with
      | error e =>
          obtain ⟨hout, hstore⟩ := ha (.error e) s₁ (by
            rw [hrun, Action.counted,
              MemoryStore.change_of_error (s := s₁.map Counted.store) hchange]
            rfl)
          rw [hout, hstore]
          exact .starts (.failed hcall (by rw [hf, hchange]; rfl) .nil)
      | ok p =>
          obtain ⟨hout, hstore⟩ := ha (.ok p.1) ⟨⟨p.2, s.store.calls + 1⟩, s.files, s.log⟩ (by
            rw [hrun, Action.counted,
              MemoryStore.change_of_ok (s := s₁.map Counted.store) hchange]
            rfl)
          rw [hout, hstore]
          exact .starts (.made hcall (by rw [hf, hchange]; rfl) .nil)

/-- An action behind a call that only writes to the log. -/
lemma note_behind {σ : Type} {a : Action σ α} {f : α → Action σ Unit} {s s' : Session σ}
    {out : Except Error α} (ha : a s = (out, s'))
    (hf : ∀ x s', (f x s').1 = .ok () ∧ (f x s').2.store = s'.store) :
    ((a >>= f) s).1 = out.map (fun _ => ()) ∧ ((a >>= f) s).2.store = s'.store := by
  cases out with
  | ok x =>
      rw [Action.bind_of_ok ha]
      exact hf x s'
  | error e =>
      rw [Action.bind_of_error ha]
      exact ⟨rfl, rfl⟩

/-- A call is made by the store, or refused. -/
lemma Call.effects (fails : Nat → Option Error) (c : Call) (s : Session (Counted MemoryStore)) :
    let out := c.part.perform (memoryStore.disturbed fails) c.record s
    Effects fails s.store [.starts c, .ends c out.1] out.2.store := by
  obtain ⟨place, r, part⟩ := c
  have hflag : ∀ name,
      (∀ m, Call.change ⟨place, r, part⟩ m = (m.recomputePrimary name).map Prod.snd) →
      let out := refreshPrimary (memoryStore.disturbed fails) name s
      Effects fails s.store
        [.starts ⟨place, r, part⟩, .ends ⟨place, r, part⟩ out.1] out.2.store :=
    fun name hchange => effects_guarded hchange fun out s' hrun =>
      note_behind hrun fun _ _ => ⟨rfl, rfl⟩
  have hattribute : ∀ a : Attribute,
      (∀ m, Call.change ⟨place, r, part⟩ m = .ok (m.upsert a.name a.description).2) →
      let out := storeAttribute (memoryStore.disturbed fails) a s
      Effects fails s.store
        [.starts ⟨place, r, part⟩, .ends ⟨place, r, part⟩ out.1] out.2.store :=
    fun a hchange => effects_guarded (f := fun m => .ok (m.upsert a.name a.description)) hchange
      fun out s' hrun => note_behind hrun fun isNew _ => by cases isNew <;> exact ⟨rfl, rfl⟩
  cases part with
  | head => exact hattribute r.head fun _ => rfl
  | tail => exact hattribute r.tail fun _ => rfl
  | join =>
      refine effects_guarded
        (f := fun m => (m.join r.head.name r.tail.name r.toJoining).map fun m => ((), m))
        (fun m => ?_) fun out s' hrun => ?_
      · rw [Call.change]
        cases m.join r.head.name r.tail.name r.toJoining <;> rfl
      · have hout : Part.perform (memoryStore.disturbed fails) r .join s = (out, s') := hrun
        rw [hout]
        cases out <;> exact ⟨rfl, rfl⟩
  | headFlag => exact hflag r.head.name fun _ => rfl
  | tailFlag => exact hflag r.tail.name fun _ => rfl

end Perform

/-- **A plan that is carried out changes the store by its events.** -/
lemma Plan.effects (fails : Nat → Option Error) (a : Plan) (s : Session (Counted MemoryStore)) :
    Effects fails s.store (a.trace (memoryStore.disturbed fails) s)
      (a.perform (memoryStore.disturbed fails) s).2.store := by
  induction a generalizing s with
  | idle => exact .nil
  | call c => exact c.effects fails s
  | next a b iha ihb =>
      have ha := iha s
      rw [Plan.trace, Plan.perform]
      cases hrun : a.perform (memoryStore.disturbed fails) s with
      | mk out s' =>
          rw [hrun] at ha
          cases out with
          | ok x =>
              rw [Action.bind_of_ok hrun]
              exact ha.append (ihb s')
          | error e =>
              rw [Action.bind_of_error hrun, List.append_nil]
              exact ha
  | pair a b iha ihb =>
      rw [Plan.trace, Plan.perform, Action.both_apply]
      exact (iha s).append (ihb _)
  | named r a ih =>
      obtain ⟨s', hs', hrun⟩ := Plan.perform_named (memoryStore.disturbed fails) r a s
      have hstore : s.store = s'.store := by rw [hs', Session.store_noted]
      rw [hrun, Plan.trace, ← hs', hstore]
      exact ih s'

/-! ## What is left -/

section Left

variable {fails : Nat → Option Error} {r q : MappingRecord} {t : List Event}
  {out : Except Error Unit}
  {m m' : MemoryStore} {c : Call}

lemma Part.join_phase_lt {p : Part} (h : p.phase ≠ 0) (hother : p ≠ .join) :
    Part.join.phase < p.phase := by
  revert h hother
  cases p <;> decide

/-- Records that are there stay there. -/
lemma Call.keeps_placed (h : c.change m = .ok m') (hm : m.graph.Regular ∧ m.graph.Placed q) :
    m'.graph.Regular ∧ m'.graph.Placed q := by
  obtain ⟨hg, hq⟩ := hm
  have hattribute : ∀ a : Attribute, (m.upsert a.name a.description).2 = m' →
      m'.graph.Regular ∧ m'.graph.Placed q := by
    rintro a rfl
    rw [m.upsert_eq]
    exact ⟨hg.withAttribute, hq.withAttribute⟩
  have hflag : ∀ name, (m.recomputePrimary name).map Prod.snd = .ok m' →
      m'.graph.Regular ∧ m'.graph.Placed q := by
    intro name h
    rw [MemoryStore.recomputePrimary_eq hg] at h
    obtain rfl := Except.ok.inj h
    exact ⟨hg.withFlag, hq.withFlag⟩
  obtain ⟨place, r, part⟩ := c
  cases part with
  | head => exact hattribute r.head (Except.ok.inj h)
  | tail => exact hattribute r.tail (Except.ok.inj h)
  | join =>
      have hjoin : m.join r.head.name r.tail.name r.toJoining = .ok m' := h
      by_cases hhead : m.hasAttribute r.head.name
      · by_cases htail : m.hasAttribute r.tail.name
        · rw [MemoryStore.join_eq hg.parallel hhead htail] at hjoin
          obtain rfl := Except.ok.inj hjoin
          exact ⟨hg.withJoin, hq.withJoin⟩
        · simp [MemoryStore.join, hhead, htail] at hjoin
      · simp [MemoryStore.join, hhead] at hjoin
  | headFlag => exact hflag r.head.name h
  | tailFlag => exact hflag r.tail.name h

/-- An attribute that is there changes nothing. -/
lemma change_of_hasNode (h : c.change m = .ok m') (hpart : c.part.phase = 0)
    (hhead : m.graph.hasNode (.text c.record.head.name))
    (htail : m.graph.hasNode (.text c.record.tail.name)) : m' = m := by
  obtain ⟨place, r, part⟩ := c
  cases part with
  | head =>
      have hup := m.upsert_eq r.head.name r.head.description
      rw [Graph.withAttribute_of_hasNode hhead, MemoryStore.withGraph_self] at hup
      rw [Call.change, hup] at h
      exact (Except.ok.inj h).symm
  | tail =>
      have hup := m.upsert_eq r.tail.name r.tail.description
      rw [Graph.withAttribute_of_hasNode htail, MemoryStore.withGraph_self] at hup
      rw [Call.change, hup] at h
      exact (Except.ok.inj h).symm
  | join => cases hpart
  | headFlag => cases hpart
  | tailFlag => cases hpart

end Left

end Loading

open Loading

/-- **What a record that fails leaves behind.**  The store has changed by the calls that have
succeeded, and by no other; which calls are made is said by the protocol.  So nothing has changed
if none has succeeded, or if both attributes were there and the join has not been made; and the
records that were there still are. -/
theorem loadRecord_stopped (fails : Nat → Option Error) (r : MappingRecord)
    {s s' : Session (Counted MemoryStore)} {e : Error}
    (h : loadRecord (memoryStore.disturbed fails) r s = (.error e, s')) :
    let g := s.store.store.graph
    ∃ t, Protocol [r] t (.error e) ∧ Effects fails s.store t s'.store ∧
      (∃ cause, e = .ingestion r.head.name r.tail.name cause) ∧
      ((∀ c, .ends c (.ok ()) ∉ t) → s'.store.store = s.store.store) ∧
      (g.hasNode (.text r.head.name) → g.hasNode (.text r.tail.name) →
        .ends ⟨0, r, .join⟩ (.ok ()) ∉ t → s'.store.store = s.store.store) ∧
      (g.Regular → ∀ q, g.Placed q → s'.store.store.graph.Placed q) := by
  intro g
  have hruns := Plan.runs_trace (memoryStore.disturbed fails) (recordPlan 0 r) s
  have heffects := Plan.effects fails (recordPlan 0 r) s
  rw [perform_recordPlan, h] at hruns heffects
  generalize Plan.trace (memoryStore.disturbed fails) (recordPlan 0 r) s = t at hruns heffects
  have hprotocol : Protocol [r] t (.error e) := Ranked.protocol (Ranked.planFrom (.failed hruns))
  have hcall : ∀ c out, .ends c out ∈ t →
      c.place = 0 ∧ c.record = r ∧ c.part ∈ parts r := by
    intro c out hc
    have hmem := hprotocol.once.2 _ hc
    rw [calls, callsFrom, callsFrom, List.append_nil] at hmem
    exact mem_recordCalls.1 hmem
  refine ⟨t, hprotocol, heffects, ?_, fun hnone => ?_, fun hhead htail hjoin => ?_,
    fun hg q hq => ?_⟩
  · by_contra hne
    have hnone : ∀ d e', .ends d (.error e') ∉ t := by
      intro d e' hd
      obtain ⟨c, cause, hc, hout, -⟩ := hprotocol.stopped d e' hd
      rw [(hcall c _ hc).2.1] at hout
      exact hne ⟨cause, Except.error.inj hout⟩
    exact absurd (hprotocol.done hnone).1 (by simp)
  · exact heffects.keeps (P := (· = s.store.store)) (fun c _ _ hc => absurd hc (hnone c)) rfl
  · refine heffects.keeps (P := (· = s.store.store)) (fun c k k' hc hk hsame => ?_) rfl
    obtain rfl : k = s.store.store := hsame
    obtain ⟨hplace, rfl, hpart⟩ := hcall c _ hc
    refine change_of_hasNode hk (by_contra fun hphase => hjoin ?_) hhead htail
    -- a flag is found out only behind the join
    have hjoined : c.part ≠ .join → .ends ⟨0, c.record, .join⟩ (.ok ()) ∈ t := by
      intro hother
      obtain ⟨front, back, rfl⟩ := List.append_of_mem (hprotocol.begun c _ hc)
      have hmem : Call.mk 0 c.record .join ∈ calls [c.record] :=
        List.mem_append_left _ (mem_recordCalls.2 ⟨rfl, rfl, by simp [parts]⟩)
      refine List.mem_append_left _
        (hprotocol.inOrder front c back rfl _ hmem (Or.inr ⟨hplace.symm, ?_⟩))
      exact Part.join_phase_lt hphase hother
    by_cases hpart : c.part = .join
    · rwa [← hplace, ← hpart]
    · exact hjoined hpart
  · exact (heffects.keeps (P := fun m => m.graph.Regular ∧ m.graph.Placed q)
      (fun c k k' _ hk hm => c.keeps_placed hk hm) ⟨hg, hq⟩).2

/-- A record for a graph without attributes. -/
def lonelyRecord : MappingRecord := ⟨⟨"ds", "", "0", "1"⟩, { name := "a" }, { name := "b" }⟩

/-- The join behind two attributes is refused. -/
def refusedJoin (n : Nat) : Option Error := if n = 2 then some (.refusedCall "edge" "a>b") else none

/-- Of a record the join of which is refused, both attributes are left. -/
theorem loadRecord_stopped_lonelyRecord :
    let s : Session (Counted MemoryStore) := ⟨⟨{}, 0⟩, .none, []⟩
    let out := loadRecord (memoryStore.disturbed refusedJoin) lonelyRecord s
    out.1 = .error (.ingestion "a" "b" (.refusedCall "edge" "a>b")) ∧
      out.2.store.store.attributeCount = 2 ∧
      ∃ t, Protocol [lonelyRecord] t out.1 ∧ Effects refusedJoin s.store t out.2.store := by
  intro s out
  have herror : out.1 = .error (.ingestion "a" "b" (.refusedCall "edge" "a>b")) := by decide +kernel
  have hrun : loadRecord (memoryStore.disturbed refusedJoin) lonelyRecord s = (.error _, out.2) :=
    Prod.ext herror rfl
  obtain ⟨t, hprotocol, heffects, -⟩ := loadRecord_stopped refusedJoin lonelyRecord hrun
  exact ⟨herror, by decide +kernel, t, herror ▸ hprotocol, heffects⟩

/-- **A failure does not undo what has been done for the record.** -/
theorem loadRecord_not_undone :
    ¬ ∀ (fails : Nat → Option Error) (r : MappingRecord) (s s' : Session (Counted MemoryStore))
      (e : Error), s.store.store.graph.Regular →
      loadRecord (memoryStore.disturbed fails) r s = (.error e, s') →
      s'.store.store.graph = s.store.store.graph := by
  intro hundone
  let s : Session (Counted MemoryStore) := ⟨⟨{}, 0⟩, .none, []⟩
  let out := loadRecord (memoryStore.disturbed refusedJoin) lonelyRecord s
  have herror : out.1 = .error (.ingestion "a" "b" (.refusedCall "edge" "a>b")) := by decide +kernel
  have hgraph :=
    hundone refusedJoin lonelyRecord s out.2 _ ⟨rfl, rfl, .nil⟩ (Prod.ext herror rfl)
  have hcount : out.2.store.store.graph.nodes.length = 2 := by decide +kernel
  rw [hgraph] at hcount
  cases hcount

end Crosswalk
