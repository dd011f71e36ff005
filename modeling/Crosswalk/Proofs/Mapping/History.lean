import Crosswalk.Proofs.Mapping.Requests
import Mathlib.Data.List.DropRight

/-!
# What a store answers, by its history

A store in memory that was empty at first answers by what it was asked since it was last emptied.
An attribute is there once it was put there, under its first description.  The joins are the
different ones that were added while both of their attributes were there, in the order in which
they came.  An attribute is primary if more than one join led away from it when it was last asked
for that.

* `Request.sinceReset` — the requests behind the last one to empty the store.
* `Request.upserts`, `Request.names`, `Request.joins`, `Request.isPrimary` — **attributes, joins
  and primary flags by the requests.**
* `Ledger.attributes_ofRequests`, `Ledger.joins_ofRequests` — the ledger of the requests holds
  these.
* **`answers_performAll`** — what a store in memory answers.
-/

namespace Crosswalk

namespace Request

variable {rs before : List Request} {r : Request} {name description head tail : String}
  {j : Joining}

/-! ## Attributes and joins by requests -/

/-- The requests behind the last one to empty the store. -/
def sinceReset (rs : List Request) : List Request := rs.rtakeWhile (· ≠ reset)

/-- The attributes that were put there, by their names and descriptions. -/
def upserts (rs : List Request) : List (String × String) :=
  rs.filterMap fun
    | upsert name description => some (name, description)
    | _ => none

/-- **The names of the attributes**, in the order in which they were first put there. -/
def names (rs : List Request) : List String := ((upserts rs).map Prod.fst).eraseDups

/-- The join that is added by a request behind others: both of its attributes must be there. -/
def created (before : List Request) : Request → List JoinEdge
  | join head tail j =>
    if head ∈ names before ∧ tail ∈ names before then [{ j with head, tail }] else []
  | _ => []

/-- The joins that are added by requests behind others. -/
def creations (before : List Request) : List Request → List JoinEdge
  | [] => []
  | r :: rs => created before r ++ creations (before ++ [r]) rs

/-- **The joins**, in the order in which they were first added. -/
def joins (rs : List Request) : List JoinEdge := (creations [] rs).eraseDups

/-- How many joins lead away from an attribute. -/
def leaving (rs : List Request) (name : String) : Nat := (joins rs).countP fun j => j.head = name

/-- **Whether an attribute is primary**, as it was last found out. -/
def isPrimary (rs : List Request) (name : String) : Bool :=
  1 < leaving (rs.rdropWhile (· ≠ recomputePrimary name)) name

/-- **The attributes**, each with its first description and its primary flag. -/
def attributes (rs : List Request) : List Attribute :=
  (names rs).map fun n => ⟨n, ((upserts rs).lookup n).getD "", isPrimary rs n⟩

/-! ## One more request -/

lemma sinceReset_concat (rs : List Request) (r : Request) :
    sinceReset (rs ++ [r]) = if r = reset then [] else sinceReset rs ++ [r] := by
  rw [sinceReset, sinceReset, List.rtakeWhile_concat]
  by_cases h : r = reset <;> simp [h]

lemma upserts_concat_upsert (rs : List Request) (name description : String) :
    upserts (rs ++ [upsert name description]) = upserts rs ++ [(name, description)] := by
  simp [upserts]

lemma names_concat_upsert (rs : List Request) (name description : String) :
    names (rs ++ [upsert name description])
      = if name ∈ names rs then names rs else names rs ++ [name] := by
  simp only [names, upserts_concat_upsert, List.map_append, List.mem_eraseDups]
  exact eraseDups_concat _ _

lemma lookup_upserts_eq_none_iff : (upserts rs).lookup name = none ↔ name ∉ names rs := by
  rw [List.lookup_eq_none_iff, names, List.mem_eraseDups]
  simp only [List.mem_map, not_exists, not_and]
  exact forall₂_congr fun p _ => by rw [bne_iff_ne, ne_comm]

lemma upserts_concat_other (h : ∀ name description, r ≠ upsert name description) :
    upserts (rs ++ [r]) = upserts rs := by
  rw [upserts, List.filterMap_append, ← upserts]
  cases r with
  | upsert name description => exact absurd rfl (h name description)
  | _ => simp

lemma creations_concat (before rs : List Request) (r : Request) :
    creations before (rs ++ [r]) = creations before rs ++ creations (before ++ rs) [r] := by
  induction rs generalizing before with
  | nil => simp [creations]
  | cons q rs ih => simp [creations, ih]

lemma joins_concat (rs : List Request) (r : Request) :
    joins (rs ++ [r]) = (creations [] rs ++ created rs r).eraseDups := by
  simp [joins, creations_concat, creations]

lemma joins_concat_join (rs : List Request) (head tail : String) (j : Joining) :
    joins (rs ++ [join head tail j])
      = if head ∈ names rs ∧ tail ∈ names rs ∧ { j with head, tail } ∉ joins rs
        then joins rs ++ [{ j with head, tail }] else joins rs := by
  rw [joins_concat, created]
  by_cases h : head ∈ names rs ∧ tail ∈ names rs
  · rw [if_pos h, eraseDups_concat]
    simp only [h, true_and, joins, List.mem_eraseDups, ite_not]
  · rw [if_neg h, List.append_nil, if_neg fun hall => h ⟨hall.1, hall.2.1⟩, joins]

lemma joins_concat_other (h : ∀ head tail j, r ≠ join head tail j) :
    joins (rs ++ [r]) = joins rs := by
  have hnone : created rs r = [] := by
    cases r with
    | join head tail j => exact absurd rfl (h head tail j)
    | _ => rfl
  rw [joins_concat, hnone, List.append_nil, joins]

lemma isPrimary_concat_self (rs : List Request) (name : String) :
    isPrimary (rs ++ [recomputePrimary name]) name = decide (1 < leaving rs name) := by
  rw [isPrimary, List.rdropWhile_concat, if_neg (by simp), leaving, joins_concat_other (by simp),
    leaving]

lemma isPrimary_concat_other (h : r ≠ recomputePrimary name) :
    isPrimary (rs ++ [r]) name = isPrimary rs name := by
  rw [isPrimary, List.rdropWhile_concat, if_pos (by simpa using h), isPrimary]

/-! ## Attributes without joins -/

lemma mem_names : name ∈ names rs ↔ ∃ description, upsert name description ∈ rs := by
  simp only [names, List.mem_eraseDups, List.mem_map, upserts, List.mem_filterMap]
  constructor
  · rintro ⟨⟨n, d⟩, ⟨r, hr, heq⟩, rfl⟩
    cases r with
    | upsert n' d' =>
        cases heq
        exact ⟨_, hr⟩
    | _ => cases heq
  · rintro ⟨d, hr⟩
    exact ⟨(name, d), ⟨_, hr, rfl⟩, rfl⟩

lemma of_mem_created {e : JoinEdge} (he : e ∈ created before r) :
    e.head ∈ names before ∧ e.selected = false := by
  cases r with
  | join head tail j =>
      rw [created] at he
      split at he
      · next h =>
          rw [List.mem_singleton.1 he]
          exact ⟨h.1, rfl⟩
      · cases he
  | _ => cases he

lemma of_mem_creations {e : JoinEdge} (he : e ∈ creations before rs) :
    e.head ∈ names (before ++ rs) ∧ e.selected = false := by
  induction rs generalizing before with
  | nil => cases he
  | cons r rs ih =>
      rcases List.mem_append.1 he with he | he
      · obtain ⟨hhead, hselected⟩ := of_mem_created he
        obtain ⟨d, hd⟩ := mem_names.1 hhead
        exact ⟨mem_names.2 ⟨d, List.mem_append_left _ hd⟩, hselected⟩
      · have := ih he
        rwa [List.append_assoc] at this

lemma of_mem_joins {e : JoinEdge} (he : e ∈ joins rs) :
    e.head ∈ names rs ∧ e.selected = false := by
  simpa using of_mem_creations (List.mem_eraseDups.1 he)

lemma leaving_of_notMem (h : name ∉ names rs) : leaving rs name = 0 := by
  refine List.countP_eq_zero.2 fun e he hhead => h ?_
  rw [← of_decide_eq_true hhead]
  exact (of_mem_joins he).1

lemma isPrimary_of_notMem (h : name ∉ names rs) : isPrimary rs name = false := by
  have hprefix := List.rdropWhile_prefix (· ≠ recomputePrimary name) rs
  have hbefore : name ∉ names (rs.rdropWhile (· ≠ recomputePrimary name)) := by
    intro hmem
    obtain ⟨d, hd⟩ := mem_names.1 hmem
    exact h (mem_names.2 ⟨d, hprefix.subset hd⟩)
  rw [isPrimary, leaving_of_notMem hbefore]
  rfl

end Request

/-! ## The ledger -/

namespace Ledger

open Request

variable {l : Ledger} {rs : List Request}

/-- **A ledger holds what requests have put there.** -/
structure Tells (l : Ledger) (rs : List Request) : Prop where
  attributes : l.attributes = Request.attributes rs
  joins : l.joins.map Prod.fst = Request.joins rs

lemma Tells.names (h : l.Tells rs) : l.names = Request.names rs := by
  rw [Ledger.names, h.attributes, Request.attributes, List.map_map]
  exact List.map_id _

lemma Tells.leaving (h : l.Tells rs) (name : String) :
    (l.joins.countP fun j => j.1.head = name) = leaving rs name := by
  rw [Request.leaving, ← h.joins, List.countP_map]
  rfl

lemma Tells.mem_joins (h : l.Tells rs) (head tail : String) (j : Joining) :
    { j with head, tail : JoinEdge } ∈ Request.joins rs
      ↔ ∃ e ∈ l.between head tail, e.1.toJoining = j := by
  rw [← h.joins, List.mem_map]
  constructor
  · rintro ⟨e, he, heq⟩
    refine ⟨e, List.mem_filter.2 ⟨he, ?_⟩, ?_⟩
    · rw [heq]
      simp [JoinEdge.leads]
    · rw [heq]
  · rintro ⟨e, he, rfl⟩
    obtain ⟨hmem, hleads⟩ := List.mem_filter.1 he
    obtain ⟨rfl, rfl⟩ : e.1.head = head ∧
        e.1.tail = tail := by simpa [JoinEdge.leads] using hleads
    have hselected : e.1.selected = false :=
      (of_mem_joins (h.joins ▸ List.mem_map_of_mem hmem)).2
    refine ⟨e, hmem, ?_⟩
    rw [← hselected]

/-- What is known of attributes by other requests stays. -/
lemma Tells.attributes_concat {r : Request} (h : l.Tells rs)
    (hupsert : ∀ name description, r ≠ upsert name description)
    (hflag : ∀ name, r ≠ recomputePrimary name) :
    l.attributes = Request.attributes (rs ++ [r]) := by
  rw [h.attributes, Request.attributes, Request.attributes, Request.names, Request.names,
    upserts_concat_other hupsert]
  exact List.map_congr_left fun n _ => by rw [isPrimary_concat_other (hflag n)]

lemma Tells.withAttribute (h : l.Tells rs) (name description : String) :
    (l.withAttribute name description).Tells (rs ++ [upsert name description]) := by
  have hold : ∀ n ∈ Request.names rs,
      (⟨n, ((upserts (rs ++ [upsert name description])).lookup n).getD "",
        isPrimary (rs ++ [upsert name description]) n⟩ : Attribute)
      = ⟨n, ((upserts rs).lookup n).getD "", isPrimary rs n⟩ := by
    intro n hn
    obtain ⟨d, hd⟩ :=
      Option.ne_none_iff_exists'.1 (mt lookup_upserts_eq_none_iff.1 (not_not.2 hn))
    rw [upserts_concat_upsert, List.lookup_append, hd, isPrimary_concat_other (by simp)]
    rfl
  refine ⟨?_, ?_⟩
  · rw [Request.attributes, names_concat_upsert, Ledger.withAttribute]
    split
    · next hn =>
        rw [if_pos (h.names ▸ hn), List.map_congr_left hold]
        exact h.attributes
    · next hn =>
        have hnew : name ∉ Request.names rs := h.names ▸ hn
        rw [if_neg hnew, List.map_append, List.map_congr_left hold, List.map_singleton,
          upserts_concat_upsert, List.lookup_append, lookup_upserts_eq_none_iff.2 hnew,
          isPrimary_concat_other (by simp), isPrimary_of_notMem hnew]
        simp [h.attributes, Request.attributes]
  · rw [joins_concat_other (by simp), ← h.joins, Ledger.withAttribute]
    split <;> rfl

lemma Tells.withJoin (h : l.Tells rs) (head tail : String) (j : Joining) :
    (l.withJoin head tail j).Tells (rs ++ [join head tail j]) := by
  refine ⟨?_, ?_⟩
  · rw [← h.attributes_concat (by simp) (by simp), Ledger.withJoin]
    split <;> rfl
  · have hcond : (head ∈ l.names ∧ tail ∈ l.names ∧
        ∀ e ∈ l.between head tail, e.1.toJoining ≠ j)
        ↔ (head ∈ Request.names rs ∧ tail ∈ Request.names rs ∧
          { j with head, tail : JoinEdge } ∉ Request.joins rs) := by
      rw [h.names, h.mem_joins]
      simp
    rw [joins_concat_join, Ledger.withJoin]
    by_cases hnew : head ∈ Request.names rs ∧ tail ∈ Request.names rs ∧
        { j with head, tail : JoinEdge } ∉ Request.joins rs
    · rw [if_pos hnew, dif_pos (hcond.2 hnew), List.map_append, h.joins]
      rfl
    · rw [if_neg hnew, dif_neg (mt hcond.1 hnew), h.joins]

lemma Tells.withFlag (h : l.Tells rs) (name : String) :
    (l.withFlag name).Tells (rs ++ [recomputePrimary name]) := by
  have hjoins : Request.joins (rs ++ [recomputePrimary name]) = Request.joins rs :=
    joins_concat_other (by simp)
  refine ⟨?_, by rw [hjoins, ← h.joins, joins_withFlag]⟩
  rw [attributes_withFlag, h.leaving, h.attributes, Request.attributes, Request.attributes,
    List.map_map, Request.names, Request.names, upserts_concat_other (by simp)]
  refine List.map_congr_left fun n _ => ?_
  by_cases hn : n = name
  · rw [hn, isPrimary_concat_self]
    simp [Attribute.flagged]
  · rw [isPrimary_concat_other (by simpa using Ne.symm hn)]
    simp [Attribute.flagged, hn]

/-- **One more request** is entered into the ledger. -/
theorem Tells.enter {r : Request} (h : l.Tells rs) (hr : r ≠ reset) :
    (r.enter l).Tells (rs ++ [r]) := by
  cases r with
  | upsert name description => exact h.withAttribute name description
  | join head tail j => exact h.withJoin head tail j
  | recomputePrimary name => exact h.withFlag name
  | reset => exact absurd rfl hr
  | _ => exact ⟨h.attributes_concat (by simp) (by simp),
      by rw [joins_concat_other (by simp), ← h.joins]; rfl⟩

/-- **The ledger of requests holds what was put there since the store was last emptied.** -/
theorem tells_ofRequests (rs : List Request) : (ofRequests rs).Tells (sinceReset rs) := by
  induction rs using List.reverseRecOn with
  | nil => exact ⟨rfl, rfl⟩
  | append_singleton rs r ih =>
      have hstep : ofRequests (rs ++ [r]) = r.enter (ofRequests rs) := by
        rw [ofRequests, List.foldl_append]
        rfl
      rw [sinceReset_concat, hstep]
      split
      · next hr =>
          rw [hr]
          exact ⟨rfl, rfl⟩
      · next hr => exact ih.enter hr

lemma Tells.find? (h : l.Tells rs) (name : String) :
    (l.attributes.find? fun a => a.name = name)
      = ((upserts rs).lookup name).map fun description =>
        ⟨name, description, isPrimary rs name⟩ := by
  rw [h.attributes, Request.attributes, List.find?_map]
  have hfind : (Request.names rs).find? (fun n => n = name)
      = ((upserts rs).lookup name).map fun _ => name := by
    cases hlookup : (upserts rs).lookup name with
    | none =>
        refine List.find?_eq_none.2 fun n hn heq => lookup_upserts_eq_none_iff.1 hlookup ?_
        rwa [of_decide_eq_true heq] at hn
    | some d =>
        have hmem : name ∈ Request.names rs := by
          by_contra hnot
          rw [lookup_upserts_eq_none_iff.2 hnot] at hlookup
          cases hlookup
        have hsome : ((Request.names rs).find? fun n => n = name).isSome :=
          List.find?_isSome.2 ⟨name, hmem, decide_eq_true rfl⟩
        obtain ⟨n, hn⟩ := Option.isSome_iff_exists.1 hsome
        have heq : n = name := by simpa using List.find?_some hn
        rw [hn, heq]
        rfl
  refine (congrArg (Option.map _) hfind).trans ?_
  cases hlookup : (upserts rs).lookup name with
  | none => rfl
  | some d => simp [hlookup]

lemma Tells.between (h : l.Tells rs) (head tail : String) :
    (l.between head tail).map Prod.fst = (Request.joins rs).filter (·.leads head tail) := by
  rw [← h.joins, List.filter_map]
  rfl

end Ledger

/-! ## Answers -/

open Request in
/-- **What a store in memory answers** behind any requests. -/
theorem answers_performAll (snapshot : Option Path) (files : Files) (log : List LogEntry)
    (rs : List Request) :
    let s := performAll memoryStore rs ⟨.new snapshot, files, log⟩
    let live := sinceReset rs
    (∀ name, (memoryStore.hasAttribute name s).1 = .ok (decide (name ∈ names live))) ∧
    (∀ name, (memoryStore.attribute? name s).1 = .ok (((upserts live).lookup name).map
      fun description => ⟨name, description, isPrimary live name⟩)) ∧
    (∀ name description,
      (memoryStore.upsert name description s).1 = .ok (decide (name ∉ names live))) ∧
    (∀ head tail j, head ∈ names live ∧ tail ∈ names live →
      (memoryStore.join head tail j s).1 = .ok ()) ∧
    (∀ head tail j, ¬ (head ∈ names live ∧ tail ∈ names live) →
      memoryStore.join head tail j s = (.error (.missingAttribute
        (if head ∈ names live then tail else head) (edgeText head tail)), s)) ∧
    (∀ head tail, (memoryStore.joinsBetween head tail s).1
      = .ok ((joins live).filter (·.leads head tail))) ∧
    (memoryStore.attributeCount s).1 = .ok (names live).length ∧
    (memoryStore.edgeCount s).1 = .ok (joins live).length ∧
    ∀ name, (memoryStore.recomputePrimary name s).1
        = .ok (decide (name ∈ names live ∧ 1 < leaving live name)) ∧
      (memoryStore.attribute? name (memoryStore.recomputePrimary name s).2).1
        = .ok (((upserts live).lookup name).map
          fun description => ⟨name, description, decide (1 < leaving live name)⟩) := by
  intro s live
  have hm : s.store.graph = (Ledger.ofRequests rs).graph := graph_performAll rfl rs
  have h : (Ledger.ofRequests rs).Tells live := Ledger.tells_ofRequests rs
  generalize Ledger.ofRequests rs = l at hm h
  refine ⟨fun name => ?_, fun name => ?_, fun name description => ?_, fun head tail j hends => ?_,
    fun head tail j hends => ?_, fun head tail => ?_, ?_, ?_, fun name => ⟨?_, ?_⟩⟩
  · refine congrArg Except.ok ?_
    rw [Bool.eq_iff_iff, Ledger.hasAttribute_eq hm, h.names, decide_eq_true_iff]
  · exact (Ledger.attribute?_eq hm).trans (congrArg Except.ok (h.find? name))
  · rw [upsert_memoryStore hm, h.names]
    simp
  · rw [← h.names] at hends
    rw [join_memoryStore hm hends.1 hends.2]
  · rw [← h.names] at hends
    rw [join_memoryStore_of_missing hm hends, h.names]
  · exact (Ledger.joinsBetween_eq hm).trans (congrArg Except.ok (h.between head tail))
  · refine congrArg Except.ok ?_
    rw [MemoryStore.attributeCount, hm, ← h.names]
    simp [Ledger.graph, Ledger.names]
  · refine congrArg Except.ok ?_
    rw [MemoryStore.edgeCount, hm, ← h.joins]
    simp [Ledger.graph]
  · rw [recomputePrimary_memoryStore hm, h.leaving]
    refine congrArg Except.ok (decide_eq_decide.2 (and_iff_right_of_imp fun hmany => ?_).symm)
    by_contra hname
    rw [leaving_of_notMem hname] at hmany
    omega
  · have hafter := h.withFlag name
    rw [recomputePrimary_memoryStore hm]
    refine (Ledger.attribute?_eq rfl).trans (congrArg Except.ok ?_)
    rw [hafter.find? name, upserts_concat_other (by simp), isPrimary_concat_self]

end Crosswalk
