import Crosswalk.Proofs.Mapping.Following
import Crosswalk.Proofs.Service.Changes

/-!
# Interchangeable stores

The store behind a service that keeps a property graph follows ledgers, as a store in memory does.
So both give the same answers to requests in any order, if they are empty in the beginning.

Through sessions they do not.  A session takes the text of a statement under a name of its own, and
the statement that adds a join has a parameter with this name.  Such a store refuses every join, and
answers everything else as if no join had been asked for.

* `graphService` — **a service that keeps a property graph.**
* `serviceStore_follows` — the store behind it, one lemma for each request.
* `Request.ask_throughSessions`, `throughSessions_follows` — the same through sessions, where
  joins are refused (`Request.meaningWithoutJoins`).
* **`serviceStore_interchangeable`** — the answers of both stores.
* `throughSessions_not_interchangeable` — a join between two attributes is refused.
-/

namespace Crosswalk

open Cypher

/-! ## Answers of a service -/

namespace Answer

/-- A text is taken as it is, an empty one too. -/
lemma orEmpty_of_text {row : Answer} {name s : String} (h : row.lookup name = some (.text s)) :
    row.orEmpty name = .text s := by
  rw [orEmpty, h]
  by_cases hs : s = "" <;> simp [Json.isTrue, hs]

lemma toAttribute_of_texts (name description : String) (primary : Bool) :
    toAttribute [("name", .text name), ("description", .text description),
      ("primary", .bool primary)] = .ok ⟨name, description, primary⟩ := by
  have hdescription : orEmpty [("name", .text name), ("description", .text description),
      ("primary", .bool primary)] "description" = .text description := orEmpty_of_text rfl
  rw [toAttribute, hdescription]
  rfl

lemma toJoin_joinAnswer (head tail : String) (j : Joining) :
    toJoin head tail (joinAnswer j) = .ok { j with head, tail } := by
  have hquery : orEmpty (joinAnswer j) "query" = .text j.query := orEmpty_of_text rfl
  rw [toJoin, hquery]
  rfl

lemma isPositive_int (i : Int) : isPositive (.int i) = .ok (decide (0 < i)) := by
  have hpositive : (some (compare i 0) == some Ordering.gt) = decide (0 < i) := by
    rw [Bool.eq_iff_iff, beq_iff_eq, Option.some_inj, compare_gt_iff_gt, decide_eq_true_iff]
  exact congrArg Except.ok hpositive

end Answer

/-! ## Stores behind a service -/

/-- **A service that keeps a property graph** and answers statements as they are written. -/
def graphService (c : Choices) : Connection PropertyGraph where
  reach := pure ()
  ask s t := (.ok (s.run c t.store).2, { t with store := (s.run c t.store).1 })
  close := pure ()

section Service

variable (c : Choices) {l : Ledger} {t : Session PropertyGraph}

lemma graphService_ask {s : Statement} {g : PropertyGraph} {rows : List Answer}
    (hrun : s.run c t.store = (g, rows)) :
    (graphService c).ask s t = (.ok rows, { t with store := g }) := by
  have hask : (graphService c).ask s t
      = (.ok (s.run c t.store).2, { t with store := (s.run c t.store).1 }) := rfl
  rw [hask, hrun]

variable (h : t.store.Mirrors l)
include h

lemma hasAttribute_graphService (name : String) :
    (graphService c).hasAttribute name t = (.ok (decide (name ∈ l.names)), t) := by
  rw [Connection.hasAttribute]
  by_cases hname : name ∈ l.names
  · rw [Action.bind_of_ok (graphService_ask c (run_findName_of_mem h c hname)),
      decide_eq_true hname]
    rfl
  · rw [Action.bind_of_ok (graphService_ask c (run_findName_of_notMem h c hname)),
      decide_eq_false hname]
    rfl

/-- **A new attribute, or none.** -/
lemma upsert_graphService (name description : String) :
    ∃ t' : Session PropertyGraph, (graphService c).upsert name description t
        = (.ok (decide (name ∉ l.names)), t') ∧
      t'.store.Mirrors (l.withAttribute name description) := by
  rw [Connection.upsert, Action.bind_of_ok (hasAttribute_graphService c h name)]
  by_cases hname : name ∈ l.names
  · refine ⟨t, ?_, ?_⟩
    · rw [if_pos (decide_eq_true hname), decide_eq_false (not_not.2 hname)]
      rfl
    · rwa [Ledger.withAttribute, dif_pos hname]
  · obtain ⟨g', hrun, hmirrors⟩ := run_mergeAttribute h c hname description
    refine ⟨{ t with store := g' }, ?_, hmirrors⟩
    rw [if_neg (by simpa using hname), Action.bind_of_ok (graphService_ask c hrun),
      decide_eq_true hname]
    rfl

/-- **An attribute as it was added**, with its flag. -/
lemma attribute?_graphService (name : String) : (graphService c).attribute? name t
    = (.ok (l.attributes.find? fun a => a.name = name), t) := by
  rw [Connection.attribute?]
  by_cases hname : name ∈ l.names
  · obtain ⟨n, hn, rfl⟩ := h.mem_names.1 hname
    have hfind : (l.attributes.find? fun a => a.name = n.attribute.name) = some n.attribute := by
      cases hfound : l.attributes.find? fun a => a.name = n.attribute.name with
      | none =>
          have hmem : n.attribute ∈ l.attributes := h.attributes ▸ List.mem_map_of_mem hn
          simpa using List.find?_eq_none.1 hfound n.attribute hmem
      | some a =>
          have hmem : a ∈ t.store.nodes.map GraphNode.attribute :=
            h.attributes ▸ List.mem_of_find?_eq_some hfound
          obtain ⟨m, hm, rfl⟩ := List.mem_map.1 hmem
          have hname : m.attribute.name = n.attribute.name := by
            simpa using List.find?_some hfound
          rw [h.eq_of_name hn hm hname]
    rw [Action.bind_of_ok (graphService_ask c (run_getAttribute_of_mem h c hn)), hfind]
    dsimp only
    rw [Answer.toAttribute_of_texts]
    rfl
  · have hfind : (l.attributes.find? fun a => a.name = name) = none := by
      refine List.find?_eq_none.2 fun a ha hname' => hname ?_
      exact List.mem_map.2 ⟨a, ha, of_decide_eq_true hname'⟩
    rw [Action.bind_of_ok (graphService_ask c (run_getAttribute_of_notMem h c hname)), hfind]
    rfl

/-- **The flag of an attribute.** -/
lemma recomputePrimary_graphService (name : String) :
    ∃ t' : Session PropertyGraph, (graphService c).recomputePrimary name t
        = (.ok (decide (1 < l.joins.countP fun j => j.1.head = name)), t') ∧
      t'.store.Mirrors (l.withFlag name) := by
  rw [Connection.recomputePrimary]
  by_cases hname : name ∈ l.names
  · obtain ⟨g', hrun, hmirrors⟩ := run_recomputePrimary_of_mem h c hname
    refine ⟨{ t with store := g' }, ?_, hmirrors⟩
    rw [Action.bind_of_ok (graphService_ask c hrun)]
    rfl
  · refine ⟨t, ?_, ?_⟩
    · rw [Action.bind_of_ok (graphService_ask c (run_recomputePrimary_of_notMem h c hname)),
        Ledger.countP_head_of_notMem hname]
      rfl
    · rwa [Ledger.withFlag_of_notMem hname]

/-- **A join between attributes.** -/
lemma join_graphService {head tail : String} (hhead : head ∈ l.names) (htail : tail ∈ l.names)
    (j : Joining) :
    ∃ t' : Session PropertyGraph, (graphService c).join head tail j t = (.ok (), t') ∧
      t'.store.Mirrors (l.withJoin head tail j) := by
  obtain ⟨g', n, hrun, hmirrors⟩ := run_mergeJoin_of_mem h c hhead htail j
  refine ⟨{ t with store := g' }, ?_, hmirrors⟩
  have hisThere :
      Action.of (do Answer.isPositive (← Answer.required [("cnt", .int (n + 1))] "cnt"))
        ({ t with store := g' } : Session PropertyGraph) = (.ok true, { t with store := g' }) := by
    have hcount : (0 : Int) < n + 1 := by omega
    rw [Answer.required]
    exact congrArg (·, _) ((Answer.isPositive_int _).trans (by rw [decide_eq_true hcount]))
  rw [Connection.join, Action.bind_of_ok (graphService_ask c hrun)]
  dsimp only
  rw [Action.bind_of_ok hisThere]
  rfl

/-- **A join that lacks an attribute** tells which one, the first one first. -/
lemma join_graphService_of_missing {head tail : String}
    (hmissing : ¬ (head ∈ l.names ∧ tail ∈ l.names)) (j : Joining) :
    (graphService c).join head tail j t = (.error (.missingAttribute
      (if head ∈ l.names then tail else head) (edgeText head tail)), t) := by
  have hnot : Action.of (do Answer.isPositive (← Answer.required [("cnt", .int 0)] "cnt")) t
      = (.ok false, t) := rfl
  rw [Connection.join,
    Action.bind_of_ok (graphService_ask c (run_mergeJoin_of_missing h c hmissing j))]
  dsimp only
  -- nothing was counted, so the service is asked which attribute is missing
  rw [Action.bind_of_ok hnot, if_neg nofun, Action.bind_of_ok (hasAttribute_graphService c h head)]
  simp only [decide_eq_true_iff]
  rfl

/-- **The joins between two attributes** in the order in which they were added. -/
lemma joinsBetween_graphService (head tail : String) :
    (graphService c).joinsBetween head tail t = (.ok ((l.between head tail).map Prod.fst), t) := by
  have hrows : ((l.between head tail).map fun e => joinAnswer e.1.toJoining).mapM
      (Answer.toJoin head tail) = .ok ((l.between head tail).map Prod.fst) := by
    rw [List.mapM_map]
    refine mapM_of_ok fun e he => ?_
    have hmem : e.1 ∈ (l.between head tail).map Prod.fst := List.mem_map_of_mem he
    rw [h.between_eq] at hmem
    obtain ⟨k, hk, hjoin⟩ := List.mem_map.1 hmem
    obtain ⟨rfl, rfl⟩ := of_decide_eq_true (List.mem_filter.1 hk).2
    rw [Function.comp_apply, ← hjoin, Answer.toJoin_joinAnswer]
    rfl
  rw [Connection.joinsBetween, Action.bind_of_ok (graphService_ask c (run_findJoins h c head tail)),
    hrows]
  rfl

/-- **Everything removed.** -/
lemma reset_graphService : ∃ t' : Session PropertyGraph,
    (graphService c).reset t = (.ok (), t') ∧ t'.store.Mirrors .empty := by
  rw [Connection.reset, Action.bind_of_ok (graphService_ask c (run_clear h c))]
  exact ⟨_, rfl, PropertyGraph.mirrors_empty⟩

lemma attributeCount_graphService :
    (graphService c).count .countAttributes t = (.ok l.attributes.length, t) := by
  rw [Connection.count, Action.bind_of_ok (graphService_ask c (run_countAttributes h c))]
  rfl

lemma edgeCount_graphService :
    (graphService c).count .countJoins t = (.ok l.joins.length, t) := by
  rw [Connection.count, Action.bind_of_ok (graphService_ask c (run_countJoins h c))]
  rfl

omit h in
/-- **The store behind a service follows ledgers.** -/
theorem serviceStore_follows (address : String) :
    (serviceStore (graphService c) address).Follows PropertyGraph.Mirrors Request.meaning := by
  intro r t l h
  rw [Request.meaning]
  cases r with
  | upsert name description =>
      obtain ⟨t', hask, h'⟩ := upsert_graphService c h name description
      exact ⟨t', Action.reply_apply hask _, h'⟩
  | join head tail j =>
      by_cases hends : head ∈ l.names ∧ tail ∈ l.names
      · obtain ⟨t', hask, h'⟩ := join_graphService c h hends.1 hends.2 j
        rw [Request.answer, if_pos hends]
        exact ⟨t', Action.reply_apply hask _, h'⟩
      · rw [Request.answer, if_neg hends, Request.enter, Ledger.withJoin_of_missing hends]
        exact ⟨t, Action.reply_apply (join_graphService_of_missing c h hends j) _, h⟩
  | recomputePrimary name =>
      obtain ⟨t', hask, h'⟩ := recomputePrimary_graphService c h name
      exact ⟨t', Action.reply_apply hask _, h'⟩
  | reset =>
      obtain ⟨t', hask, h'⟩ := reset_graphService c h
      exact ⟨t', Action.reply_apply hask _, h'⟩
  | hasAttribute name => exact ⟨t, Action.reply_apply (hasAttribute_graphService c h name) _, h⟩
  | attribute? name => exact ⟨t, Action.reply_apply (attribute?_graphService c h name) _, h⟩
  | joinsBetween head tail =>
      exact ⟨t, Action.reply_apply (joinsBetween_graphService c h head tail) _, h⟩
  | attributeCount => exact ⟨t, Action.reply_apply (attributeCount_graphService c h) _, h⟩
  | edgeCount => exact ⟨t, Action.reply_apply (edgeCount_graphService c h) _, h⟩

end Service

/-! ## Sessions -/

namespace Request

/-- Whether a request adds a join. -/
def isJoin : Request → Bool
  | join _ _ _ => true
  | _ => false

/-- What a request means where joins are refused. -/
def meaningWithoutJoins (l : Ledger) (r : Request) : Except Error Reply × Ledger :=
  if r.isJoin then (.error (.plain (.fault .wrongType)), l) else r.meaning l

/-- **Joins that are refused** leave everything else as if they had not been asked for. -/
lemma filter_transcriptOf_withoutJoins (l : Ledger) (rs : List Request) :
    (transcriptOf meaningWithoutJoins l rs).filter (fun p => !p.1.isJoin)
      = transcriptOf meaning l (rs.filter fun r => !r.isJoin) := by
  induction rs generalizing l with
  | nil => rfl
  | cons r rs ih =>
      rw [transcriptOf, meaningWithoutJoins]
      cases hjoin : r.isJoin with
      | true =>
          rw [List.filter_cons_of_neg (by simp [hjoin]), List.filter_cons_of_neg (by simp [hjoin])]
          exact ih l
      | false =>
          rw [List.filter_cons_of_pos (by simp [hjoin]), List.filter_cons_of_pos (by simp [hjoin]),
            transcriptOf]
          exact congrArg ((r, (r.meaning l).1) :: ·) (ih (r.meaning l).2)

/-- **Through sessions no join is added**, and everything else goes as it does without them. -/
lemma ask_throughSessions {σ : Type} (c : Connection σ) (address : String) (r : Request)
    (s : Session σ) : r.ask (serviceStore c.throughSessions address) s
      = if r.isJoin then (.error (.plain (.fault .wrongType)), s)
        else r.ask (serviceStore c address) s := by
  cases r with
  | join head tail j => exact Action.bind_of_error (Action.bind_of_error rfl)
  | _ => rfl

end Request

/-- **Through sessions a store follows ledgers to which no joins are added.** -/
theorem throughSessions_follows (c : Choices) (address : String) :
    (serviceStore (graphService c).throughSessions address).Follows PropertyGraph.Mirrors
      Request.meaningWithoutJoins := by
  intro r t l h
  rw [Request.ask_throughSessions, Request.meaningWithoutJoins]
  cases r.isJoin with
  | true => exact ⟨t, rfl, h⟩
  | false => exact serviceStore_follows c address r t l h

/-! ## Interchangeable stores -/

/-- **A store behind a service gives the answers of a store in memory**, to all requests to stores
that are empty in the beginning, and the only error is an attribute that a join lacks.  Through
sessions every join is refused, and everything else is answered as if it had not been asked for. -/
theorem serviceStore_interchangeable (c : Choices) (address : String) (rs : List Request)
    (snapshot : Option Path) (isChanged : Bool) (files files' : Files) (log log' : List LogEntry) :
    let inMemory (rs : List Request) :=
      Request.transcript memoryStore rs ⟨{ snapshot, isChanged }, files, log⟩
    let inService := Request.transcript (serviceStore (graphService c) address) rs
      ⟨.empty, files', log'⟩
    let inSessions := Request.transcript (serviceStore (graphService c).throughSessions address) rs
      ⟨.empty, files', log'⟩
    inService = inMemory rs ∧
      (∀ p ∈ inService, ∀ e, p.2 = .error e →
        ∃ (head tail : String) (j : Joining) (name : String),
          p.1 = .join head tail j ∧ (name = head ∨ name = tail) ∧
          e = .missingAttribute name (edgeText head tail)) ∧
      inSessions.filter (fun p => !p.1.isJoin) = inMemory (rs.filter fun r => !r.isJoin) ∧
      ∀ p ∈ inSessions, p.1.isJoin → p.2 = .error (.plain (.fault .wrongType)) := by
  intro inMemory inService inSessions
  have hmemory (rs : List Request) : inMemory rs = Request.transcriptOf Request.meaning .empty rs :=
    Store.transcript_eq memoryStore_follows rfl rs
  have hservice : inService = Request.transcriptOf Request.meaning .empty rs :=
    Store.transcript_eq (serviceStore_follows c address) PropertyGraph.mirrors_empty rs
  have hsessions : inSessions = Request.transcriptOf Request.meaningWithoutJoins .empty rs :=
    Store.transcript_eq (throughSessions_follows c address) PropertyGraph.mirrors_empty rs
  refine ⟨hservice.trans (hmemory rs).symm, fun p hp e he => ?_, ?_, fun p hp hjoin => ?_⟩
  · obtain ⟨l, hl⟩ := Request.exists_of_mem_transcriptOf (hservice ▸ hp)
    exact Request.answer_eq_error (hl.trans he)
  · rw [hsessions, hmemory]
    exact Request.filter_transcriptOf_withoutJoins .empty rs
  · obtain ⟨l, hl⟩ := Request.exists_of_mem_transcriptOf (hsessions ▸ hp)
    rw [← hl, Request.meaningWithoutJoins, if_pos hjoin]

/-- **Through sessions stores are not interchangeable**: a join of two attributes is refused. -/
theorem throughSessions_not_interchangeable :
    ¬ ∀ (c : Choices) (rs : List Request),
      Request.transcript (serviceStore (graphService c).throughSessions "") rs
          ⟨.empty, .none, []⟩
        = Request.transcript memoryStore rs ⟨{}, .none, []⟩ := by
  intro hsame
  let rs : List Request := [.upsert "a" "", .upsert "b" "", .join "a" "b" ⟨"ds", "", "0", "1"⟩]
  have hanswers := hsame .inOrder rs
  rw [Store.transcript_eq (throughSessions_follows _ _) PropertyGraph.mirrors_empty,
    Store.transcript_eq (l := .empty) memoryStore_follows rfl] at hanswers
  revert hanswers
  decide +kernel

end Crosswalk
