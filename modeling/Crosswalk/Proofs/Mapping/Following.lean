import Crosswalk.Proofs.Mapping.Requests

/-!
# Stores that follow ledgers

Requests to a store are answered one after the other, and an answer depends on what the requests in
front of it have led to.  A ledger says both: what a request is answered with, and which ledger
there is behind it.  A store follows ledgers if it does just this, request by request, as long as it
holds what a ledger holds; then all its answers are those of the ledgers, whatever the store is made
of.

* `Reply`, `Request.ask`, `Request.transcript` — **requests with their answers.**
* `Request.answer`, `Request.meaning` — what a ledger answers, and what becomes of it.
* `Store.Follows` — a store that follows ledgers.
* **`Store.transcript_eq`** — its answers to any requests, by induction on them.
* **`memoryStore_follows`** — a store in memory.
-/

namespace Crosswalk

variable {σ α : Type}

/-! ## Requests and their answers -/

/-- **What a store answers** to a request. -/
inductive Reply where
  | done
  | flag (b : Bool)
  | attribute (a : Option Attribute)
  | joins (js : List JoinEdge)
  | number (n : Nat)
  deriving DecidableEq

namespace Request

/-- **A request to a store, and its answer.** -/
def ask (store : Store σ) : Request → Action σ Reply
  | upsert name description => do return .flag (← store.upsert name description)
  | join head tail j => do
    store.join head tail j
    return .done
  | recomputePrimary name => do return .flag (← store.recomputePrimary name)
  | reset => do
    store.reset
    return .done
  | hasAttribute name => do return .flag (← store.hasAttribute name)
  | attribute? name => do return .attribute (← store.attribute? name)
  | joinsBetween head tail => do return .joins (← store.joinsBetween head tail)
  | attributeCount => do return .number (← store.attributeCount)
  | edgeCount => do return .number (← store.edgeCount)

/-- **Requests with their answers**, one after the other, whether some of them fail or not. -/
def transcript (store : Store σ) :
    List Request → Session σ → List (Request × Except Error Reply)
  | [], _ => []
  | r :: rs, s => (r, (r.ask store s).1) :: transcript store rs (r.ask store s).2

/-- What a ledger answers to a request. -/
def answer (l : Ledger) : Request → Except Error Reply
  | upsert name _ => .ok (.flag (name ∉ l.names))
  | join head tail _ =>
    if head ∈ l.names ∧ tail ∈ l.names then .ok .done
    else .error (.missingAttribute (if head ∈ l.names then tail else head) (edgeText head tail))
  | recomputePrimary name => .ok (.flag (1 < l.joins.countP fun j => j.1.head = name))
  | reset => .ok .done
  | hasAttribute name => .ok (.flag (name ∈ l.names))
  | attribute? name => .ok (.attribute (l.attributes.find? fun a => a.name = name))
  | joinsBetween head tail => .ok (.joins ((l.between head tail).map Prod.fst))
  | attributeCount => .ok (.number l.attributes.length)
  | edgeCount => .ok (.number l.joins.length)

/-- **What a request means for a ledger**: its answer, and the ledger behind it. -/
def meaning (l : Ledger) (r : Request) : Except Error Reply × Ledger := (r.answer l, r.enter l)

/-- Requests with the answers of a ledger, and of those that it changes into. -/
def transcriptOf (meaning : Ledger → Request → Except Error Reply × Ledger) :
    Ledger → List Request → List (Request × Except Error Reply)
  | _, [] => []
  | l, r :: rs => (r, (meaning l r).1) :: transcriptOf meaning (meaning l r).2 rs

/-- **The only error of a ledger** is an attribute that a join lacks. -/
lemma answer_eq_error {l : Ledger} {r : Request} {e : Error} (h : r.answer l = .error e) :
    ∃ (head tail : String) (j : Joining) (name : String), r = .join head tail j ∧
      (name = head ∨ name = tail) ∧ e = .missingAttribute name (edgeText head tail) := by
  cases r with
  | join head tail j =>
      rw [answer] at h
      split at h
      · cases h
      · cases h
        exact ⟨head, tail, j, _, rfl, by split <;> simp, rfl⟩
  | _ => cases h

lemma exists_of_mem_transcriptOf {meaning : Ledger → Request → Except Error Reply × Ledger}
    {l : Ledger} {rs : List Request} {p : Request × Except Error Reply}
    (hp : p ∈ transcriptOf meaning l rs) : ∃ l', (meaning l' p.1).1 = p.2 := by
  induction rs generalizing l with
  | nil => cases hp
  | cons r rs ih =>
      rcases List.mem_cons.1 hp with rfl | hp
      · exact ⟨l, rfl⟩
      · exact ih hp

end Request

/-! ## Stores that follow ledgers -/

/-- **A store that follows ledgers** in a request: holding what a ledger holds, it gives the answer
that the request means, and holds what the ledger behind it holds. -/
def Store.Follows (store : Store σ) (holds : σ → Ledger → Prop)
    (meaning : Ledger → Request → Except Error Reply × Ledger) : Prop :=
  ∀ (r : Request) (s : Session σ) (l : Ledger), holds s.store l →
    ∃ s' : Session σ, r.ask store s = ((meaning l r).1, s') ∧ holds s'.store (meaning l r).2

/-- **A store that follows ledgers in each request** follows them in all of them. -/
theorem Store.transcript_eq {store : Store σ} {holds : σ → Ledger → Prop}
    {meaning : Ledger → Request → Except Error Reply × Ledger}
    (hstore : store.Follows holds meaning) {s : Session σ} {l : Ledger} (h : holds s.store l)
    (rs : List Request) :
    Request.transcript store rs s = Request.transcriptOf meaning l rs := by
  induction rs generalizing s l with
  | nil => rfl
  | cons r rs ih =>
      obtain ⟨s', hask, h'⟩ := hstore r s l h
      rw [Request.transcript, Request.transcriptOf, hask, ih h']

section Replies

variable {a : Action σ α} {s s' : Session σ} {out : Except Error α}

/-- An action whose result is an answer. -/
lemma Action.reply_apply (h : a s = (out, s')) (f : α → Reply) :
    (do return f (← a) : Action σ Reply) s = (out.map f, s') := by
  cases out with
  | ok x =>
      rw [Action.bind_of_ok h]
      rfl
  | error e =>
      rw [Action.bind_of_error h]
      rfl

end Replies

/-! ## Stores in memory -/

/-- What becomes of a session does not depend on how it is answered. -/
lemma Request.ask_snd (store : Store σ) (r : Request) (s : Session σ) :
    (r.ask store s).2 = r.perform store s := by
  cases r <;> exact congrArg Prod.snd (Action.reply_apply rfl _)

/-- **A store in memory follows ledgers.** -/
theorem memoryStore_follows :
    memoryStore.Follows (fun m l => m.graph = l.graph) Request.meaning := by
  intro r s l hm
  refine ⟨r.perform memoryStore s, Prod.ext ?_ (r.ask_snd memoryStore s), r.graph_perform hm⟩
  have reply {α : Type} {a : Action MemoryStore α} {out : Except Error α}
      {s' : Session MemoryStore} (h : a s = (out, s')) (f : α → Reply) :
      ((do return f (← a) : Action MemoryStore Reply) s).1 = out.map f :=
    congrArg Prod.fst (Action.reply_apply h f)
  rw [Request.meaning]
  cases r with
  | upsert name description =>
      rw [Request.answer, decide_not]
      exact reply (upsert_memoryStore hm name description) _
  | join head tail j =>
      by_cases h : head ∈ l.names ∧ tail ∈ l.names
      · rw [Request.answer, if_pos h]
        exact reply (join_memoryStore hm h.1 h.2 j) _
      · rw [Request.answer, if_neg h]
        exact reply (join_memoryStore_of_missing hm h j) _
  | recomputePrimary name => exact reply (recomputePrimary_memoryStore hm name) _
  | reset => rfl
  | hasAttribute name =>
      have hname : s.store.hasAttribute name = decide (name ∈ l.names) := by
        rw [Bool.eq_iff_iff, Ledger.hasAttribute_eq hm, decide_eq_true_iff]
      have hask : memoryStore.hasAttribute name s = (.ok (decide (name ∈ l.names)), s) := by
        rw [← hname]
        rfl
      exact reply hask _
  | attribute? name =>
      have hask : memoryStore.attribute? name s = (s.store.attribute? name, s) := rfl
      rw [Ledger.attribute?_eq hm] at hask
      exact reply hask _
  | joinsBetween head tail =>
      have hask : memoryStore.joinsBetween head tail s = (s.store.joinsBetween head tail, s) := rfl
      rw [Ledger.joinsBetween_eq hm] at hask
      exact reply hask _
  | attributeCount =>
      have hcount : s.store.attributeCount = l.attributes.length := by
        rw [MemoryStore.attributeCount, hm, Ledger.graph, List.length_map]
      have hask : memoryStore.attributeCount s = (.ok l.attributes.length, s) := by
        rw [← hcount]
        rfl
      exact reply hask _
  | edgeCount =>
      have hcount : s.store.edgeCount = l.joins.length := by
        rw [MemoryStore.edgeCount, hm, Ledger.graph, List.length_map]
      have hask : memoryStore.edgeCount s = (.ok l.joins.length, s) := by
        rw [← hcount]
        rfl
      exact reply hask _

end Crosswalk
