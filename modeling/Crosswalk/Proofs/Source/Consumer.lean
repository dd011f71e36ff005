import Mathlib.Data.List.Infix
import Mathlib.Tactic.Lemma
import Crosswalk.Source.Stream

/-!
# Consumers of a stream

Whatever a consumer asks of a stream, the stream is only ever read and closed.  So all that a
consumer can see follows from what one reading and one closing do.

* `Act`, `Use.after` — readings and closings, and what is left of a stream behind them.
* `Use.Holds` — **the invariant**: what has been handed out, what is taken ahead, and what is left
  are the items of the stream.  `Use.Holds.act` keeps it.
* `isClosed_after_iff` — **what closes a stream.**
* `Demand`, `Use.answer` — what consumers ask for, and what they are answered.
  `Use.behind_eq_after` reduces it to acts.
* **`behindAll_follows`** — every run of every consumer.
-/

namespace Crosswalk

namespace Stream

/-! ## Reading -/

lemma next_of_ready {s : Stream} {item : Item} {rest : List Item}
    (hopen : s.prepare.isClosed = false) (htaken : s.prepare.taken = item :: rest) :
    s.next = (some item, { s.prepare with taken := rest }) := by
  simp only [next, hopen, htaken]

lemma next_of_none {s : Stream} (h : s.prepare.isClosed = true ∨ s.prepare.taken = []) :
    s.next = (none, s.prepare.close) := by
  rcases h with hclosed | hnil
  · simp only [next, hclosed]
  · cases hclosed : s.prepare.isClosed <;> simp only [next, hclosed, hnil]

/-- **Nothing is left to do** with a stream that is closed. -/
lemma next_of_closed {s : Stream} (h : s.isClosed = true) : s.next = (none, s) := by
  have hprepare : s.prepare = s := by simp [prepare, needsBatch, h]
  rw [next_of_none (Or.inl (hprepare.symm ▸ h)), hprepare, close, if_pos h]

/-! ## Acts -/

/-- **A stream in use**, with the items that it has handed out so far. -/
structure Use where
  stream : Stream
  delivered : List Item

/-- What is done to a stream at a time. -/
inductive Act where
  /-- The next item is asked for. -/
  | read
  /-- The stream is closed. -/
  | close
  deriving DecidableEq, Repr

namespace Use

/-- A stream over some items that nobody has used yet. -/
def start (source : String) (items : List Item) : Use := ⟨ofItems source items, []⟩

/-- The stream while it is read: an item is ready, and not handed out yet. -/
def ready (u : Use) : Use := { u with stream := u.stream.prepare }

/-- The stream behind an act. -/
def act (u : Use) : Act → Use
  | .read => ⟨u.stream.next.2, u.delivered ++ u.stream.next.1.toList⟩
  | .close => { u with stream := u.stream.close }

/-- **The stream behind some acts.** -/
def after (u : Use) (acts : List Act) : Use := acts.foldl act u

lemma after_cons (u : Use) (a : Act) (acts : List Act) :
    u.after (a :: acts) = (u.act a).after acts := rfl

lemma after_append (u : Use) (acts more : List Act) :
    u.after (acts ++ more) = (u.after acts).after more := List.foldl_append

/-! ## The invariant -/

/-- **What holds of a stream over some items**, of which some are taken and not handed out.  They
are dropped when the stream is closed. -/
structure Holds (u : Use) (items ahead : List Item) : Prop where
  split : u.delivered ++ ahead ++ u.stream.left = items
  length_le : ahead.length ≤ batchSize
  taken : u.stream.taken = if u.stream.isClosed then [] else ahead
  atEnd : u.stream.isExhausted = true → u.stream.left = []
  releases : u.stream.releases = if u.stream.isClosed then 1 else 0

variable {u : Use} {items ahead : List Item}

lemma holds_start (source : String) (items : List Item) : (start source items).Holds items [] :=
  ⟨rfl, Nat.zero_le _, rfl, nofun, rfl⟩

lemma Holds.delivered (h : u.Holds items ahead) : u.delivered <+: items := by
  rw [← h.split, List.append_assoc]
  exact List.prefix_append _ _

/-- **Making an item ready** takes at most one batch, and none while items are ready.  If there is
no item then, all have been handed out. -/
lemma Holds.ready (h : u.Holds items ahead) : ∃ ahead', u.ready.Holds items ahead' ∧
    u.ready.stream.isClosed = u.stream.isClosed ∧
    (u.stream.isClosed = false → (ahead' = [] ↔ u.delivered = items)) := by
  by_cases hneeds : u.stream.needsBatch
  · have hready : u.ready = { u with stream := u.stream.fill } := by
      rw [Use.ready, prepare, if_pos hneeds]
    simp only [needsBatch, Bool.and_eq_true, Bool.not_eq_true', List.isEmpty_iff] at hneeds
    obtain ⟨⟨htaken, -⟩, hopen⟩ := hneeds
    have hnil : ahead = [] := by simpa [hopen, htaken] using h.taken.symm
    have hsplit : u.delivered ++ u.stream.left = items := by simpa [hnil] using h.split
    rw [hready]
    refine ⟨u.stream.left.take batchSize, ⟨?_, ?_, ?_, ?_, ?_⟩, rfl, fun _ => ?_⟩
    · simpa [fill] using hsplit
    · exact List.length_take_le _ _
    · simp [fill, htaken, hopen]
    · simp only [fill, decide_eq_true_eq, List.drop_eq_nil_iff]
      omega
    · exact h.releases
    · rw [← hsplit, List.take_eq_nil_iff]
      simp [batchSize]
  · have hready : u.ready = u := by rw [Use.ready, prepare, if_neg hneeds]
    rw [hready]
    refine ⟨ahead, h, rfl, fun hopen => ?_⟩
    have htaken : u.stream.taken = ahead := by simpa [hopen] using h.taken
    constructor
    · intro hnil
      have hleft : u.stream.left = [] := by
        apply h.atEnd
        simpa [needsBatch, htaken, hnil, hopen] using hneeds
      simpa [hnil, hleft] using h.split
    · intro hall
      have hsplit := h.split
      rw [hall, List.append_assoc, List.append_right_eq_self, List.append_eq_nil_iff] at hsplit
      exact hsplit.1

lemma Holds.close (h : u.Holds items ahead) : (u.act .close).Holds items ahead := by
  by_cases hclosed : u.stream.isClosed
  · simpa only [act, Stream.close, if_pos hclosed] using h
  · have hclose : (u.act .close).stream
        = { u.stream with isClosed := true, taken := [], releases := u.stream.releases + 1 } := by
      rw [act, Stream.close, if_neg hclosed]
    refine ⟨?_, h.length_le, ?_, ?_, ?_⟩
    · rw [hclose]
      exact h.split
    · rw [hclose]
      rfl
    · rw [hclose]
      exact h.atEnd
    · rw [hclose]
      simp [h.releases, hclosed]

lemma isClosed_close (u : Use) : (u.act .close).stream.isClosed = true := by
  by_cases hclosed : u.stream.isClosed <;> simp [act, Stream.close, hclosed]

/-- **An act keeps the invariant**, and the stream is closed behind it if it was closed, if the act
is a closing, or if all items had been handed out.  Otherwise one more item is handed out. -/
lemma Holds.act (h : u.Holds items ahead) (a : Act) : ∃ ahead', (u.act a).Holds items ahead' ∧
    ((u.act a).stream.isClosed = true
      ↔ u.stream.isClosed = true ∨ a = .close ∨ u.delivered = items) ∧
    (u.stream.isClosed = false → a = .read →
      (u.act a).delivered = items.take (u.delivered.length + 1)) := by
  cases a with
  | close => exact ⟨ahead, h.close, by simp [isClosed_close], nofun⟩
  | read =>
      obtain ⟨ahead', hready, hsame, hall⟩ := h.ready
      by_cases hnone : u.ready.stream.isClosed = true ∨ u.ready.stream.taken = []
      · have hact : u.act .read = u.ready.act .close := by
          rw [Use.act, next_of_none hnone, Option.toList_none, List.append_nil]
          rfl
        rw [hact]
        have hend : u.stream.isClosed = false → u.delivered = items := by
          intro hopen
          have hnil : u.ready.stream.taken = [] := by simpa [hsame, hopen] using hnone
          have hahead : ahead' = [] := by simpa [hnil, hsame, hopen] using hready.taken.symm
          exact (hall hopen).1 hahead
        refine ⟨ahead', hready.close, iff_of_true (isClosed_close _) ?_, fun hopen _ => ?_⟩
        · cases hopen : u.stream.isClosed with
          | true => exact Or.inl rfl
          | false => exact Or.inr (Or.inr (hend hopen))
        · rw [← hend hopen, List.take_of_length_le (Nat.le_succ _)]
          rfl
      · rw [not_or, Bool.not_eq_true] at hnone
        obtain ⟨hopen, hne⟩ := hnone
        obtain ⟨item, rest, htaken⟩ := List.exists_cons_of_ne_nil hne
        have hact : u.act .read
            = ⟨{ u.ready.stream with taken := rest }, u.delivered ++ [item]⟩ := by
          rw [Use.act, next_of_ready hopen htaken]
          rfl
        have hahead : ahead' = item :: rest := by
          rw [← htaken, hready.taken, hopen]
          rfl
        have hlength := hready.length_le
        rw [hahead, List.length_cons] at hlength
        have hsplit : u.delivered ++ [item] ++ (rest ++ u.ready.stream.left) = items := by
          rw [← hready.split, hahead]
          simp [Use.ready]
        rw [hact]
        refine ⟨rest, ⟨?_, by omega, ?_, hready.atEnd, hready.releases⟩, ?_, fun _ _ => ?_⟩
        · rw [← hsplit, List.append_assoc _ rest]
        · simp [hopen]
        · rw [hsame] at hopen
          have hmore : u.delivered ≠ items := by
            intro heq
            rw [← hall hopen, hahead] at heq
            cases heq
          simp [hsame, hopen, hmore]
        · rw [← hsplit, List.take_left' (by simp)]

/-- **Acts keep the invariant.** -/
lemma Holds.after (h : u.Holds items ahead) (acts : List Act) :
    ∃ ahead', (u.after acts).Holds items ahead' := by
  induction acts generalizing u ahead with
  | nil => exact ⟨ahead, h⟩
  | cons a acts ih =>
      obtain ⟨ahead', hact, -, -⟩ := h.act a
      exact ih hact

/-- **What closes a stream**: a closing, or a reading when all items have been handed out. -/
lemma Holds.isClosed_after_iff (h : u.Holds items ahead) {acts : List Act} :
    (u.after acts).stream.isClosed = true ↔ u.stream.isClosed = true ∨
      ∃ before a behind, acts = before ++ a :: behind ∧
        (a = .close ∨ (u.after before).delivered = items) := by
  induction acts generalizing u ahead with
  | nil => simp [Use.after]
  | cons a acts ih =>
      obtain ⟨ahead', hact, hclosed, -⟩ := h.act a
      rw [after_cons, ih hact, hclosed]
      constructor
      · rintro ((hu | hfirst) | ⟨before, b, behind, rfl, hb⟩)
        · exact Or.inl hu
        · exact Or.inr ⟨[], a, acts, rfl, hfirst⟩
        · exact Or.inr ⟨a :: before, b, behind, rfl, hb⟩
      · rintro (hu | ⟨before, b, behind, hsplit, hb⟩)
        · exact Or.inl (Or.inl hu)
        · cases before with
          | nil =>
              obtain ⟨rfl, rfl⟩ := List.cons.inj hsplit
              exact Or.inl (Or.inr hb)
          | cons b' before =>
              obtain ⟨rfl, rfl⟩ := List.cons.inj hsplit
              exact Or.inr ⟨before, b, behind, rfl, hb⟩

/-- **Nothing happens** to a stream that is closed. -/
lemma after_of_closed (h : u.stream.isClosed = true) (acts : List Act) : u.after acts = u := by
  have hact (a : Act) : u.act a = u := by
    cases a with
    | read => rw [act, next_of_closed h, Option.toList_none, List.append_nil]
    | close => rw [act, Stream.close, if_pos h]
  induction acts with
  | nil => rfl
  | cons a acts ih => rw [after_cons, hact, ih]

/-- **What has been handed out**: an item for each reading up to the first closing, while there are
items. -/
lemma Holds.delivered_after (h : u.Holds items ahead) (hopen : u.stream.isClosed = false)
    (acts : List Act) : (u.after acts).delivered
      = items.take (u.delivered.length + (acts.takeWhile (· = .read)).length) := by
  induction acts generalizing u ahead with
  | nil => exact List.prefix_iff_eq_take.1 h.delivered
  | cons a acts ih =>
      obtain ⟨ahead', hact, hclosed, hread⟩ := h.act a
      cases a with
      | close =>
          rw [after_cons, after_of_closed (isClosed_close u)]
          exact List.prefix_iff_eq_take.1 h.delivered
      | read =>
          have hnext := hread hopen rfl
          rw [after_cons, List.takeWhile_cons_of_pos (by simp), List.length_cons]
          cases hend : (u.act .read).stream.isClosed with
          | true =>
              have hall : u.delivered = items := by simpa [hopen] using hclosed.1 hend
              rw [after_of_closed hend, hnext, List.take_eq_take_iff, hall]
              omega
          | false =>
              rw [ih hact hend, hnext, List.take_eq_take_iff, List.length_take]
              omega

/-! ## Moments -/

/-- **What can be seen at any moment**: a part of the items from the front has been handed out, the
others that are taken are no more than a batch, and a closed stream has been released once. -/
structure Follows (u : Use) (items : List Item) : Prop where
  delivered : u.delivered <+: items
  left : u.stream.left <:+ items
  taken_le : items.length ≤ u.delivered.length + batchSize + u.stream.left.length
  releases : u.stream.releases = if u.stream.isClosed then 1 else 0

lemma Holds.follows (h : u.Holds items ahead) : u.Follows items := by
  refine ⟨h.delivered, ?_, ?_, h.releases⟩
  · rw [← h.split]
    exact List.suffix_append _ _
  · have hlength := h.length_le
    rw [← h.split, List.length_append, List.length_append]
    omega

end Use

/-! ## Consumers -/

/-- **What a consumer asks for.** -/
inductive Demand where
  /-- The next item. -/
  | next
  /-- The next item, which should be a pair. -/
  | unwrap
  /-- Everything that is still to come. -/
  | collect
  /-- The next item, before the stream is left and closed. -/
  | within
  /-- That the stream is closed. -/
  | close
  deriving DecidableEq, Repr

/-- What is called when the stream is released: which of its calls fail, and how. -/
abbrev Callback := Nat → Option Error

namespace Use

/-- The stream behind what a consumer asks for. -/
def behind (u : Use) : Demand → Use
  | .next | .unwrap => u.act .read
  | .collect => ⟨u.stream.collect.2, u.delivered ++ u.stream.collect.1⟩
  | .within => (u.act .read).act .close
  | .close => u.act .close

/-- **The stream behind all that a consumer asks for.** -/
def behindAll (u : Use) (demands : List Demand) : Use := demands.foldl behind u

/-- The items that a consumer gets.  Nothing comes at the end. -/
def got (u : Use) : Demand → Except Error (List Item)
  | .next | .within => .ok u.stream.next.1.toList
  | .unwrap =>
    match u.stream.next.1 with
    | some (.error e) => .error e
    | item => .ok item.toList
  | .collect => .ok u.stream.collect.1
  | .close => .ok []

/-- **What a consumer is answered**: the items that it gets, unless the call fails that releases the
stream. -/
def answer (onClose : Callback) (u : Use) (d : Demand) : Except Error (List Item) :=
  if u.stream.releases < (u.behind d).stream.releases then
    (onClose u.stream.releases).elim (u.got d) .error
  else u.got d

/-- The acts that a demand consists of. -/
def acts (u : Use) : Demand → List Act
  | .next | .unwrap => [.read]
  | .collect => List.replicate (u.stream.collect.1.length + 1) .read
  | .within => [.read, .close]
  | .close => [.close]

/-- **The acts of a run.** -/
def actsAll (u : Use) : List Demand → List Act
  | [] => []
  | d :: ds => u.acts d ++ (u.behind d).actsAll ds

/-- Everything comes by readings, the last of which finds nothing. -/
lemma after_reads (s : Stream) (delivered : List Item) :
    after ⟨s, delivered⟩ (List.replicate (s.collect.1.length + 1) .read)
      = ⟨s.collect.2, delivered ++ s.collect.1⟩ := by
  fun_induction collect s generalizing delivered with
  | case1 s item rest hnext items last hcollect ih =>
      rw [List.length_cons, List.replicate_succ, after_cons, act, hnext]
      rw [hcollect] at ih
      simpa using ih (delivered ++ [item])
  | case2 s rest hnext => simp [after, act, hnext]

lemma behind_eq_after (u : Use) (d : Demand) : u.behind d = u.after (u.acts d) := by
  cases d with
  | collect => exact (after_reads u.stream u.delivered).symm
  | _ => rfl

lemma behindAll_eq_after (u : Use) (ds : List Demand) :
    u.behindAll ds = u.after (u.actsAll ds) := by
  induction ds generalizing u with
  | nil => rfl
  | cons d ds ih =>
      rw [actsAll, after_append, ← behind_eq_after, ← ih]
      rfl

/-- **What a consumer is answered** is what is handed out meanwhile. -/
lemma delivered_behind {onClose : Callback} {u : Use} {d : Demand} {items : List Item}
    (h : u.answer onClose d = .ok items) : (u.behind d).delivered = u.delivered ++ items := by
  have hgot : u.got d = .ok items := by
    rw [answer] at h
    split at h
    · cases hcall : onClose u.stream.releases with
      | none => rwa [hcall] at h
      | some e =>
          rw [hcall] at h
          cases h
    · exact h
  cases d with
  | unwrap =>
      rw [got] at hgot
      split at hgot
      · cases hgot
      · cases hgot
        rfl
  | close =>
      cases hgot
      exact (List.append_nil _).symm
  | _ =>
      cases hgot
      rfl

/-- **Once it is closed**, a stream does not change, and nothing comes out of it. -/
lemma behind_of_closed {u : Use} (h : u.stream.isClosed = true) (onClose : Callback) (d : Demand) :
    u.behind d = u ∧ u.answer onClose d = .ok [] := by
  have hbehind : u.behind d = u := (behind_eq_after u d).trans (after_of_closed h _)
  have hnext : u.stream.next = (none, u.stream) := next_of_closed h
  have hcollect : u.stream.collect.1 = [] := by
    rw [collect]
    split
    · next heq =>
      rw [hnext] at heq
      cases heq
    · rfl
  refine ⟨hbehind, ?_⟩
  rw [answer, hbehind, if_neg (Nat.lt_irrefl _)]
  cases d <;> simp [got, hnext, hcollect]

end Use

/-- **Every run of every consumer.**  A run is made of readings and closings.  At any moment of it,
what has been handed out are the first items, one for each reading up to the first closing; and
also while an item is ready and not handed out yet, at most one batch more has been taken.  The
stream is closed from the first closing on, or from the first reading behind the last item, and is
released once then.  What a consumer is answered has been handed out meanwhile; and once the stream
is closed, the answer is always that nothing comes, and nothing more is taken. -/
theorem behindAll_follows (source : String) (items : List Item) (onClose : Callback)
    (demands : List Demand) :
    let start := Use.start source items
    let u := start.behindAll demands
    u = start.after (start.actsAll demands) ∧
      (∀ acts, acts <+: start.actsAll demands →
        (start.after acts).Follows items ∧ (start.after acts).ready.Follows items ∧
          (start.after acts).delivered = items.take (acts.takeWhile (· = .read)).length ∧
          ((start.after acts).stream.isClosed = true ↔ ∃ before act behind,
            acts = before ++ act :: behind ∧
              (act = .close ∨ (start.after before).delivered = items))) ∧
      (∀ d got, u.answer onClose d = .ok got → (u.behind d).delivered = u.delivered ++ got) ∧
      (u.stream.isClosed = true → ∀ d, u.behind d = u ∧ u.answer onClose d = .ok []) := by
  intro start u
  have hstart : start.Holds items [] := Use.holds_start source items
  refine ⟨Use.behindAll_eq_after start demands, fun acts _ => ?_,
    fun d got => Use.delivered_behind, fun hclosed d => Use.behind_of_closed hclosed onClose d⟩
  obtain ⟨ahead, hafter⟩ := hstart.after acts
  obtain ⟨ahead', hready, -, -⟩ := hafter.ready
  refine ⟨hafter.follows, hready.follows, ?_, ?_⟩
  · have hdelivered := hstart.delivered_after rfl acts
    rwa [show start.delivered.length = 0 from rfl, Nat.zero_add] at hdelivered
  · rw [hstart.isClosed_after_iff]
    exact or_iff_right Bool.false_ne_true

end Stream

end Crosswalk
