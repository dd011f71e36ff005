import Crosswalk.Error

/-!
# Streams of pairs

What a source holds comes as a stream.  A stream takes items in batches of `batchSize` from those
that are left, and hands them out one by one.  It can be read only once, and once it is closed
nothing comes out of it.

* `Pair`, `Item` — a pair of texts, and a pair or the failure of its record.
* `Stream` — **items that are left, items that are taken, and whether the end is reached.**
* `Stream.next` — **the next item.**  At the end the stream closes itself.
* `Stream.close` — a stream that is closed; what it was opened over is released once.
* `Stream.collect` — everything that is still to come.
-/

namespace Crosswalk

/-- **A pair of texts.** -/
structure Pair where
  key : String
  value : String
  deriving DecidableEq, Repr

/-- **A pair, or the failure of the record that should have held it.** -/
abbrev Item := Except Error Pair

/-- How many items are taken at once. -/
def batchSize : Nat := 64

/-- **A stream of pairs.** -/
structure Stream where
  /-- The name of the source. -/
  source : String
  /-- The items that are not taken yet. -/
  left : List Item
  /-- The items that are taken and not handed out yet. -/
  taken : List Item := []
  /-- A batch has come that was not full. -/
  isExhausted : Bool := false
  isClosed : Bool := false
  /-- How often the file behind the stream has been released. -/
  releases : Nat := 0

namespace Stream

/-- The stream over some items. -/
def ofItems (source : String) (items : List Item) : Stream := { source, left := items }

/-- A batch taken from the items that are left. -/
def fill (s : Stream) : Stream :=
  { s with
    left := s.left.drop batchSize
    taken := s.taken ++ s.left.take batchSize
    isExhausted := s.left.length < batchSize }

/-- **The stream closed.**  Items that are taken are dropped. -/
def close (s : Stream) : Stream :=
  if s.isClosed then s
  else { s with isClosed := true, taken := [], releases := s.releases + 1 }

/-- Whether the next item has to be waited for. -/
def needsBatch (s : Stream) : Bool := s.taken.isEmpty && !s.isExhausted && !s.isClosed

/-- The stream with an item ready, unless there is none. -/
def prepare (s : Stream) : Stream := if s.needsBatch then s.fill else s

/-- **The next item**, and the stream behind it. -/
def next (s : Stream) : Option Item × Stream :=
  let s := s.prepare
  match s.isClosed, s.taken with
  | false, item :: rest => (some item, { s with taken := rest })
  | _, _ => (none, s.close)

/-! ## Everything that comes -/

/-- How many items can still come. -/
def remaining (s : Stream) : Nat := s.taken.length + s.left.length

/-- Taking a batch loses nothing. -/
theorem remaining_fill (s : Stream) : s.fill.remaining = s.remaining := by
  simp only [remaining, fill, List.length_append, List.length_take, List.length_drop]
  omega

/-- Nor does making an item ready. -/
theorem remaining_prepare (s : Stream) : s.prepare.remaining = s.remaining := by
  unfold prepare
  split
  · exact remaining_fill s
  · rfl

/-- An item that comes is one less that can come. -/
theorem remaining_next {s rest : Stream} {item : Item} (h : s.next = (some item, rest)) :
    rest.remaining < s.remaining := by
  unfold next at h
  rw [← remaining_prepare s]
  generalize s.prepare = p at h
  simp only at h
  split at h
  · next taken heq =>
    simp only [Prod.mk.injEq] at h
    obtain ⟨-, rfl⟩ := h
    simp [remaining, heq]
  · simp at h

/-- **All items that are still to come**, and the stream at its end. -/
def collect (s : Stream) : List Item × Stream :=
  match _h : s.next with
  | (some item, rest) =>
    let (items, last) := rest.collect
    (item :: items, last)
  | (none, rest) => ([], rest)
termination_by s.remaining
decreasing_by exact remaining_next _h

end Stream

end Crosswalk
