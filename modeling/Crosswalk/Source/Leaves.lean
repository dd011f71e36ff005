import Crosswalk.Files
import Crosswalk.Log.Traced
import Crosswalk.Source.Basic
import Crosswalk.Source.Stream
import Crosswalk.Xml.Document

/-!
# Documents as sources

A document is a source of pairs: every leaf with a text that is not blank is a pair of its tag and
its text.  A document may be longer than what fits into the memory.  So it is read piece by piece:
of a piece, the elements are put into the memory, and then those that have ended are looked at one
by one.  An element that still holds others is no leaf; it is emptied, and what stands in front of
it in the element around it is thrown away.

* `Memory` — **the elements that are kept**, those that are open, and those that have ended.
* `Memory.read` — what a step of the walk puts there.
* `Memory.finish` — **the end of an element**: the pair of a leaf, or room for what comes.
* `Memory.pairs` — **the pairs of a walk that comes in pieces.**
* `Leaves.read` — the stream of pairs of a document in a file.
-/

namespace Crosswalk.Leaves

/-- The pair of a leaf, unless its text is blank. -/
def leafPair (tag text : String) : Option Pair :=
  let text := trim text
  if text.isEmpty then none else some ⟨tag, text⟩

/-- What an element holds besides texts. -/
inductive Child where
  /-- The element with a number. -/
  | element (id : Nat)
  /-- A reference to an entity. -/
  | reference
  deriving DecidableEq

/-- **An element in the memory.**  Texts behind a child are left out; nothing looks at them. -/
structure Kept where
  tag : String
  /-- The element around it, as long as it is in there. -/
  parent : Option Nat
  /-- Its text in front of its first child. -/
  text : String := ""
  /-- Its children, latest first. -/
  children : List Child := []

/-- **The elements in the memory.** -/
structure Memory where
  /-- All elements, by their numbers. -/
  kept : Array Kept := #[]
  /-- Those that are open, innermost first. -/
  opened : List Nat := []
  /-- Those that have ended and have not been looked at yet, in order. -/
  ended : List Nat := []

namespace Memory

/-- The memory with a change to one element. -/
def change (m : Memory) (id : Nat) (f : Kept → Kept) : Memory :=
  { m with kept := m.kept.modify id f }

/-- The memory with a change to the innermost element that is open. -/
def changeInner (m : Memory) (f : Kept → Kept) : Memory :=
  match m.opened with
  | id :: _ => m.change id f
  | [] => m

/-- The memory with one more child in the innermost element that is open. -/
def adopt (m : Memory) (c : Child) : Memory :=
  m.changeInner fun e => { e with children := c :: e.children }

/-- **What a step of the walk puts into the memory.** -/
def read (m : Memory) : Xml.Event → Memory
  | .start tag _ =>
    let id := m.kept.size
    let around := m.adopt (.element id)
    { around with
      kept := around.kept.push { tag, parent := m.opened.head? }
      opened := id :: m.opened }
  | .text s =>
    m.changeInner fun e => if e.children.isEmpty then { e with text := e.text ++ s } else e
  | .reference _ => m.adopt .reference
  | .stop =>
    match m.opened with
    | id :: opened => { m with opened, ended := m.ended ++ [id] }
    | [] => m

/-- The memory when some children lie in no element any more. -/
def detach (m : Memory) (children : List Child) : Memory :=
  children.foldl (fun m c => match c with
    | .element id => m.change id fun e => { e with parent := none }
    | .reference => m) m

/-- The memory with an element emptied. -/
def clear (m : Memory) (id : Nat) : Memory :=
  match m.kept[id]? with
  | some e => (m.detach e.children).change id fun e => { e with text := "", children := [] }
  | none => m

/-- Children, latest first, as far as a certain one, and those in front of it. -/
def cutAt (c : Child) : List Child → List Child × List Child
  | [] => ([], [])
  | d :: earlier =>
    if d = c then ([d], earlier)
    else
      let (since, past) := cutAt c earlier
      (d :: since, past)

/-- The memory when nothing stands in front of an element in the element around it. -/
def dropPast (m : Memory) (id : Nat) : Memory :=
  match m.kept[id]?.bind Kept.parent with
  | some around =>
    let past := (cutAt (.element id) ((m.kept[around]?.map Kept.children).getD [])).2
    (m.detach past).change around fun e => { e with children := (cutAt (.element id) e.children).1 }
  | none => m

/-- **The end of an element.**  A leaf brings a pair, unless its text is blank; an element that
holds others makes room. -/
def finish (m : Memory) (id : Nat) : Memory × Option Pair :=
  match m.kept[id]? with
  | some e =>
    if e.children.isEmpty then (m, leafPair e.tag e.text)
    else ((m.clear id).dropPast id, none)
  | none => (m, none)

/-- The ends of some elements. -/
def finishAll (m : Memory) : List Nat → Memory × List Pair
  | [] => (m, [])
  | id :: ids =>
    let (m, pair?) := m.finish id
    let (m, pairs) := m.finishAll ids
    (m, pair?.toList ++ pairs)

/-- The memory behind a piece of the walk, and the pairs of the elements that have ended. -/
def take (m : Memory) (piece : List Xml.Event) : Memory × List Pair :=
  let m := piece.foldl read m
  finishAll { m with ended := [] } m.ended

/-- **The pairs of a walk that comes in pieces.** -/
def pairs (m : Memory) : List (List Xml.Event) → List Pair
  | [] => []
  | piece :: pieces =>
    let (m, found) := m.take piece
    found ++ m.pairs pieces

end Memory

/-- Whether a tag has kept its prefix, because nothing declares it. -/
def hasPrefix (p : Pair) : Bool := p.key.toList.contains ':'

/-- The items of a document at a place: its pairs, and a failure at the end if it breaks a rule.
Nothing comes behind a leaf whose tag has kept its prefix. -/
def items (source : String) (place : Path) (r : Xml.Reading) : List Item :=
  let pairs := Memory.pairs {} (r.events.map fun e => [e])
  (pairs.takeWhile fun p => !hasPrefix p).map .ok ++
    if pairs.any hasPrefix then [.error (.plain (.fault .wrongValue))]
    else if r.isSound then []
    else [.error (.source (.malformedDocument place.text) (some source))]

/-- **The stream of pairs of a document in a file.** -/
def read (fs : Files) (file : FileSource) : Traced Stream := do
  let (place, bytes) ← Traced.of (file.opened fs)
  Traced.note .debug "datasources.xml_reader" ("Opened XML " ++ place.text)
  return .ofItems file.name (items file.name place (.ofBytes .replace bytes))

end Crosswalk.Leaves
