import Crosswalk.Proofs.Sequence
import Crosswalk.Proofs.Source.Memory
import Crosswalk.Proofs.Source.Stream
import Crosswalk.Proofs.Xml.Reading

/-!
# The leaves of a document

A leaf of a tree is an element with nothing but text inside.  The walk through a tree brings the
pairs of its leaves, each at the end tag of its leaf; so the beginning of the walk brings the pairs
of the leaves whose end tags lie in it.

* `Node.leaves` — **the leaves of a tree**, with the places of their end tags.
* `leavesFrom_events` — the pairs of the walk through a tree; `leavesFrom_begun` — those of its
  beginning.
* `leavesRead` — the pairs of the leaves whose end tags are read.
* **`read_leaves`** — everything that a consumer collects from a document.
-/

namespace Crosswalk

namespace Xml.Node

mutual

/-- **The leaves of a tree** whose walk begins behind `n` steps: the pairs of the elements with
nothing but text inside, if this is not blank, each with the number of steps up to its end tag. -/
def leaves (n : Nat) : Node → List (Nat × Pair)
  | element tag attributes children =>
    if children.any isChild then allLeaves (n + 1) children
    else ((Leaves.leafPair tag (leadingText children)).map
      (n + (element tag attributes children).events.length, ·)).toList
  | text _ | reference _ => []

/-- The leaves of several trees. -/
def allLeaves (n : Nat) : List Node → List (Nat × Pair)
  | [] => []
  | c :: cs => leaves n c ++ allLeaves (n + c.events.length) cs

end

end Xml.Node

namespace Leaves

open OpenLeaf

/-! ## The walk through a tree -/

/-- The element that was started last, behind the walk through a node. -/
def behind (leaf : Option OpenLeaf) : Xml.Node → Option OpenLeaf
  | .element _ _ _ | .reference _ => none
  | .text s => leaf.map fun l => { l with text := l.text ++ s }

/-- Behind some nodes the element that was started last may be a leaf if they are texts. -/
lemma foldl_behind (leaf : Option OpenLeaf) (ns : List Xml.Node) :
    ns.foldl behind leaf = if ns.any Xml.Node.isChild then none
      else leaf.map fun l => { l with text := l.text ++ Xml.leadingText ns } := by
  induction ns generalizing leaf with
  | nil => cases leaf <;> simp [Xml.leadingText]
  | cons n ns ih =>
      rw [List.foldl_cons, ih, List.any_cons]
      cases n with
      | text s =>
          cases leaf <;> simp [behind, Xml.Node.isChild, Xml.leadingText, String.append_assoc]
      | element => simp [behind, Xml.Node.isChild]
      | reference => simp [behind, Xml.Node.isChild]

lemma leavesFrom_stop (n : Nat) (leaf : Option OpenLeaf) :
    leavesFrom n leaf [.stop] = ((leaf.bind OpenLeaf.pair).map (n + 1, ·)).toList :=
  List.append_nil _

/-- Texts have no leaves. -/
lemma allLeaves_of_texts {ns : List Xml.Node} (h : ns.any Xml.Node.isChild = false) (n : Nat) :
    Xml.Node.allLeaves n ns = [] := by
  induction ns generalizing n with
  | nil => rfl
  | cons c ns ih =>
      rw [List.any_cons, Bool.or_eq_false_iff] at h
      cases c with
      | text s => rw [Xml.Node.allLeaves, ih h.2, Xml.Node.leaves, List.nil_append]
      | _ => cases h.1

/-- **The walk through a node** brings the pairs of its leaves. -/
lemma leavesFrom_events (node : Xml.Node) (n : Nat) (leaf : Option OpenLeaf) :
    leavesFrom n leaf node.events = node.leaves n ∧
      node.events.foldl after leaf = behind leaf node := by
  induction node using Xml.Node.induction generalizing n leaf with
  | element tag attributes ns ih =>
      have hinside (ms : List Xml.Node) (hms : ∀ m ∈ ms, m ∈ ns) (n : Nat)
          (leaf : Option OpenLeaf) :
          leavesFrom n leaf (ms.flatMap Xml.Node.events) = Xml.Node.allLeaves n ms ∧
            (ms.flatMap Xml.Node.events).foldl after leaf = ms.foldl behind leaf := by
        induction ms generalizing n leaf with
        | nil => exact ⟨rfl, rfl⟩
        | cons m ms ihms =>
            obtain ⟨hm, hms⟩ := List.forall_mem_cons.1 hms
            obtain ⟨hfirst, hbehind⟩ := ih m hm n leaf
            obtain ⟨hrest, hend⟩ := ihms hms (n + m.events.length) (behind leaf m)
            rw [List.flatMap_cons, leavesFrom_append, List.foldl_append, hfirst, hbehind, hrest,
              hend, Xml.Node.allLeaves]
            exact ⟨rfl, rfl⟩
      obtain ⟨hchildren, hfold⟩ := hinside ns (fun _ h => h) (n + 1) (some ⟨tag, ""⟩)
      have hlength : (Xml.Node.element tag attributes ns).events.length
          = (ns.flatMap Xml.Node.events).length + 2 := by
        simp [Xml.Node.events_element]
      constructor
      · rw [Xml.Node.leaves, hlength, Xml.Node.events_element, leavesFrom]
        change leavesFrom (n + 1) (some ⟨tag, ""⟩) (ns.flatMap Xml.Node.events ++ [.stop]) = _
        have hplace : n + 1 + (ns.flatMap Xml.Node.events).length + 1
            = n + ((ns.flatMap Xml.Node.events).length + 2) := by omega
        rw [leavesFrom_append, hchildren, hfold, foldl_behind, leavesFrom_stop, hplace]
        cases hany : ns.any Xml.Node.isChild with
        | true => simp
        | false =>
            rw [allLeaves_of_texts hany]
            simp [OpenLeaf.pair]
      · rw [Xml.Node.events_element, List.foldl_cons, List.foldl_append]
        rfl
  | text s => exact ⟨rfl, rfl⟩
  | reference name => exact ⟨rfl, rfl⟩

/-! ## The beginning of a walk -/

/-- Every pair comes at a step of the walk. -/
lemma bounds_of_mem {n : Nat} {leaf : Option OpenLeaf} {es : List Xml.Event} {l : Nat × Pair}
    (h : l ∈ leavesFrom n leaf es) : n < l.1 ∧ l.1 ≤ n + es.length := by
  induction es generalizing n leaf with
  | nil => cases h
  | cons e es ih =>
      rw [List.length_cons]
      rcases List.mem_append.1 h with hfirst | hrest
      · simp only [Option.mem_toList, Option.map_eq_some_iff] at hfirst
        obtain ⟨p, -, rfl⟩ := hfirst
        simp
      · have := ih hrest
        omega

/-- **The beginning of a walk** brings the pairs whose end tags lie in it. -/
lemma leavesFrom_begun {n : Nat} {leaf : Option OpenLeaf} {es all : List Xml.Event}
    (h : es <+: all) :
    leavesFrom n leaf es = (leavesFrom n leaf all).filter fun l => l.1 ≤ n + es.length := by
  obtain ⟨more, rfl⟩ := h
  rw [leavesFrom_append, List.filter_append, List.filter_eq_self.2, List.filter_eq_nil_iff.2,
    List.append_nil]
  · intro l hl
    simpa using (bounds_of_mem hl).1
  · intro l hl
    simpa using (bounds_of_mem hl).2

/-- The tag of a pair is that of an element on the walk. -/
lemma start_mem_of_mem {n : Nat} {leaf : Option OpenLeaf} {es : List Xml.Event} {l : Nat × Pair}
    (h : l ∈ leavesFrom n leaf es) :
    (∃ o ∈ leaf, o.tag = l.2.key) ∨ ∃ attributes, .start l.2.key attributes ∈ es := by
  induction es generalizing n leaf with
  | nil => cases h
  | cons e es ih =>
      rcases List.mem_append.1 h with hfirst | hrest
      · left
        simp only [Option.mem_toList, Option.map_eq_some_iff] at hfirst
        obtain ⟨p, hp, rfl⟩ := hfirst
        cases e with
        | stop =>
            obtain ⟨o, ho, hpair⟩ := Option.bind_eq_some_iff.1 hp
            refine ⟨o, ho, ?_⟩
            rw [OpenLeaf.pair, leafPair] at hpair
            split at hpair
            · cases hpair
            · cases hpair
              rfl
        | _ => cases hp
      · rcases ih hrest with ⟨o, ho, htag⟩ | ⟨attributes, hmem⟩
        · cases e with
          | start tag attributes =>
              cases ho
              right
              refine ⟨attributes, ?_⟩
              rw [← htag]
              exact List.mem_cons_self
          | text s =>
              obtain ⟨o', ho', rfl⟩ := Option.map_eq_some_iff.1 ho
              exact Or.inl ⟨o', ho', htag⟩
          | reference name => cases ho
          | stop => cases ho
        · exact Or.inr ⟨attributes, List.mem_cons_of_mem _ hmem⟩

/-! ## What a consumer collects -/

/-- **The pairs of the leaves whose end tags are read.** -/
def leavesRead (root : Xml.Node) (r : Xml.Reading) : List Pair :=
  ((root.leaves 0).filter fun l => l.1 ≤ r.events.length).map Prod.snd

lemma leavesRead_eq {root : Xml.Node} {r : Xml.Reading} (h : r.events <+: root.events) :
    leavesRead root r = (leavesFrom 0 none r.events).map Prod.snd := by
  rw [leavesFrom_begun h, (leavesFrom_events root 0 none).1, Nat.zero_add]
  rfl

/-- Where everything is read, all leaves are. -/
lemma leavesRead_of_events {root : Xml.Node} {r : Xml.Reading} (h : r.events = root.events) :
    leavesRead root r = (root.leaves 0).map Prod.snd := by
  rw [leavesRead_eq (h ▸ List.prefix_rfl), h, (leavesFrom_events root 0 none).1]

/-- The leaves of a tree whose tags have no prefix have none. -/
lemma hasPrefix_of_mem {root : Xml.Node} {r : Xml.Reading} (hbegun : r.events <+: root.events)
    (hplain : ∀ e ∈ r.events, e.IsPlain) :
    ∀ p ∈ leavesRead root r, hasPrefix p = false := by
  intro p hp
  rw [leavesRead_eq hbegun, List.mem_map] at hp
  obtain ⟨l, hl, rfl⟩ := hp
  rcases start_mem_of_mem hl with ⟨o, ho, -⟩ | ⟨attributes, hmem⟩
  · cases ho
  · have hcolon : ':' ∉ l.2.key.toList := hplain _ hmem
    simpa [hasPrefix] using hcolon

/-- The failure of a document at a place that breaks a rule. -/
def malformed (source : String) (place : Path) : Error :=
  .source (.malformedDocument place.text) (some source)

/-- The failure of a leaf whose tag has kept its prefix. -/
def misnamed : Error := .plain (.fault .wrongValue)

lemma pairs_of_pieces {root : Xml.Node} {r : Xml.Reading} (hbegun : r.events <+: root.events)
    {pieces : List (List Xml.Event)} (h : pieces.flatten = r.events) :
    Memory.pairs {} pieces = leavesRead root r := by
  rw [Memory.pairs_eq Memory.holds_empty rfl pieces 0, leavesRead_eq hbegun, h]
  rfl

section Items

variable {source : String} {place : Path} {root : Xml.Node} {r : Xml.Reading}

lemma pairs_of_steps (hbegun : r.events <+: root.events) :
    Memory.pairs {} (r.events.map fun e => [e]) = leavesRead root r :=
  pairs_of_pieces hbegun (by rw [← List.flatMap_def, List.flatMap_singleton'])

/-- The items of a document in which no leaf has kept its prefix. -/
lemma items_eq (hbegun : r.events <+: root.events)
    (hplain : ∀ p ∈ leavesRead root r, hasPrefix p = false) :
    items source place r = (leavesRead root r).map .ok
      ++ if r.isSound then [] else [.error (malformed source place)] := by
  rw [items, pairs_of_steps hbegun, List.takeWhile_eq_self_iff.2, if_neg]
  · rfl
  · simpa using hplain
  · simpa using hplain

lemma misnamed_mem_items (hbegun : r.events <+: root.events)
    (h : ∃ p ∈ leavesRead root r, hasPrefix p = true) :
    .error misnamed ∈ items source place r := by
  rw [items, pairs_of_steps hbegun, if_pos (List.any_eq_true.2 h)]
  exact List.mem_append_right _ List.mem_cons_self

end Items

/-- A document that can be opened is read. -/
lemma read_of_opened {fs : Files} {file : FileSource} {place : Path} {bytes : List UInt8}
    (h : file.opened fs = .ok (place, bytes)) :
    (read fs file).result
      = .ok (.ofItems file.name (items file.name place (Xml.Reading.ofBytes .replace bytes))) := by
  unfold read
  simp only [h, Traced.result_bind, Traced.result_of, Traced.result_note, ok_bind]
  rfl

/-- **Everything that a consumer collects from a document** that can be opened.  What is read of it
is the beginning of the walk through a tree, and all of it if the document is sound; then no
reference is left, and no tag has a prefix.  What comes are the pairs of the leaves whose end tags
are read, in order, in whatever pieces the walk comes, although elements are emptied and thrown
away meanwhile.  A failure follows if the document is not sound. -/
theorem read_leaves (fs : Files) (file : FileSource) (place : Path) (bytes : List UInt8)
    (h : file.opened fs = .ok (place, bytes)) :
    let r := Xml.Reading.ofBytes .replace bytes
    ∃ s root, (read fs file).result = .ok s ∧ r.events <+: root.events ∧
      (∀ pieces, pieces.flatten = r.events → Memory.pairs {} pieces = leavesRead root r) ∧
      (r.isSound = true →
        r.events = root.events ∧ (∀ e ∈ r.events, e.IsAllowed .replace) ∧
        s.collect.1 = ((root.leaves 0).map Prod.snd).map .ok) ∧
      (r.isSound = false → (∀ p ∈ leavesRead root r, hasPrefix p = false) →
        s.collect.1 = (leavesRead root r).map .ok ++ [.error (malformed file.name place)]) ∧
      ((∃ p ∈ leavesRead root r, hasPrefix p = true) → .error misnamed ∈ s.collect.1) := by
  intro r
  obtain ⟨tag, attributes, ns, hbegun, hsound⟩ := Xml.exists_root .replace bytes
  refine ⟨_, _, read_of_opened h, hbegun, fun pieces => pairs_of_pieces hbegun, fun hr => ?_,
    fun hr hplain => ?_, fun hprefixed => ?_⟩
  · obtain ⟨hevents, hallowed⟩ := hsound hr
    refine ⟨hevents, hallowed, ?_⟩
    have hplain := hasPrefix_of_mem hbegun fun e he => (hallowed e he).1
    rw [Stream.collect_ofItems, items_eq hbegun hplain, if_pos hr, List.append_nil,
      leavesRead_of_events hevents]
  · rw [Stream.collect_ofItems, items_eq hbegun hplain, if_neg (Bool.eq_false_iff.1 hr)]
  · rw [Stream.collect_ofItems]
    exact misnamed_mem_items hbegun hprefixed

/-! ## Some documents -/

/-- A document of customers. -/
def customersText : String := "<r><id>1</id><c>of <name> alice </name> age<note/></c></r>"

/-- A document that stops being well formed. -/
def brokenText : String := "<r><code>A1</code><broken></r>"

/-- A document with a prefix that nothing declares. -/
def undeclaredText : String := "<r><p:a>x</p:a></r>"

/-- These documents in files. -/
def documents : Files := .ofList
  [("customers.xml", .file (.bytes customersText.toUTF8.toList)),
    ("broken.xml", .file (.bytes brokenText.toUTF8.toList)),
    ("undeclared.xml", .file (.bytes undeclaredText.toUTF8.toList))]

def customersFile : FileSource := ⟨1, "customers", "customers.xml", "."⟩

def brokenFile : FileSource := ⟨2, "broken", "broken.xml", "."⟩

def undeclaredFile : FileSource := ⟨3, "undeclared", "undeclared.xml", "."⟩

/-- The leaves of the customers, and the leaf that ends before the document breaks. -/
theorem read_leaves_documents :
    ∃ customers broken, (read documents customersFile).result = .ok customers ∧
      customers.collect.1 = [.ok ⟨"id", "1"⟩, .ok ⟨"name", "alice"⟩] ∧
      (read documents brokenFile).result = .ok broken ∧
      broken.collect.1
        = [.ok ⟨"code", "A1"⟩, .error (malformed "broken" ⟨"", ["broken.xml"]⟩)] := by
  obtain ⟨customers, root, hcustomers, -, -, hsound, -, -⟩ :=
    read_leaves documents customersFile _ customersText.toUTF8.toList rfl
  obtain ⟨broken, tree, hbroken, hbegun, -, -, hmalformed, -⟩ :=
    read_leaves documents brokenFile _ brokenText.toUTF8.toList rfl
  obtain ⟨hevents, -, hcollect⟩ := hsound (by decide +kernel)
  have hleaves : (root.leaves 0).map Prod.snd = [⟨"id", "1"⟩, ⟨"name", "alice"⟩] := by
    rw [← leavesRead_of_events hevents, leavesRead_eq (hevents ▸ List.prefix_rfl)]
    decide +kernel
  have hread : leavesRead tree (.ofBytes .replace brokenText.toUTF8.toList)
      = [⟨"code", "A1"⟩] := by
    rw [leavesRead_eq hbegun]
    decide +kernel
  rw [hread] at hmalformed
  refine ⟨customers, broken, hcustomers, ?_, hbroken,
    hmalformed (by decide +kernel) (by decide)⟩
  rw [hcollect, hleaves]
  rfl

/-- **A leaf whose prefix nothing declares** lets neither its pair nor the failure of the document
come: the stream itself fails. -/
theorem read_leaves_undeclared :
    ∃ s, (read documents undeclaredFile).result = .ok s ∧ s.collect.1 = [.error misnamed] ∧
      s.collect.1 ≠ [.ok ⟨"a", "x"⟩] ∧
      s.collect.1 ≠ [.error (malformed "undeclared" ⟨"", ["undeclared.xml"]⟩)] := by
  let place : Path := ⟨"", ["undeclared.xml"]⟩
  have hitems : items "undeclared" place (.ofBytes .replace undeclaredText.toUTF8.toList)
      = [.error misnamed] := by decide +kernel
  have hread : (read documents undeclaredFile).result = .ok (.ofItems "undeclared"
      (items "undeclared" place (.ofBytes .replace undeclaredText.toUTF8.toList))) :=
    read_of_opened rfl
  refine ⟨_, hread, ?_⟩
  rw [Stream.collect_ofItems, hitems]
  exact ⟨rfl, nofun, nofun⟩

end Leaves

end Crosswalk
