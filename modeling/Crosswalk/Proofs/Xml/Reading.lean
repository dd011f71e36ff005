import Mathlib.Data.List.TakeWhile
import Crosswalk.Proofs.Xml.Walk
import Crosswalk.Xml.File

/-!
# What reading brings

A document in which nothing is found wrong is one element, whatever its characters are.  What
reading has brought at any time is a walk that is under way; the elements that are open on it are
those that reading keeps on its stack.  So where reading stops, the walk is the beginning of one
through an element.

* `Progress.Stands` — **the invariant**: the walk so far, and what a sound document may hold.
* `Stands.startTag?`, `piece_keeps` — what a start tag and what any piece of content make of it.
* `content_reaches` — what content comes to, piece by piece.
* **`exists_root`** — the walk of a document as far as it is read.
* `exists_root_of_isSound` — the walk of a document in which nothing is wrong.
-/

namespace Crosswalk.Xml

/-- A step that starts no element with a prefix. -/
def Event.IsPlain : Event → Prop
  | .start tag _ => ':' ∉ tag.toList
  | _ => True

/-- A step that a sound document may hold.  Where references are to be replaced, none is left. -/
def Event.IsAllowed (expansion : Expansion) (e : Event) : Prop :=
  e.IsPlain ∧ (expansion = .replace → ∀ name, e ≠ .reference name)

lemma Event.isAllowed_start (expansion : Expansion) {tag : String} (h : ':' ∉ tag.toList)
    (attributes : List (String × String)) : (Event.start tag attributes).IsAllowed expansion :=
  ⟨h, fun _ _ => nofun⟩

lemma Event.isAllowed_text (expansion : Expansion) (s : String) : (text s).IsAllowed expansion :=
  ⟨trivial, fun _ _ => nofun⟩

lemma Event.isAllowed_stop (expansion : Expansion) : stop.IsAllowed expansion :=
  ⟨trivial, fun _ _ => nofun⟩

/-! ## Names -/

/-- The part of a name behind its prefix has no colon. -/
lemma notMem_part {name : String} {q : QualifiedName} (h : QualifiedName.ofName? name = some q) :
    ':' ∉ q.part.toList := by
  rw [QualifiedName.ofName?] at h
  split at h
  · next hnone =>
    cases h
    rw [List.dropWhile_eq_nil_iff] at hnone
    intro hmem
    simpa using hnone _ hmem
  · cases h
  · split at h
    · split at h
      · next hplain =>
        cases h
        simp only [Bool.and_eq_true, Bool.not_eq_true', List.contains_eq_mem,
          decide_eq_false_iff_not] at hplain
        simpa using hplain.2
      · cases h
    · cases h

/-- The name of an element whose prefix is declared has no prefix. -/
lemma notMem_localName {scope : Scope} {name : String} (h : (localName scope name).2 = true) :
    ':' ∉ (localName scope name).1.toList := by
  rw [localName] at h ⊢
  split
  · next hname => exact notMem_part hname
  · next q part hname =>
    rw [hname] at h
    simp only at h
    split
    · exact notMem_part hname
    · next hscope =>
      rw [if_neg hscope] at h
      cases h
  · next hname =>
    rw [hname] at h
    cases h

namespace Progress

/-! ## The invariant -/

/-- **What reading has brought**, with the number of elements that are open. -/
structure Stands (p : Progress) (expansion : Expansion) (depth : Nat) : Prop where
  walk : Walk depth p.events.reverse
  allowed : p.qualified = true → ∀ e ∈ p.events, e.IsAllowed expansion

/-- What reading has brought when no element is open any more. -/
structure Whole (p : Progress) (expansion : Expansion) : Prop where
  root : ∃ tag attributes ns, p.events.reverse = (Node.element tag attributes ns).events
  allowed : p.qualified = true → ∀ e ∈ p.events, e.IsAllowed expansion

/-- What reading has brought at the end of content. -/
def Ends (p : Progress) (expansion : Expansion) (base : Nat) : Prop :=
  if base = 0 then p.Whole expansion else p.Stands expansion base

/-- What reading has brought behind content, if it has come to its end, or if it has not. -/
def Reaches (p : Progress) (expansion : Expansion) (base : Nat) : Option (List Char) → Prop
  | some _ => p.Ends expansion base
  | none => ∃ depth, p.Stands expansion depth

variable {expansion : Expansion} {p q : Progress} {depth : Nat}

/-- One more step. -/
lemma Stands.add {e : Event} {depth' : Nat} (h : p.Stands expansion depth)
    (hq : q.events = e :: p.events) (hwalk : Walk depth' (p.events.reverse ++ [e]))
    (hallowed : q.qualified = true → p.qualified = true ∧ e.IsAllowed expansion) :
    q.Stands expansion depth' := by
  refine ⟨?_, fun hqualified => ?_⟩
  · rw [hq, List.reverse_cons]
    exact hwalk
  · rw [hq, List.forall_mem_cons]
    exact ⟨(hallowed hqualified).2, h.allowed (hallowed hqualified).1⟩

lemma Stands.addText (h : p.Stands expansion depth) (cs : List Char) :
    (p.addText cs).Stands expansion depth := by
  rw [Progress.addText]
  split
  · exact h
  · exact h.add rfl (h.walk.node (.text _)) fun hq => ⟨hq, Event.isAllowed_text _ _⟩

lemma Stands.addReference (h : p.Stands expansion depth) (name : String) {b : Bool}
    (hb : b = true → p.qualified = true ∧ expansion ≠ .replace) :
    Stands { p.add (.reference name) with qualified := b } expansion depth :=
  h.add rfl (h.walk.node (.reference name)) fun hq =>
    ⟨(hb hq).1, trivial, fun hreplace => absurd hreplace (hb hq).2⟩

/-- The progress with another judgement, which is no milder. -/
lemma Stands.withQualified (h : p.Stands expansion depth) {b : Bool}
    (hb : b = true → p.qualified = true) (n : Nat) :
    Stands ⟨p.events, b, n⟩ expansion depth :=
  ⟨h.walk, fun hq => h.allowed (hb hq)⟩

/-- Behind a reference, its text is read or the reference is left. -/
lemma Stands.behindEntity (h : p.Stands expansion depth) (name : String)
    (hinside : q.Stands expansion depth) (hq : q.qualified = true → p.qualified = true) :
    let behind := if expansion = .replace then q
      else { p.add (.reference name) with qualified := q.qualified }
    behind.Stands expansion depth ∧ (behind.qualified = true → p.qualified = true) := by
  intro behind
  by_cases hreplace : expansion = .replace
  · simp only [behind, if_pos hreplace]
    exact ⟨hinside, hq⟩
  · simp only [behind, if_neg hreplace]
    exact ⟨h.addReference name fun hqualified => ⟨hq hqualified, hreplace⟩, hq⟩

lemma addText_qualified (p : Progress) (cs : List Char) :
    (p.addText cs).qualified = p.qualified := by
  rw [Progress.addText]
  split <;> rfl

/-- **The end of an element**, which may be that of the root. -/
lemma Stands.addStop (h : p.Stands expansion (depth + 1)) : (p.add .stop).Ends expansion depth := by
  have hallowed : (p.add .stop).qualified = true →
      ∀ e ∈ (p.add .stop).events, e.IsAllowed expansion := by
    intro hq
    exact List.forall_mem_cons.2 ⟨Event.isAllowed_stop _, h.allowed hq⟩
  rcases h.walk.stop with ⟨hdepth, tag, attributes, ns, hroot⟩ | ⟨outer, hdepth, hwalk⟩
  · rw [Ends, if_pos (by omega)]
    refine ⟨⟨tag, attributes, ns, ?_⟩, hallowed⟩
    rw [← hroot, Progress.add, List.reverse_cons]
  · obtain rfl : depth = outer := by omega
    have hpos := hwalk.pos
    rw [Ends, if_neg (by omega)]
    refine ⟨?_, hallowed⟩
    rw [Progress.add, List.reverse_cons]
    exact hwalk

end Progress

/-! ## Start tags -/

/-- **What a start tag brings**: the start of an element, and its end too if it is empty. -/
lemma startTag?_eq_some {d : Declarations} {fuel : Nat} {scope inner : Scope}
    {opened opened' : List OpenTag} {p q : Progress} {cs rest : List Char}
    (h : startTag? d fuel scope opened p cs = some (q, opened', inner, rest)) :
    ∃ tag attributes, (q.qualified = true → p.qualified = true ∧ ':' ∉ tag.toList) ∧
      ((opened' = opened ∧ q.events = .stop :: .start tag attributes :: p.events) ∨
        ∃ o, opened' = o :: opened ∧ q.events = .start tag attributes :: p.events) := by
  rw [startTag?] at h
  simp only [Option.bind_eq_bind, Option.bind_eq_some_iff, Prod.exists] at h
  obtain ⟨name, behind, -, given, closed, after, -, h⟩ := h
  split at h
  · cases h
  · simp only [Progress.add] at h
    split at h
    · cases h
      refine ⟨_, _, fun hq => ?_, Or.inl ⟨rfl, rfl⟩⟩
      simp only [Bool.and_eq_true] at hq
      exact ⟨hq.1, notMem_localName hq.2.1.2⟩
    · cases h
      refine ⟨_, _, fun hq => ?_, Or.inr ⟨_, rfl, rfl⟩⟩
      simp only [Bool.and_eq_true] at hq
      exact ⟨hq.1, notMem_localName hq.2.1.2⟩

/-- A start tag inside of an element. -/
lemma Progress.Stands.startTag? {d : Declarations} {expansion : Expansion} {fuel : Nat}
    {scope inner : Scope} {opened opened' : List OpenTag} {p q : Progress} {cs rest : List Char}
    (hp : p.Stands expansion opened.length)
    (h : Xml.startTag? d fuel scope opened p cs = some (q, opened', inner, rest)) :
    q.Stands expansion opened'.length ∧ opened.length ≤ opened'.length ∧
      (q.qualified = true → p.qualified = true) := by
  obtain ⟨tag, attributes, hplain, ⟨rfl, hevents⟩ | ⟨o, rfl, hevents⟩⟩ :=
    startTag?_eq_some h
  · refine ⟨⟨?_, fun hq => ?_⟩, le_refl _, fun hq => (hplain hq).1⟩
    · rw [hevents]
      simpa [Node.events_element] using hp.walk.node (.element tag attributes [])
    · rw [hevents, List.forall_mem_cons, List.forall_mem_cons]
      exact ⟨Event.isAllowed_stop _, Event.isAllowed_start _ (hplain hq).2 _,
        hp.allowed (hplain hq).1⟩
  · refine ⟨hp.add hevents (hp.walk.start tag attributes) fun hq => ⟨(hplain hq).1,
      Event.isAllowed_start _ (hplain hq).2 _⟩, ?_, fun hq => (hplain hq).1⟩
    simp

/-! ## Content -/

/-- **What a piece of content makes of the invariant.**  Nothing that was wrong is forgotten. -/
def Piece.Keeps (expansion : Expansion) (base : Nat) (p : Progress) : Piece → Prop
  | broken | entity _ _ _ => True
  | whole q _ => q.Ends expansion base ∧ (q.qualified = true → p.qualified = true)
  | onward _ opened q _ => q.Stands expansion opened.length ∧ base ≤ opened.length ∧
      (q.qualified = true → p.qualified = true)

section Pieces

variable {d : Declarations} {expansion : Expansion} {base : Nat} {scope : Scope}
  {opened : List OpenTag} {p : Progress}

/-- End tags, that of the root among them. -/
lemma endTag_keeps (hp : p.Stands expansion opened.length) (cs : List Char) :
    (endTag base opened p cs).Keeps expansion base p := by
  unfold endTag
  split
  · next o others name after _ =>
    split
    · split
      · next hok =>
        split
        · next hnil =>
          obtain rfl : others = [] := List.isEmpty_iff.1 hnil
          obtain rfl : base = 0 := Nat.lt_one_iff.1 hok.2
          exact ⟨hp.addStop, id⟩
        · next hne =>
          have hopen : others.length ≠ 0 := fun heq => hne (List.isEmpty_iff_length_eq_zero.2 heq)
          have hstands : (p.add .stop).Stands expansion others.length := by
            simpa only [Progress.Ends, if_neg hopen] using hp.addStop
          exact ⟨hstands, Nat.lt_succ_iff.1 hok.2, id⟩
      · trivial
    · trivial
  · trivial

lemma addText_keeps (hp : p.Stands expansion opened.length) (hbase : base ≤ opened.length)
    (run rest : List Char) :
    (Piece.onward scope opened (p.addText run) rest).Keeps expansion base p :=
  ⟨hp.addText run, hbase, fun hq => p.addText_qualified run ▸ hq⟩

lemma commentOrSection_keeps (hp : p.Stands expansion opened.length)
    (hbase : base ≤ opened.length) (cs : List Char) :
    (commentOrSection scope opened p cs).Keeps expansion base p := by
  unfold commentOrSection
  split
  · split
    · exact ⟨hp, hbase, id⟩
    · trivial
  · split
    · exact addText_keeps hp hbase _ _
    · trivial
  · trivial

lemma referencePiece_keeps (hp : p.Stands expansion opened.length) (hbase : base ≤ opened.length)
    (cs : List Char) : (referencePiece d expansion scope opened p cs).Keeps expansion base p := by
  unfold referencePiece
  split
  · trivial
  · exact addText_keeps hp hbase _ _
  · next name _ _ =>
    split
    · split
      · have hkeep : (p.qualified && decide (expansion = .keep)) = true →
            p.qualified = true ∧ expansion ≠ .replace := by
          intro hq
          rw [Bool.and_eq_true, decide_eq_true_eq] at hq
          exact ⟨hq.1, by rw [hq.2]; decide⟩
        exact ⟨hp.addReference name hkeep, hbase, fun hq => (hkeep hq).1⟩
      · trivial
    · trivial
    · split
      · trivial
      · next hkeep => exact ⟨hp.addReference name fun hq => ⟨hq, hkeep⟩, hbase, id⟩
    · trivial

/-- An element that begins inside of another one is not the root. -/
lemma startTag?_keeps {fuel : Nat} {inner : Scope} {opened' : List OpenTag} {q : Progress}
    {cs rest : List Char} (hp : p.Stands expansion opened.length) (hbase : base ≤ opened.length)
    (h : startTag? d fuel scope opened p cs = some (q, opened', inner, rest)) :
    (if opened'.isEmpty then Piece.whole q rest else .onward inner opened' q rest).Keeps
      expansion base p := by
  obtain ⟨hstands, hlength, hmono⟩ := hp.startTag? h
  split
  · next hnil =>
    rw [List.isEmpty_iff.1 hnil] at hstands
    exact absurd hstands.walk.pos (Nat.lt_irrefl 0)
  · exact ⟨hstands, hbase.trans hlength, hmono⟩

/-- **Every piece of content keeps the invariant.** -/
lemma piece_keeps {fuel : Nat} (hp : p.Stands expansion opened.length)
    (hbase : base ≤ opened.length) (cs : List Char) :
    (piece d expansion fuel base scope opened p cs).Keeps expansion base p := by
  unfold piece
  split
  · exact endTag_keeps hp _
  · exact commentOrSection_keeps hp hbase _
  · split
    · next plain _ _ =>
      have hplain : (p.qualified && plain) = true → p.qualified = true :=
        fun hq => (Bool.and_eq_true_iff.1 hq).1
      exact ⟨hp.withQualified hplain _, hbase, hplain⟩
    · trivial
  · split
    · trivial
    · next hstart => exact startTag?_keeps hp hbase hstart
  · exact referencePiece_keeps hp hbase _
  · dsimp only
    split
    · exact addText_keeps hp hbase _ _
    · trivial

end Pieces

/-- **Content that is read to its end** leaves as many elements open as it should; where reading
stops before, the walk is still under way. -/
lemma content_reaches {d : Declarations} {expansion : Expansion} {fuel base : Nat}
    {active : List String} {scope : Scope} {opened : List OpenTag} {p q : Progress}
    {cs : List Char} {after : Option (List Char)}
    (h : content d expansion fuel base active scope opened p cs = (q, after))
    (hp : p.Stands expansion opened.length) (hbase : base ≤ opened.length) :
    q.Reaches expansion base after ∧ (q.qualified = true → p.qualified = true) := by
  induction fuel generalizing base active scope opened p q cs after with
  | zero =>
      cases h
      exact ⟨⟨_, hp⟩, id⟩
  | succ fuel ih =>
      rw [content] at h
      split at h
      · -- the text of an entity has come to its end, or content is missing
        split at h
        · next hend =>
          cases h
          rw [Progress.Reaches, Progress.Ends, if_neg hend.2]
          exact ⟨hend.1 ▸ hp, id⟩
        · cases h
          exact ⟨⟨_, hp⟩, id⟩
      · have hpiece : (piece d expansion fuel base scope opened p cs).Keeps expansion base p :=
          piece_keeps hp hbase cs
        cases hcase : piece d expansion fuel base scope opened p cs with
        | broken =>
            rw [hcase] at h
            cases h
            exact ⟨⟨_, hp⟩, id⟩
        | whole p' rest =>
            rw [hcase] at h hpiece
            cases h
            exact hpiece
        | onward scope' opened' p' rest =>
            rw [hcase] at h hpiece
            obtain ⟨hstands, hbase', hmono⟩ := hpiece
            obtain ⟨hends, hq⟩ := ih h hstands hbase'
            exact ⟨hends, fun hqualified => hmono (hq hqualified)⟩
        | entity name text rest =>
            rw [hcase] at h
            dsimp only at h
            split at h
            · cases h
              exact ⟨⟨_, hp⟩, id⟩
            · split at h
              · next hinside =>
                obtain ⟨hstopped, hmono⟩ := ih hinside (hp.withQualified id _) (le_refl _)
                cases h
                split
                · exact ⟨hstopped, hmono⟩
                · exact ⟨⟨_, hp⟩, id⟩
              · next hinside =>
                obtain ⟨hends, hmono⟩ := ih hinside (hp.withQualified id _) (le_refl _)
                rw [Progress.Reaches, Progress.Ends, if_neg hp.walk.pos.ne'] at hends
                obtain ⟨hstands, hbehind⟩ := hp.behindEntity name hends hmono
                obtain ⟨hends', hq⟩ := ih h hstands hbase
                exact ⟨hends', fun hqualified => hbehind (hq hqualified)⟩

/-! ## Documents -/

/-- The start tag of the root. -/
lemma startTag?_root {d : Declarations} {expansion : Expansion} {fuel : Nat} {scope inner : Scope}
    {opened : List OpenTag} {p q : Progress} {cs rest : List Char} (hp : p.events = [])
    (h : startTag? d fuel scope [] p cs = some (q, opened, inner, rest)) :
    (opened = [] ∧ q.Whole expansion) ∨ (opened.length = 1 ∧ q.Stands expansion 1) := by
  obtain ⟨tag, attributes, hplain, ⟨rfl, hevents⟩ | ⟨o, rfl, hevents⟩⟩ :=
    startTag?_eq_some h
  · refine Or.inl ⟨rfl, ⟨tag, attributes, [], ?_⟩, fun hq => ?_⟩
    · simp [hevents, hp, Node.events_element]
    · rw [hevents, hp, List.forall_mem_cons, List.forall_mem_singleton]
      exact ⟨Event.isAllowed_stop _, Event.isAllowed_start _ (hplain hq).2 _⟩
  · refine Or.inr ⟨rfl, ?_, fun hq => ?_⟩
    · rw [hevents, hp]
      exact Walk.root tag attributes []
    · rw [hevents, hp, List.forall_mem_singleton]
      exact Event.isAllowed_start _ (hplain hq).2 _

/-- **What reading the characters of a document brings**: nothing, or a walk that is whole if the
document is sound. -/
lemma ofChars_reaches (expansion : Expansion) (cs : List Char) :
    Reading.ofChars expansion cs = ⟨[], false⟩ ∨
      ∃ (p : Progress) (after : Option (List Char)), p.Reaches expansion 0 after ∧
        (Reading.ofChars expansion cs).events = p.events.reverse ∧
        ((Reading.ofChars expansion cs).isSound = true →
          p.qualified = true ∧ after.isSome = true) := by
  rw [Reading.ofChars]
  split
  · split
    · exact Or.inl rfl
    · next q opened _ _ hstart =>
      right
      generalize hout : (if opened.isEmpty then _ else content _ _ _ _ _ _ _ _ _) = out
      obtain ⟨p, after⟩ := out
      refine ⟨p, after, ?_, rfl, fun hsound => ?_⟩
      · rcases startTag?_root rfl hstart with ⟨hnil, hwhole⟩ | ⟨hopen, hstands⟩
        · rw [hnil, List.isEmpty_nil, if_pos rfl] at hout
          cases hout
          exact hwhole
        · rw [List.isEmpty_eq_false_iff.2 (List.ne_nil_of_length_eq_add_one hopen),
            if_neg Bool.false_ne_true] at hout
          rw [← hopen] at hstands
          exact (content_reaches hout hstands (Nat.zero_le _)).1
      · rw [Bool.and_eq_true] at hsound
        cases after with
        | none => cases hsound.2
        | some after => exact ⟨hsound.1, rfl⟩
  · exact Or.inl rfl

/-- **Every document is read as the beginning of a walk through an element**, and a document in
which nothing is wrong as the walk through it.  No tag has a prefix then, and no reference is left
that was to be replaced. -/
theorem exists_root (expansion : Expansion) (bytes : List UInt8) :
    ∃ tag attributes ns,
      (Reading.ofBytes expansion bytes).events <+: (Node.element tag attributes ns).events ∧
        ((Reading.ofBytes expansion bytes).isSound = true →
          (Reading.ofBytes expansion bytes).events = (Node.element tag attributes ns).events ∧
            ∀ e ∈ (Reading.ofBytes expansion bytes).events, e.IsAllowed expansion) := by
  have hnothing : ∃ tag attributes ns,
      ([] : List Event) <+: (Node.element tag attributes ns).events ∧
      (false = true → ([] : List Event) = (Node.element tag attributes ns).events ∧
        ∀ e ∈ ([] : List Event), e.IsAllowed expansion) :=
    ⟨"", [], [], List.nil_prefix, nofun⟩
  rw [Reading.ofBytes]
  split
  · next cs _ =>
    rcases ofChars_reaches expansion cs with hnil | ⟨p, after, hreaches, hevents, hsound⟩
    · rw [hnil]
      exact hnothing
    · rw [hevents]
      cases after with
      | some after =>
          obtain ⟨⟨tag, attributes, ns, hroot⟩, hallowed⟩ := hreaches
          refine ⟨tag, attributes, ns, hroot ▸ List.prefix_rfl,
            fun h => ⟨hroot, fun e he => ?_⟩⟩
          exact hallowed (hsound h).1 e (List.mem_reverse.1 he)
      | none =>
          obtain ⟨depth, hstands⟩ := hreaches
          obtain ⟨tag, attributes, ns, hbegun⟩ := hstands.walk.exists_root
          exact ⟨tag, attributes, ns, hbegun, fun h => nomatch (hsound h).2⟩
  · exact hnothing

/-- **A document in which nothing is wrong** is one element, and no tag in it has a prefix. -/
theorem exists_root_of_isSound {expansion : Expansion} {bytes : List UInt8}
    (h : (Reading.ofBytes expansion bytes).isSound = true) :
    ∃ tag attributes ns,
      (Reading.ofBytes expansion bytes).events = (Node.element tag attributes ns).events ∧
        ∀ e ∈ (Reading.ofBytes expansion bytes).events, e.IsPlain := by
  obtain ⟨tag, attributes, ns, -, hsound⟩ := exists_root expansion bytes
  obtain ⟨hevents, hallowed⟩ := hsound h
  exact ⟨tag, attributes, ns, hevents, fun e he => (hallowed e he).1⟩

/-- **The root of a document in a file** says all that is read. -/
theorem readDocument_eq_ok {files : Files} {path : Path} {root : Node}
    (h : readDocument files path = .ok root) :
    ∃ bytes, files.readBytes path = .ok bytes ∧ (Reading.ofBytes .keep bytes).isSound = true ∧
      (Reading.ofBytes .keep bytes).events = root.events ∧ (∀ e ∈ root.events, e.IsPlain) ∧
      ∃ tag attributes ns, root = .element tag attributes ns := by
  rw [readDocument] at h
  split at h
  · cases h
  · next bytes hbytes =>
    split at h
    · next root' hroot =>
      cases h
      rw [Reading.root?] at hroot
      split at hroot
      · next hsound =>
        obtain ⟨tag, attributes, ns, hevents, hplain⟩ := exists_root_of_isSound hsound
        rw [hevents, nodesOf_events, List.head?_cons, Option.some.injEq] at hroot
        subst hroot
        exact ⟨bytes, hbytes, hsound, hevents, hevents ▸ hplain, tag, attributes, ns, rfl⟩
      · cases hroot
    · cases h

/-- A sound document whose walk is that of a node has this node as its root. -/
lemma readDocument_of_events {files : Files} {path : Path} {bytes : List UInt8} {root : Node}
    (hbytes : files.readBytes path = .ok bytes)
    (h : ((Reading.ofBytes .keep bytes).isSound, (Reading.ofBytes .keep bytes).events)
      = (true, root.events)) :
    readDocument files path = .ok root := by
  obtain ⟨hsound, hevents⟩ := Prod.mk.inj h
  have hroot : (Reading.ofBytes .keep bytes).root? = some root := by
    rw [Reading.root?, if_pos hsound, hevents, nodesOf_events, List.head?_cons]
  rw [readDocument, hbytes]
  simp only [hroot]

end Crosswalk.Xml
