import Crosswalk.Mapping.Document
import Crosswalk.Proofs.Sequence
import Crosswalk.Proofs.Xml.Reading
import Crosswalk.Xml.File

/-!
# The grammar of mapping documents

Which documents are mapping documents can be said without walking through them: the root holds edges
only, and an edge holds the fields of a record, each at a place of its own.  Walking through a
document comes to the same, and up to the first edge that is none it delivers the records of edges.

* `IsEdge`, `edgeRecord` — **an edge, and its record**, in terms of the elements below it.
* `enter?` — what one element of an edge adds to the fields.  `enterAll?_eq_some` says when all
  can be added, and what they add.
* `deliver_below`, `deliver_edges` — the walk through what is below an edge, and below the root.
* **`read_eq_edges`** — the records of a document.
-/

namespace Crosswalk.MappingDocument

/-! ## Edges -/

/-- An element below an edge: the tag around it, its own tag, and its own text without the blanks
around it. -/
structure Slot where
  around : String
  tag : String
  text : String
  deriving DecidableEq, Repr

mutual

/-- The elements of a node, in the order in which they end. -/
def slotsIn (around : String) : Xml.Node → List Slot
  | .element tag _ ns => slotsInAll tag ns ++ [⟨around, tag, trim (Xml.leadingText ns)⟩]
  | _ => []

/-- The elements of several nodes, node by node. -/
def slotsInAll (around : String) : List Xml.Node → List Slot
  | [] => []
  | n :: ns => slotsIn around n ++ slotsInAll around ns

end

/-- The values of fields that stand in some elements, in their order. -/
def valuesIn (slots : List Slot) : Fields :=
  slots.filterMap fun s => if s.text = "" then none else (fieldAt s.around s.tag).map (·, s.text)

/-- The elements below an edge. -/
def slots (n : Xml.Node) : List Slot := slotsInAll "edge" n.children

/-- The values of the fields of an edge. -/
def values (n : Xml.Node) : Fields := valuesIn (slots n)

/-- **An edge.** -/
structure IsEdge (n : Xml.Node) : Prop where
  tag : n.tag = .ok "edge"
  /-- Text stands only in fields. -/
  blank : trim n.ownText = ""
  placed : ∀ s ∈ slots n, s.text ≠ "" → (fieldAt s.around s.tag).isSome
  /-- Every element may stand where it does. -/
  allowed : ∀ s ∈ slots n, s.tag ∈ tagsInside s.around
  /-- No field has two values, and those that must have one do. -/
  once : ((values n).map Prod.fst).Nodup
  complete : ∀ f ∈ Field.required, f ∈ (values n).map Prod.fst

/-- The text of a field of an edge, which may be missing. -/
def textOf (n : Xml.Node) (f : Field) : String := ((values n).lookup f).getD ""

/-- **The record of an edge.** -/
def edgeRecord (n : Xml.Node) : MappingRecord where
  datasource := textOf n .datasource
  query := textOf n .query
  key := textOf n .key
  value := textOf n .value
  head := ⟨textOf n .headName, textOf n .headDescription, false⟩
  tail := ⟨textOf n .tailName, textOf n .tailDescription, false⟩

/-! ## Fields one by one -/

/-- **The fields with the value of one more element**, if it may stand there. -/
def enter? (fields : Fields) (s : Slot) : Option Fields :=
  if s.tag ∈ tagsInside s.around then
    if s.text = "" then some fields
    else
      match fieldAt s.around s.tag with
      | none => none
      | some f => if (fields.lookup f).isSome then none else some (fields ++ [(f, s.text)])
  else none

/-- The fields with the values of some elements. -/
def enterAll? (fields : Fields) (slots : List Slot) : Option Fields := slots.foldlM enter? fields

lemma valuesIn_append (slots more : List Slot) :
    valuesIn (slots ++ more) = valuesIn slots ++ valuesIn more := List.filterMap_append

/-- **An element that can be entered**: it may stand where it does, and has no value for a field
that has one already. -/
lemma enter?_eq_some {fields fields' : Fields} {s : Slot} (hd : (fields.map Prod.fst).Nodup) :
    enter? fields s = some fields' ↔
      (s.text ≠ "" → (fieldAt s.around s.tag).isSome) ∧ s.tag ∈ tagsInside s.around ∧
        ((fields ++ valuesIn [s]).map Prod.fst).Nodup ∧ fields ++ valuesIn [s] = fields' := by
  rw [enter?]
  by_cases hallowed : s.tag ∈ tagsInside s.around
  · rw [if_pos hallowed]
    by_cases htext : s.text = ""
    · simp [htext, hallowed, valuesIn, hd]
    · rw [if_neg htext]
      cases hfield : fieldAt s.around s.tag with
      | none => simp [htext]
      | some f =>
          have hvalues : valuesIn [s] = [(f, s.text)] := by simp [valuesIn, htext, hfield]
          have hnodup : ((fields ++ valuesIn [s]).map Prod.fst).Nodup
              ↔ ¬(fields.lookup f).isSome = true := by
            rw [isSome_lookup_iff, hvalues, List.map_append, List.nodup_append_comm]
            exact List.nodup_cons.trans (and_iff_left hd)
          rw [hnodup, hvalues]
          by_cases hgiven : (fields.lookup f).isSome <;> simp [hgiven, hallowed]
  · simp [hallowed]

/-- **Elements that can be entered**: each may stand where it does, and no field gets two values. -/
lemma enterAll?_eq_some {fields fields' : Fields} (hd : (fields.map Prod.fst).Nodup)
    {slots : List Slot} :
    enterAll? fields slots = some fields' ↔
      (∀ s ∈ slots, s.text ≠ "" → (fieldAt s.around s.tag).isSome) ∧
        (∀ s ∈ slots, s.tag ∈ tagsInside s.around) ∧
        ((fields ++ valuesIn slots).map Prod.fst).Nodup ∧ fields ++ valuesIn slots = fields' := by
  induction slots generalizing fields with
  | nil => simp [enterAll?, valuesIn, hd]
  | cons s slots ih =>
      have hsplit : fields ++ valuesIn (s :: slots)
          = (fields ++ valuesIn [s]) ++ valuesIn slots := by
        rw [List.append_assoc, ← valuesIn_append]
        rfl
      rw [hsplit, enterAll?, List.foldlM_cons, Option.bind_eq_bind, Option.bind_eq_some_iff,
        List.forall_mem_cons, List.forall_mem_cons]
      constructor
      · rintro ⟨fields₁, hs, hslots⟩
        obtain ⟨hplaced, hallowed, hd₁, rfl⟩ := (enter?_eq_some hd).1 hs
        obtain ⟨hplaced', hallowed', hrest⟩ := (ih hd₁).1 hslots
        exact ⟨⟨hplaced, hplaced'⟩, ⟨hallowed, hallowed'⟩, hrest⟩
      · rintro ⟨⟨hplaced, hplaced'⟩, ⟨hallowed, hallowed'⟩, hd', hfields⟩
        have hd₁ : ((fields ++ valuesIn [s]).map Prod.fst).Nodup := by
          rw [List.map_append] at hd'
          exact (List.nodup_append.1 hd').1
        exact ⟨_, (enter?_eq_some hd).2 ⟨hplaced, hallowed, hd₁, rfl⟩,
          (ih hd₁).2 ⟨hplaced', hallowed', hd', hfields⟩⟩

/-- All elements of an edge can be entered if each stands at a place of its own. -/
lemma enterAll?_nil {slots : List Slot} {fields : Fields} :
    enterAll? [] slots = some fields ↔
      (∀ s ∈ slots, s.text ≠ "" → (fieldAt s.around s.tag).isSome) ∧
        (∀ s ∈ slots, s.tag ∈ tagsInside s.around) ∧
        ((valuesIn slots).map Prod.fst).Nodup ∧ valuesIn slots = fields := by
  have hnil : (([] : Fields).map Prod.fst).Nodup := List.nodup_nil
  rw [enterAll?_eq_some hnil, List.nil_append]

/-! ## Walking through a document -/

section Deliver

variable {path : String} {ending : Option Error} {r r' : Reader} {e : Xml.Event}
  {es : List Xml.Event}

lemma deliver_of_ok (h : r.step path e = .ok (r', none)) :
    deliver path ending r (e :: es) = deliver path ending r' es := by
  simp only [deliver, h]

lemma deliver_of_record {record : MappingRecord} (h : r.step path e = .ok (r', some record)) :
    deliver path ending r (e :: es) =
      { deliver path ending r' es with
        records := record :: (deliver path ending r' es).records } := by
  simp only [deliver, h]

lemma deliver_of_error {failure : Error} (h : r.step path e = .error failure) :
    deliver path ending r (e :: es) = ⟨[], some failure⟩ := by
  simp only [deliver, h]

end Deliver

/-- An open element behind a node that it holds. -/
def OpenTag.passed (o : OpenTag) : Xml.Node → OpenTag
  | .text s => if o.isPlain then { o with text := o.text ++ s } else o
  | _ => { o with isPlain := false }

lemma OpenTag.tag_foldl (o : OpenTag) (ns : List Xml.Node) :
    (ns.foldl OpenTag.passed o).tag = o.tag := by
  induction ns generalizing o with
  | nil => rfl
  | cons n ns ih =>
      rw [List.foldl_cons, ih]
      cases n with
      | text s => exact apply_ite OpenTag.tag _ _ _ |>.trans (ite_self _)
      | _ => rfl

/-- **The text of an element** is what stands in front of anything else. -/
lemma OpenTag.text_foldl (o : OpenTag) (ns : List Xml.Node) :
    (ns.foldl OpenTag.passed o).text =
      if o.isPlain then o.text ++ Xml.leadingText ns else o.text := by
  induction ns generalizing o with
  | nil => simp [Xml.leadingText]
  | cons n ns ih =>
      rw [List.foldl_cons, ih]
      cases n with
      | text s =>
          by_cases hplain : o.isPlain <;>
            simp [passed, hplain, Xml.leadingText, String.append_assoc]
      | _ => simp [passed, Xml.leadingText]

/-- The reader inside of an element that has started. -/
def Reader.into (r : Reader) (tag : String) : Reader :=
  let r := r.inside fun o => { o with isPlain := false }
  if r.opened.length = 1 then ⟨⟨tag, "", true⟩ :: r.opened, some [], r.edges + 1⟩
  else { r with opened := ⟨tag, "", true⟩ :: r.opened }

lemma step_start (path : String) {tag : String} (hplain : ':' ∉ tag.toList)
    (attributes : List (String × String)) (r : Reader) :
    r.step path (.start tag attributes)
      = if r.allows tag then .ok (r.into tag, none)
        else .error (.parse (.unexpectedTag tag) (some (path ++ ":" ++ r.trail tag))) := by
  have hcolon : tag.toList.contains ':' = false := by simpa using hplain
  rw [Reader.step, Reader.start, hcolon, if_neg Bool.false_ne_true]
  cases r.allows tag with
  | false => rfl
  | true =>
      rw [Bool.not_true, if_neg Bool.false_ne_true, if_pos rfl, Reader.into]
      simp only
      split <;> rfl

/-- The end of an element that is no edge. -/
lemma step_stop (path : String) (o : OpenTag) {others : List OpenTag}
    (hothers : others.length ≠ 1) (fields : Option Fields) (edges : Nat) :
    Reader.step path ⟨o :: others, fields, edges⟩ .stop
      = if trim o.text = "" then .ok (⟨others, fields, edges⟩, none)
        else (Reader.setField path ⟨others, fields, edges⟩ o.tag (trim o.text)).map
          (·, none) := by
  simp only [Reader.step, Reader.stop, if_neg hothers, String.isEmpty_iff]
  rfl

/-! ## Below an edge -/

/-- How a document is refused that is no mapping document. -/
def IsRefusal : Error → Prop
  | .parse _ _ => True
  | .schema _ => True
  | _ => False

/-- **What some steps of a walk come to** when they complete no record: the walk goes on with
another reader, or the document is refused. -/
def Comes (path : String) (ending : Option Error) (r : Reader) (es : List Xml.Event)
    (out : Option Reader) : Prop :=
  match out with
  | some r' => ∀ rest, deliver path ending r (es ++ rest) = deliver path ending r' rest
  | none => ∀ rest, ∃ e, IsRefusal e ∧ deliver path ending r (es ++ rest) = ⟨[], some e⟩

section Comes

variable {path : String} {ending : Option Error} {r r' : Reader} {es es' : List Xml.Event}
  {out : Option Reader}

lemma Comes.refused (h : Comes path ending r es none) (es' : List Xml.Event) :
    Comes path ending r (es ++ es') none := by
  intro rest
  rw [List.append_assoc]
  exact h (es' ++ rest)

lemma Comes.append (h : Comes path ending r es (some r')) (h' : Comes path ending r' es' out) :
    Comes path ending r (es ++ es') out := by
  cases out with
  | none =>
      intro rest
      rw [List.append_assoc, h]
      exact h' rest
  | some r'' =>
      intro rest
      rw [List.append_assoc, h, h']

lemma comes_of_ok {e : Xml.Event} (h : r.step path e = .ok (r', none)) :
    Comes path ending r [e] (some r') := fun _ => deliver_of_ok h

lemma comes_of_error {e : Xml.Event} {failure : Error} (h : r.step path e = .error failure)
    (hfailure : IsRefusal failure) : Comes path ending r [e] none :=
  fun _ => ⟨failure, hfailure, deliver_of_error h⟩

end Comes

lemma enterAll?_append (fields : Fields) (slots more : List Slot) :
    enterAll? fields (slots ++ more)
      = (enterAll? fields slots).bind fun fields' => enterAll? fields' more :=
  List.foldlM_append ..

lemma enterAll?_singleton (fields : Fields) (s : Slot) :
    enterAll? fields [s] = enter? fields s := by
  simp [enterAll?]

section Below

variable (path : String) (ending : Option Error)

/-- The start of an element below an edge. -/
lemma comes_start {tag : String} (hplain : ':' ∉ tag.toList)
    (attributes : List (String × String))
    (o o' : OpenTag) (os : List OpenTag) (fields : Fields) (edges : Nat) :
    Comes path ending ⟨o :: o' :: os, some fields, edges⟩ [.start tag attributes]
      (if tag ∈ tagsInside o.tag then
        some ⟨⟨tag, "", true⟩ :: { o with isPlain := false } :: o' :: os,
          some fields, edges⟩
      else none) := by
  have hstep := step_start path hplain attributes ⟨o :: o' :: os, some fields, edges⟩
  by_cases hallowed : tag ∈ tagsInside o.tag
  · rw [if_pos (by simpa [Reader.allows] using hallowed)] at hstep
    rw [if_pos hallowed]
    exact comes_of_ok hstep
  · rw [if_neg (by simpa [Reader.allows] using hallowed)] at hstep
    rw [if_neg hallowed]
    exact comes_of_error hstep trivial

/-- The end of an element below an edge. -/
lemma comes_stop (o o' o'' : OpenTag) (os : List OpenTag) (fields : Fields) (edges : Nat)
    (hallowed : o.tag ∈ tagsInside o'.tag) :
    Comes path ending ⟨o :: o' :: o'' :: os, some fields, edges⟩ [.stop]
      ((enter? fields ⟨o'.tag, o.tag, trim o.text⟩).map fun fields' =>
        ⟨o' :: o'' :: os, some fields', edges⟩) := by
  have hothers : (o' :: o'' :: os).length ≠ 1 := by simp
  rw [enter?, if_pos hallowed]
  split
  · next hblank =>
    refine comes_of_ok ?_
    rw [step_stop path o hothers, if_pos hblank]
  · next htext =>
    have hstep := step_stop path o hothers (some fields) edges
    rw [if_neg htext, Reader.setField] at hstep
    cases hfield : fieldAt o'.tag o.tag with
    | none =>
        simp only [List.head?_cons, Option.bind_some, hfield] at hstep
        exact comes_of_error hstep trivial
    | some f =>
        simp only [List.head?_cons, Option.bind_some, hfield] at hstep
        by_cases hgiven : (fields.lookup f).isSome
        · rw [if_pos hgiven] at hstep
          simp only [hgiven]
          exact comes_of_error hstep trivial
        · rw [if_neg hgiven] at hstep
          simp only [hgiven]
          exact comes_of_ok hstep

mutual

/-- **The walk through what is below an edge.**  It comes to the fields with the values that are
entered in the order in which the elements end, or the document is refused. -/
lemma comes_below : ∀ n : Xml.Node, (∀ e ∈ n.events, e.IsPlain) → ∀ (o o' : OpenTag)
    (os : List OpenTag) (fields : Fields) (edges : Nat),
    Comes path ending ⟨o :: o' :: os, some fields, edges⟩ n.events
      ((enterAll? fields (slotsIn o.tag n)).map fun fields' =>
        ⟨o.passed n :: o' :: os, some fields', edges⟩)
  | .element tag attributes ns, hplain, o, o', os, fields, edges => by
      rw [Xml.Node.events, List.forall_mem_cons, List.forall_mem_append] at hplain
      rw [slotsIn, enterAll?_append, Xml.Node.events, ← List.singleton_append]
      have hstart := comes_start path ending hplain.1 attributes o o' os fields edges
      by_cases hallowed : tag ∈ tagsInside o.tag
      · rw [if_pos hallowed] at hstart
        refine hstart.append ?_
        have hinside := comes_belowAll ns hplain.2.1 ⟨tag, "", true⟩ { o with isPlain := false }
          (o' :: os) fields edges
        cases hfields : enterAll? fields (slotsInAll tag ns) with
        | none =>
            rw [hfields] at hinside
            exact hinside.refused _
        | some fields' =>
            rw [hfields] at hinside
            refine hinside.append ?_
            have hstop := comes_stop path ending (ns.foldl OpenTag.passed ⟨tag, "", true⟩)
              { o with isPlain := false } o' os fields' edges
            rw [OpenTag.tag_foldl, OpenTag.text_foldl, if_pos rfl, String.empty_append] at hstop
            rw [Option.bind_some, enterAll?_singleton]
            exact hstop hallowed
      · rw [if_neg hallowed] at hstart
        have hnone : ((enterAll? fields (slotsInAll tag ns)).bind fun fields' =>
            enterAll? fields' [⟨o.tag, tag, trim (Xml.leadingText ns)⟩]) = none := by
          rw [Option.bind_eq_none_iff]
          intro fields' _
          rw [enterAll?_singleton, enter?, if_neg hallowed]
        rw [hnone]
        exact hstart.refused _
  | .text s, _, o, o', os, fields, edges => comes_of_ok rfl
  | .reference name, _, o, o', os, fields, edges => comes_of_ok rfl

/-- So does the walk through several nodes. -/
lemma comes_belowAll : ∀ ns : List Xml.Node, (∀ e ∈ Xml.Node.allEvents ns, e.IsPlain) →
    ∀ (o o' : OpenTag) (os : List OpenTag) (fields : Fields) (edges : Nat),
    Comes path ending ⟨o :: o' :: os, some fields, edges⟩ (Xml.Node.allEvents ns)
      ((enterAll? fields (slotsInAll o.tag ns)).map fun fields' =>
        ⟨ns.foldl OpenTag.passed o :: o' :: os, some fields', edges⟩)
  | [], _, o, o', os, fields, edges => fun _ => rfl
  | n :: ns, hplain, o, o', os, fields, edges => by
      rw [Xml.Node.allEvents, List.forall_mem_append] at hplain
      rw [slotsInAll, enterAll?_append, Xml.Node.allEvents]
      have hfirst := comes_below n hplain.1 o o' os fields edges
      cases hfields : enterAll? fields (slotsIn o.tag n) with
      | none =>
          rw [hfields] at hfirst
          exact hfirst.refused _
      | some fields' =>
          rw [hfields] at hfirst
          have hrest := comes_belowAll ns hplain.2 (o.passed n) o' os fields' edges
          have htag : (o.passed n).tag = o.tag := OpenTag.tag_foldl o [n]
          rw [htag] at hrest
          exact hfirst.append hrest

end

end Below

/-! ## Edges one by one -/

lemma isEdge_iff {tag : String} {attributes : List (String × String)} {ns : List Xml.Node} :
    IsEdge (.element tag attributes ns) ↔
      tag = "edge" ∧ trim (Xml.leadingText ns) = "" ∧
        ∃ fields, enterAll? [] (slotsInAll "edge" ns) = some fields ∧
          ∀ f ∈ Field.required, f ∈ fields.map Prod.fst := by
  constructor
  · intro h
    refine ⟨Except.ok.inj h.tag, h.blank, values (.element tag attributes ns), ?_, h.complete⟩
    exact enterAll?_nil.2 ⟨h.placed, h.allowed, h.once, rfl⟩
  · rintro ⟨rfl, hblank, fields, hfields, hcomplete⟩
    obtain ⟨hplaced, hallowed, honce, rfl⟩ := enterAll?_nil.1 hfields
    exact ⟨rfl, hblank, hplaced, hallowed, honce, hcomplete⟩

lemma enterAll?_of_isEdge {n : Xml.Node} (h : IsEdge n) :
    enterAll? [] (slots n) = some (values n) :=
  enterAll?_nil.2 ⟨h.placed, h.allowed, h.once, rfl⟩

/-- A field that has a value has a text. -/
lemma text_ne_of_mem {slots : List Slot} {f : Field} {text : String}
    (h : (f, text) ∈ valuesIn slots) : text ≠ "" := by
  obtain ⟨s, -, hs⟩ := List.mem_filterMap.1 h
  split at hs
  · cases hs
  · next hne =>
    obtain ⟨f', -, heq⟩ := Option.map_eq_some_iff.1 hs
    cases heq
    exact hne

lemma isEmpty_getD_lookup {slots : List Slot} (f : Field) :
    (((valuesIn slots).lookup f).getD "").isEmpty = true ↔
      f ∉ (valuesIn slots).map Prod.fst := by
  cases hlookup : (valuesIn slots).lookup f with
  | none =>
      refine iff_of_true rfl fun hmem => ?_
      have hsome := isSome_lookup_iff.2 hmem
      rw [hlookup] at hsome
      cases hsome
  | some text =>
      have hmem := mem_of_lookup hlookup
      refine iff_of_false ?_ (not_not_intro (List.mem_map_of_mem hmem))
      rw [Option.getD_some, String.isEmpty_iff]
      exact text_ne_of_mem hmem

/-- **A record is made** if no field is missing. -/
lemma recordOf_values {n : Xml.Node} (h : IsEdge n) (place : String) :
    recordOf place (values n) = .ok (edgeRecord n) := by
  have hmissing :
      (Field.required.filter fun f => (((values n).lookup f).getD "").isEmpty) = [] := by
    rw [List.filter_eq_nil_iff]
    intro f hf
    rw [values, isEmpty_getD_lookup]
    exact not_not_intro (h.complete f hf)
  rw [recordOf]
  simp only [hmissing]
  rfl

lemma recordOf_of_missing {slots : List Slot}
    (h : ¬∀ f ∈ Field.required, f ∈ (valuesIn slots).map Prod.fst) (place : String) :
    ∃ problem, recordOf place (valuesIn slots) = .error (.parse problem (some place)) := by
  have hmissing :
      (Field.required.filter fun f => (((valuesIn slots).lookup f).getD "").isEmpty) ≠ [] := by
    intro hnil
    refine h fun f hf => ?_
    have hf' := List.filter_eq_nil_iff.1 hnil f hf
    rwa [isEmpty_getD_lookup, not_not] at hf'
  rw [recordOf]
  split
  · next hnil => exact absurd hnil hmissing
  · exact ⟨_, rfl⟩

section Edges

variable (path : String) (ending : Option Error)

/-- The walk into an element below the root, up to its end. -/
lemma comes_edge (attributes : List (String × String)) {ns : List Xml.Node}
    (hplain : ∀ e ∈ Xml.Node.allEvents ns, e.IsPlain) (o : OpenTag) (edges : Nat) :
    Comes path ending ⟨[o], none, edges⟩ (.start "edge" attributes :: Xml.Node.allEvents ns)
      ((enterAll? [] (slotsInAll "edge" ns)).map fun fields =>
        ⟨[ns.foldl OpenTag.passed ⟨"edge", "", true⟩, { o with isPlain := false }],
          some fields, edges + 1⟩) := by
  have hstart : Comes path ending ⟨[o], none, edges⟩ [.start "edge" attributes]
      (some ⟨[⟨"edge", "", true⟩, { o with isPlain := false }], some [], edges + 1⟩) :=
    comes_of_ok (step_start path (by decide) attributes _)
  exact hstart.append (comes_belowAll path ending ns hplain _ _ _ _ _)

/-- The end of an edge. -/
lemma step_stop_edge (o o' : OpenTag) (fields : Fields) (edges : Nat) :
    ∃ place, Reader.step path ⟨[o, o'], some fields, edges⟩ .stop
      = if trim o.text = "" then
          recordOf place fields >>= fun record => .ok (⟨[o'], none, edges⟩, some record)
        else .error (.parse (.unexpectedText (trim o.text)) (some place)) := by
  refine ⟨Reader.place ⟨[o'], some fields, edges⟩ path, ?_⟩
  simp only [Reader.step, Reader.stop, String.isEmpty_iff]
  rfl

/-- **The walk through an edge** delivers its record. -/
lemma deliver_edge {n : Xml.Node} (hplain : ∀ e ∈ n.events, e.IsPlain) (h : IsEdge n)
    (o : OpenTag) (edges : Nat) (rest : List Xml.Event) :
    deliver path ending ⟨[o], none, edges⟩ (n.events ++ rest) =
      { deliver path ending ⟨[o.passed n], none, edges + 1⟩ rest with
        records :=
          edgeRecord n ::
            (deliver path ending ⟨[o.passed n], none, edges + 1⟩ rest).records } := by
  cases n with
  | element tag attributes ns =>
      obtain rfl : tag = "edge" := Except.ok.inj h.tag
      rw [Xml.Node.events, List.forall_mem_cons, List.forall_mem_append] at hplain
      have hinside := comes_edge path ending attributes hplain.2.1 o edges
      have hfields : enterAll? [] (slotsInAll "edge" ns) = some (values _) := enterAll?_of_isEdge h
      rw [hfields] at hinside
      obtain ⟨place, hstop⟩ :=
        step_stop_edge path (ns.foldl OpenTag.passed ⟨"edge", "", true⟩)
        { o with isPlain := false } (values (.element "edge" attributes ns)) (edges + 1)
      have hblank : trim (Xml.leadingText ns) = "" := h.blank
      rw [OpenTag.text_foldl, if_pos rfl, String.empty_append, if_pos hblank, recordOf_values h,
        ok_bind] at hstop
      rw [Xml.Node.events, ← List.cons_append, List.append_assoc, hinside]
      exact deliver_of_record hstop
  | text s => cases h.tag
  | reference name => cases h.tag

/-- **The walk through any other element** below the root ends there. -/
lemma comes_of_not_isEdge {tag : String} {attributes : List (String × String)} {ns : List Xml.Node}
    (hplain : ∀ e ∈ (Xml.Node.element tag attributes ns).events, e.IsPlain)
    (h : ¬IsEdge (.element tag attributes ns)) (o : OpenTag) (edges : Nat) :
    Comes path ending ⟨[o], none, edges⟩ (Xml.Node.element tag attributes ns).events none := by
  rw [Xml.Node.events, List.forall_mem_cons, List.forall_mem_append] at hplain
  rw [Xml.Node.events]
  by_cases htag : tag = "edge"
  · subst htag
    rw [← List.cons_append]
    have hinside := comes_edge path ending attributes hplain.2.1 o edges
    cases hfields : enterAll? [] (slotsInAll "edge" ns) with
    | none =>
        rw [hfields] at hinside
        exact hinside.refused _
    | some fields =>
        rw [hfields] at hinside
        refine hinside.append ?_
        obtain ⟨place, hstop⟩ :=
          step_stop_edge path (ns.foldl OpenTag.passed ⟨"edge", "", true⟩)
          { o with isPlain := false } fields (edges + 1)
        rw [OpenTag.text_foldl, if_pos rfl, String.empty_append] at hstop
        by_cases hblank : trim (Xml.leadingText ns) = ""
        · have hmissing : ¬∀ f ∈ Field.required, f ∈ fields.map Prod.fst := by
            intro hcomplete
            exact h (isEdge_iff.2 ⟨rfl, hblank, fields, hfields, hcomplete⟩)
          obtain ⟨-, -, -, rfl⟩ := enterAll?_nil.1 hfields
          obtain ⟨problem, hrecord⟩ := recordOf_of_missing hmissing place
          rw [if_pos hblank, hrecord] at hstop
          exact comes_of_error hstop trivial
        · rw [if_neg hblank] at hstop
          exact comes_of_error hstop trivial
  · rw [← List.singleton_append]
    have hstart := step_start path hplain.1 attributes ⟨[o], none, edges⟩
    rw [if_neg (by simpa [Reader.allows] using htag)] at hstart
    exact (comes_of_error hstart trivial).refused _

end Edges

/-! ## Documents -/

instance (n : Xml.Node) : Decidable (IsEdge n) :=
  decidable_of_iff
    (n.tag.toOption = some "edge" ∧ trim n.ownText = "" ∧
      (∀ s ∈ slots n, s.text ≠ "" → (fieldAt s.around s.tag).isSome) ∧
      (∀ s ∈ slots n, s.tag ∈ tagsInside s.around) ∧ ((values n).map Prod.fst).Nodup ∧
      ∀ f ∈ Field.required, f ∈ (values n).map Prod.fst)
    ⟨fun ⟨htag, hblank, hplaced, hallowed, honce, hcomplete⟩ =>
      ⟨ok_of_toOption htag, hblank, hplaced, hallowed, honce, hcomplete⟩,
    fun h => ⟨by rw [h.tag]; rfl, h.blank, h.placed, h.allowed, h.once, h.complete⟩⟩

/-- The elements among some nodes. -/
def elementsOf (ns : List Xml.Node) : List Xml.Node :=
  ns.filter fun
    | .element _ _ _ => true
    | _ => false

/-- **The edges in front of the first element that is none.** -/
def leadingEdges (ns : List Xml.Node) : List Xml.Node :=
  (elementsOf ns).takeWhile fun n => decide (IsEdge n)

/-- **The walk through what is below the root** delivers the records of edges, up to the first
element that is none. -/
lemma deliver_edges (path : String) (ending : Option Error) {ns : List Xml.Node}
    (hplain : ∀ e ∈ Xml.Node.allEvents ns, e.IsPlain) (o : OpenTag) (edges : Nat)
    (rest : List Xml.Event) :
    ((∀ n ∈ elementsOf ns, IsEdge n) ∧ ∃ edges' d,
        d = deliver path ending ⟨[ns.foldl OpenTag.passed o], none, edges'⟩ rest ∧
        deliver path ending ⟨[o], none, edges⟩ (Xml.Node.allEvents ns ++ rest)
          = ⟨(leadingEdges ns).map edgeRecord ++ d.records, d.failure⟩) ∨
      (¬∀ n ∈ elementsOf ns, IsEdge n) ∧ ∃ e, IsRefusal e ∧
        deliver path ending ⟨[o], none, edges⟩ (Xml.Node.allEvents ns ++ rest)
          = ⟨(leadingEdges ns).map edgeRecord, some e⟩ := by
  induction ns generalizing o edges with
  | nil => exact Or.inl ⟨nofun, edges, _, rfl, rfl⟩
  | cons n ns ih =>
      rw [Xml.Node.allEvents, List.forall_mem_append] at hplain
      rw [Xml.Node.allEvents, List.append_assoc]
      cases n with
      | element tag attributes ns' =>
          have helements : elementsOf (.element tag attributes ns' :: ns)
              = .element tag attributes ns' :: elementsOf ns := rfl
          rw [leadingEdges, helements, List.forall_mem_cons, List.takeWhile_cons]
          by_cases hedge : IsEdge (.element tag attributes ns')
          · rw [if_pos (decide_eq_true hedge), List.map_cons,
              deliver_edge path ending hplain.1 hedge]
            rcases ih hplain.2 (o.passed (.element tag attributes ns')) (edges + 1) with
              ⟨hall, edges', d, hd, hdeliver⟩ | ⟨hnot, e, he, hdeliver⟩
            · exact Or.inl ⟨⟨hedge, hall⟩, edges', d, hd, by rw [hdeliver]; rfl⟩
            · exact Or.inr ⟨fun h => hnot h.2, e, he, by rw [hdeliver]; rfl⟩
          · rw [if_neg (by simpa using hedge)]
            obtain ⟨e, he, hdeliver⟩ :=
              comes_of_not_isEdge path ending hplain.1 hedge o edges (Xml.Node.allEvents ns ++ rest)
            exact Or.inr ⟨fun h => hedge h.1, e, he, hdeliver⟩
      | text s => exact ih hplain.2 (o.passed (.text s)) edges
      | reference name => exact ih hplain.2 (o.passed (.reference name)) edges

/-- **The end of the root**, at which only its text is left to look at. -/
lemma deliver_end (path : String) (o : OpenTag) (edges : Nat) :
    (trim o.text = "" ∧ deliver path none ⟨[o], none, edges⟩ [.stop] = ⟨[], none⟩) ∨
      trim o.text ≠ "" ∧ ∃ e, IsRefusal e ∧
        deliver path none ⟨[o], none, edges⟩ [.stop] = ⟨[], some e⟩ := by
  have hnone : ([] : List OpenTag).length ≠ 1 := Nat.zero_ne_one
  have hstop := step_stop path o hnone none edges
  by_cases hblank : trim o.text = ""
  · rw [if_pos hblank] at hstop
    exact Or.inl ⟨hblank, deliver_of_ok hstop⟩
  · rw [if_neg hblank] at hstop
    exact Or.inr ⟨hblank, comes_of_error hstop trivial []⟩

/-- **The records of a mapping document.**  A document is read to its end if and only if its root
has no text and holds nothing but edges.  Whether it is or not, the records that are delivered are
those of the edges in front of the first element that is none; and if it is not, the document is
refused for its form, or for a field that is given twice. -/
theorem read_eq_edges {files : Files} {path : Path} {root : Xml.Node}
    (h : Xml.readDocument files path = .ok root) :
    ((read files path).failure = none ↔
        trim root.ownText = "" ∧ ∀ n ∈ elementsOf root.children, IsEdge n) ∧
      (read files path).records = (leadingEdges root.children).map edgeRecord ∧
      ∀ e, (read files path).failure = some e → IsRefusal e := by
  obtain ⟨bytes, hbytes, hsound, hevents, hplain, tag, attributes, ns, rfl⟩ :=
    Xml.readDocument_eq_ok h
  rw [Xml.Node.events, List.forall_mem_cons, List.forall_mem_append] at hplain
  have hread : read files path = deliver path.text none ⟨[⟨tag, "", true⟩], none, 0⟩
      (Xml.Node.allEvents ns ++ [.stop]) := by
    rw [read, hbytes]
    simp only [ofBytes, hsound, if_true, hevents, Xml.Node.events]
    exact deliver_of_ok (step_start path.text hplain.1 attributes {})
  have htext : (ns.foldl OpenTag.passed ⟨tag, "", true⟩).text = Xml.leadingText ns := by
    rw [OpenTag.text_foldl, if_pos rfl, String.empty_append]
  rw [hread, Xml.Node.ownText, Xml.Node.children]
  rcases deliver_edges path.text none hplain.2.1 ⟨tag, "", true⟩ 0 [.stop] with
    ⟨hall, edges, d, hd, hdeliver⟩ | ⟨hnot, e, he, hdeliver⟩
  · rw [hdeliver]
    rcases deliver_end path.text (ns.foldl OpenTag.passed ⟨tag, "", true⟩) edges with
      ⟨hblank, hend⟩ | ⟨htail, e, he, hend⟩
    · rw [htext] at hblank
      rw [hd, hend]
      exact ⟨iff_of_true rfl ⟨hblank, hall⟩, List.append_nil _,
        fun e he => absurd he.symm (Option.some_ne_none e)⟩
    · rw [htext] at htail
      rw [hd, hend]
      refine ⟨iff_of_false (Option.some_ne_none e) fun h => htail h.1, List.append_nil _, ?_⟩
      rintro _ ⟨⟩
      exact he
  · rw [hdeliver]
    refine ⟨iff_of_false (Option.some_ne_none e) fun h => hnot h.2, rfl, ?_⟩
    rintro _ ⟨⟩
    exact he

/-- A document with an edge, and with another one that lacks its fields. -/
def cityText : String :=
  "<edges><edge><headnode><name>City</name></headnode><tailnode><name> Region </name></tailnode>" ++
    "<datasource>geo</datasource><key>0</key><value><position>1</position></value></edge>" ++
    "<edge><query/></edge></edges>"

/-- The root of this document. -/
def cityRoot : Xml.Node :=
  .element "edges" []
    [.element "edge" []
      [.element "headnode" [] [.element "name" [] [.text "City"]],
        .element "tailnode" [] [.element "name" [] [.text " Region "]],
        .element "datasource" [] [.text "geo"], .element "key" [] [.text "0"],
        .element "value" [] [.element "position" [] [.text "1"]]],
      .element "edge" [] [.element "query" [] []]]

/-- The first edge is delivered, and the second one is where reading ends. -/
theorem read_eq_edges_cityRoot :
    let files : Files := { entries := [(["cities.xml"], .file (.bytes cityText.toUTF8.toList))] }
    let path : Path := ⟨"", ["cities.xml"]⟩
    Xml.readDocument files path = .ok cityRoot ∧ (read files path).failure ≠ none ∧
      (read files path).records
        = [⟨⟨"geo", "", "0", "1"⟩, ⟨"City", "", false⟩,
          ⟨"Region", "", false⟩⟩] := by
  intro files path
  have hroot : Xml.readDocument files path = .ok cityRoot :=
    Xml.readDocument_of_events rfl (by decide +kernel)
  obtain ⟨hfailure, hrecords, -⟩ := read_eq_edges hroot
  refine ⟨hroot, ?_, ?_⟩
  · rw [Ne, hfailure]
    decide +kernel
  · rw [hrecords]
    decide +kernel

end Crosswalk.MappingDocument
