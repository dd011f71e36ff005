import Crosswalk.Proofs.Mapping.Grammar

/-!
# Stray text in mapping documents

In a mapping document text belongs into fields.  At the end of an element the reader looks at the
text in front of anything else in it, and where this is no value of a field, the document is
refused.  Text behind something else is not looked at anywhere: documents that differ in such texts
only are read alike, and one that is good otherwise is read to its end in spite of them.

* `Slot.IsStray`, `HasStrayText` — **text where no field has its value.**
* `pruned` — a document without the texts that are not looked at; `hasStrayText_pruned` says which
  stray text is left.
* `deliver_pruned` — **the walk through a document does not depend on them.**
* `Delivery.Unclashed` — no field was found twice; `deliver_edges_unclashed` says when.
* **`read_stray_text`** — what becomes of stray text.
* `read_stray_text_unseen` — a document with stray text that is not refused.
-/

namespace Crosswalk.MappingDocument

/-! ## Where text stands -/

/-- Text in front of anything else in an element that is no field. -/
def Slot.IsStray (s : Slot) : Prop := s.text ≠ "" ∧ fieldAt s.around s.tag = none

instance (s : Slot) : Decidable s.IsStray := inferInstanceAs (Decidable (_ ∧ _))

/-- All text among some nodes. -/
def textAmong : List Xml.Node → String
  | [] => ""
  | .text s :: ns => s ++ textAmong ns
  | _ :: ns => textAmong ns

/-- The text behind the first node that is none. -/
def laggingText : List Xml.Node → String
  | .text _ :: ns => laggingText ns
  | ns => textAmong ns

mutual

/-- The texts behind something else in the elements of a node, without the blanks around them. -/
def tailsIn : Xml.Node → List String
  | .element _ _ ns => tailsInAll ns ++ [trim (laggingText ns)]
  | _ => []

/-- Those in the elements of several nodes. -/
def tailsInAll : List Xml.Node → List String
  | [] => []
  | n :: ns => tailsIn n ++ tailsInAll ns

end

/-- **A document with text where no field has its value**: in an element that is no field, or behind
something else. -/
def HasStrayText (root : Xml.Node) : Prop :=
  (∃ s ∈ slotsIn "" root, s.IsStray) ∨ ∃ t ∈ tailsIn root, t ≠ ""

instance (root : Xml.Node) : Decidable (HasStrayText root) := inferInstanceAs (Decidable (_ ∨ _))

mutual

/-- **A node without the texts behind something else.** -/
def pruned : Xml.Node → Xml.Node
  | .element tag attributes ns => .element tag attributes (prunedAll true ns)
  | n => n

/-- Nodes without the texts behind something else, which may be in front of them already. -/
def prunedAll : (plain : Bool) → List Xml.Node → List Xml.Node
  | _, [] => []
  | plain, n :: ns =>
    if n.isChild then pruned n :: prunedAll false ns
    else if plain then n :: prunedAll true ns
    else prunedAll false ns

end

/-! ## What is left -/

lemma leadingText_prunedAll (ns : List Xml.Node) :
    Xml.leadingText (prunedAll true ns) = Xml.leadingText ns := by
  induction ns with
  | nil => rfl
  | cons n ns ih =>
      cases n with
      | text s => simp [prunedAll, Xml.Node.isChild, Xml.leadingText, ih]
      | _ => simp [prunedAll, Xml.Node.isChild, Xml.leadingText, pruned]

lemma textAmong_prunedAll (ns : List Xml.Node) : textAmong (prunedAll false ns) = "" := by
  induction ns with
  | nil => rfl
  | cons n ns ih => cases n <;> simpa [prunedAll, Xml.Node.isChild, textAmong, pruned] using ih

lemma laggingText_prunedAll (ns : List Xml.Node) : laggingText (prunedAll true ns) = "" := by
  induction ns with
  | nil => rfl
  | cons n ns ih =>
      cases n with
      | text s => simpa [prunedAll, Xml.Node.isChild, laggingText] using ih
      | _ => simp [prunedAll, Xml.Node.isChild, laggingText, textAmong, pruned, textAmong_prunedAll]

mutual

/-- The texts in front of anything else are left. -/
lemma slotsIn_pruned (around : String) :
    ∀ n : Xml.Node, slotsIn around (pruned n) = slotsIn around n
  | .element tag attributes ns => by
      rw [pruned, slotsIn, slotsIn, slotsInAll_prunedAll tag true ns, leadingText_prunedAll]
  | .text s => rfl
  | .reference name => rfl

lemma slotsInAll_prunedAll (around : String) (plain : Bool) :
    ∀ ns : List Xml.Node, slotsInAll around (prunedAll plain ns) = slotsInAll around ns
  | [] => rfl
  | n :: ns => by
      rw [prunedAll, slotsInAll]
      split
      · rw [slotsInAll, slotsIn_pruned around n, slotsInAll_prunedAll around false ns]
      · next htext =>
        have hnone : slotsIn around n = [] := by
          cases n with
          | element tag attributes ms => exact absurd rfl htext
          | _ => rfl
        rw [hnone, List.nil_append]
        split
        · rw [slotsInAll, hnone, List.nil_append, slotsInAll_prunedAll around true ns]
        · exact slotsInAll_prunedAll around false ns

end

mutual

/-- No text behind something else is left. -/
lemma tailsIn_pruned : ∀ n : Xml.Node, ∀ t ∈ tailsIn (pruned n), t = ""
  | .element tag attributes ns, t, ht => by
      rw [pruned, tailsIn, laggingText_prunedAll] at ht
      rcases List.mem_append.1 ht with ht | ht
      · exact tailsInAll_prunedAll true ns t ht
      · rw [List.mem_singleton.1 ht]
        rfl
  | .text s, _, ht => nomatch ht
  | .reference name, _, ht => nomatch ht

lemma tailsInAll_prunedAll : ∀ (plain : Bool) (ns : List Xml.Node),
    ∀ t ∈ tailsInAll (prunedAll plain ns), t = ""
  | _, [], _, ht => nomatch ht
  | plain, n :: ns, t, ht => by
      rw [prunedAll] at ht
      split at ht
      · rcases List.mem_append.1 ht with ht | ht
        · exact tailsIn_pruned n t ht
        · exact tailsInAll_prunedAll false ns t ht
      · next htext =>
        split at ht
        · rcases List.mem_append.1 ht with ht | ht
          · cases n with
            | element tag attributes ms => exact absurd rfl htext
            | _ => cases ht
          · exact tailsInAll_prunedAll true ns t ht
        · exact tailsInAll_prunedAll false ns t ht

end

/-- **Of stray text, that in front of anything else is left.** -/
theorem hasStrayText_pruned (root : Xml.Node) :
    HasStrayText (pruned root) ↔ ∃ s ∈ slotsIn "" root, s.IsStray := by
  rw [HasStrayText, slotsIn_pruned]
  refine or_iff_left ?_
  rintro ⟨t, ht, hne⟩
  exact hne (tailsIn_pruned root t ht)

/-! ## Text that is not looked at -/

namespace Reader

variable {path : String} {r r' : Reader} {out : Option MappingRecord}

/-- Nothing but text has come inside of the innermost element. -/
def isPlain (r : Reader) : Bool :=
  match r.opened with
  | [] => false
  | o :: _ => o.isPlain

/-- **The elements around the innermost one hold something else than text.** -/
def Nested (r : Reader) : Prop := ∀ o ∈ r.opened.tail, o.isPlain = false

lemma opened_inside (r : Reader) (f : OpenTag → OpenTag) :
    (r.inside f).opened = r.opened.modifyHead f := by
  obtain ⟨_ | ⟨o, os⟩, fields, edges⟩ := r <;> rfl

lemma Nested.inside (h : r.Nested) (f : OpenTag → OpenTag) : (r.inside f).Nested := by
  rw [Nested, opened_inside, List.tail_modifyHead]
  exact h

lemma isPlain_inside_other (r : Reader) :
    (r.inside fun o => { o with isPlain := false }).isPlain = false := by
  obtain ⟨_ | ⟨o, os⟩, fields, edges⟩ := r <;> rfl

/-- The reader behind a piece of text. -/
def behind (r : Reader) (s : String) : Reader :=
  r.inside fun o => if o.isPlain then { o with text := o.text ++ s } else o

lemma step_text (path : String) (r : Reader) (s : String) :
    r.step path (.text s) = .ok (r.behind s, none) := rfl

/-- Text behind something else changes nothing. -/
lemma behind_of_not_isPlain (h : r.isPlain = false) (s : String) : r.behind s = r := by
  obtain ⟨_ | ⟨o, os⟩, fields, edges⟩ := r
  · rfl
  · have ho : o.isPlain = false := h
    simp [behind, Reader.inside, ho]

lemma isPlain_behind (r : Reader) (s : String) : (r.behind s).isPlain = r.isPlain := by
  obtain ⟨_ | ⟨o, os⟩, fields, edges⟩ := r
  · rfl
  · exact (apply_ite OpenTag.isPlain _ _ _).trans (ite_self _)

/-- The elements that are open behind the start of one. -/
lemma opened_of_start {tag : String} (h : r.start path tag = .ok r') :
    r'.opened = ⟨tag, "", true⟩ :: r.opened.modifyHead fun o =>
      { o with isPlain := false } := by
  rw [← opened_inside]
  rw [Reader.start] at h
  split at h
  · cases h
  · split at h
    · cases h
    · dsimp only at h
      split at h <;> cases h <;> rfl

/-- The elements that are open behind the end of one. -/
lemma opened_of_stop (h : r.stop path = .ok (r', out)) : r'.opened = r.opened.tail := by
  obtain ⟨_ | ⟨o, os⟩, fields, edges⟩ := r
  · cases h
    rfl
  · simp only [Reader.stop] at h
    split at h
    · split at h
      · obtain ⟨record, -, heq⟩ := bind_eq_ok.1 h
        cases heq
        rfl
      · cases h
    · split at h
      · cases h
        rfl
      · obtain ⟨q, hset, heq⟩ := bind_eq_ok.1 h
        cases heq
        rw [Reader.setField] at hset
        split at hset
        · split at hset <;> cases hset
          rfl
        · cases hset

lemma Nested.start {tag : String} (h : r.Nested) (hr : r.start path tag = .ok r') :
    r'.Nested ∧ r'.isPlain = true := by
  have hopened := opened_of_start hr
  refine ⟨?_, by rw [isPlain, hopened]⟩
  rw [Nested, hopened, List.tail_cons]
  obtain ⟨_ | ⟨o, os⟩, fields, edges⟩ := r
  · exact nofun
  · exact List.forall_mem_cons.2 ⟨rfl, h⟩

lemma Nested.stop (h : r.Nested) (hr : r.stop path = .ok (r', out)) :
    r'.Nested ∧ r'.isPlain = false := by
  have hopened := opened_of_stop hr
  obtain ⟨_ | ⟨o, _ | ⟨o', os⟩⟩, fields, edges⟩ := r
  · simp [Nested, isPlain, hopened]
  · simp [Nested, isPlain, hopened]
  · have hall := List.forall_mem_cons.1 h
    rw [Nested, isPlain, hopened]
    exact ⟨hall.2, hall.1⟩

end Reader

section Pruned

variable {path : String} {ending : Option Error}

/-- What comes behind a step matters only as far as it is read from where the step leads to. -/
lemma deliver_congr {r : Reader} {e : Xml.Event} {es es' : List Xml.Event}
    (h : ∀ r' out, r.step path e = .ok (r', out) →
      deliver path ending r' es = deliver path ending r' es') :
    deliver path ending r (e :: es) = deliver path ending r (e :: es') := by
  cases hstep : r.step path e with
  | error failure => rw [deliver_of_error hstep, deliver_of_error hstep]
  | ok out =>
      obtain ⟨r', _ | record⟩ := out
      · rw [deliver_of_ok hstep, deliver_of_ok hstep, h _ _ hstep]
      · rw [deliver_of_record hstep, deliver_of_record hstep, h _ _ hstep]

mutual

/-- **The walk through a node does not depend on the texts behind something else**, nor does what
comes behind it: the element around the node holds something else than text from there on. -/
lemma deliver_pruned : ∀ (n : Xml.Node) (r : Reader) (rest rest' : List Xml.Event),
    n.isChild = true → r.Nested →
    (∀ r' : Reader, r'.Nested → r'.isPlain = false →
      deliver path ending r' rest = deliver path ending r' rest') →
    deliver path ending r (n.events ++ rest) = deliver path ending r ((pruned n).events ++ rest')
  | .element tag attributes ns, r, rest, rest', _, hr, hrest => by
      simp only [pruned, Xml.Node.events, List.cons_append, List.append_assoc]
      refine deliver_congr fun r' _ hstep => ?_
      obtain ⟨r'', hstart, heq⟩ := map_eq_ok.1 hstep
      cases heq
      obtain ⟨hnested, hplain⟩ := hr.start hstart
      rw [← hplain]
      refine deliver_prunedAll ns r' _ _ hnested fun q hq => ?_
      exact deliver_congr fun q' _ hstop => (hq.stop hstop).elim (hrest q')
  | .reference name, r, rest, rest', _, hr, hrest => by
      refine deliver_congr fun r' _ hstep => ?_
      cases hstep
      exact hrest _ (hr.inside _) r.isPlain_inside_other
  | .text s, _, _, _, h, _, _ => nomatch h

/-- Nor does the walk through several nodes. -/
lemma deliver_prunedAll : ∀ (ns : List Xml.Node) (r : Reader) (rest rest' : List Xml.Event),
    r.Nested →
    (∀ r' : Reader, r'.Nested → deliver path ending r' rest = deliver path ending r' rest') →
    deliver path ending r (Xml.Node.allEvents ns ++ rest)
      = deliver path ending r (Xml.Node.allEvents (prunedAll r.isPlain ns) ++ rest')
  | [], r, rest, rest', hr, hrest => by
      rw [prunedAll]
      exact hrest r hr
  | n :: ns, r, rest, rest', hr, hrest => by
      rw [Xml.Node.allEvents, List.append_assoc, prunedAll]
      split
      · next hchild =>
        rw [Xml.Node.allEvents, List.append_assoc]
        refine deliver_pruned n r _ _ hchild hr fun r' hr' hplain => ?_
        rw [← hplain]
        exact deliver_prunedAll ns r' rest rest' hr' hrest
      · next htext =>
        obtain ⟨s, rfl⟩ : ∃ s, n = .text s := by
          cases n with
          | text s => exact ⟨s, rfl⟩
          | _ => exact absurd rfl htext
        have hnext := deliver_prunedAll ns (r.behind s) rest rest' (hr.inside _) hrest
        rw [r.isPlain_behind s] at hnext
        rw [Xml.Node.events, List.singleton_append, deliver_of_ok (r.step_text path s), hnext]
        split
        · next hplain =>
          rw [Xml.Node.allEvents, Xml.Node.events, List.append_assoc, List.singleton_append,
            deliver_of_ok (r.step_text path s), hplain]
        · next hother =>
          have hother : r.isPlain = false := by simpa using hother
          rw [Reader.behind_of_not_isPlain hother, hother]

end

end Pruned

/-! ## Fields that are given twice -/

/-- **No field was found twice** before reading ended. -/
def Delivery.Unclashed (d : Delivery) : Prop := ∀ problem, d.failure ≠ some (.schema problem)

section Unclashed

variable (path : String) {ending : Option Error}

lemma unclashed_of_parse {r : Reader} {e : Xml.Event} {es : List Xml.Event} {problem : ParseProblem}
    {place : Option String} {path : String} (h : r.step path e = .error (.parse problem place)) :
    (deliver path ending r (e :: es)).Unclashed := by
  intro _ hfailure
  rw [deliver_of_error h] at hfailure
  cases hfailure

/-- The end of an element below an edge whose value, if it has one, is that of a field without
any. -/
lemma unclashed_stop {o o' o'' : OpenTag} {os : List OpenTag} {fields : Fields} {edges : Nat}
    {rest : List Xml.Event}
    (honce : ((fields ++ valuesIn [⟨o'.tag, o.tag, trim o.text⟩]).map Prod.fst).Nodup)
    (hrest : (deliver path ending ⟨o' :: o'' :: os,
      some (fields ++ valuesIn [⟨o'.tag, o.tag, trim o.text⟩]), edges⟩ rest).Unclashed) :
    (deliver path ending ⟨o :: o' :: o'' :: os, some fields, edges⟩
      (.stop :: rest)).Unclashed := by
  have hothers : (o' :: o'' :: os).length ≠ 1 := by simp
  have hstep := step_stop path o hothers (some fields) edges
  by_cases hblank : trim o.text = ""
  · rw [if_pos hblank] at hstep
    rw [deliver_of_ok hstep]
    simpa [valuesIn, hblank] using hrest
  · rw [if_neg hblank, Reader.setField] at hstep
    cases hfield : fieldAt o'.tag o.tag with
    | none =>
        simp only [List.head?_cons, Option.bind_some, hfield] at hstep
        exact unclashed_of_parse hstep
    | some f =>
        have hvalues : valuesIn [⟨o'.tag, o.tag, trim o.text⟩] = [(f, trim o.text)] := by
          simp [valuesIn, hblank, hfield]
        rw [hvalues] at honce hrest
        have hnew : ¬ (fields.lookup f).isSome := by
          rw [isSome_lookup_iff]
          intro hmem
          rw [List.map_append, List.nodup_append] at honce
          exact honce.2.2 f hmem f (by simp) rfl
        simp only [List.head?_cons, Option.bind_some, hfield, if_neg hnew] at hstep
        rw [deliver_of_ok hstep]
        exact hrest

mutual

/-- **Below an edge no field is found twice** if the elements there do not give one twice. -/
lemma unclashed_below : ∀ (n : Xml.Node), (∀ e ∈ n.events, e.IsPlain) → ∀ (o o' : OpenTag)
    (os : List OpenTag) (fields : Fields) (edges : Nat) (rest : List Xml.Event),
    ((fields ++ valuesIn (slotsIn o.tag n)).map Prod.fst).Nodup →
    (deliver path ending ⟨o.passed n :: o' :: os,
      some (fields ++ valuesIn (slotsIn o.tag n)), edges⟩ rest).Unclashed →
    (deliver path ending ⟨o :: o' :: os, some fields, edges⟩ (n.events ++ rest)).Unclashed
  | .element tag attributes ns, hplain, o, o', os, fields, edges, rest, honce, hrest => by
      rw [Xml.Node.events, List.forall_mem_cons, List.forall_mem_append] at hplain
      rw [slotsIn, valuesIn_append, ← List.append_assoc] at honce hrest
      have hstart := step_start path hplain.1 attributes ⟨o :: o' :: os, some fields, edges⟩
      rw [Xml.Node.events, List.cons_append, List.append_assoc]
      split at hstart
      · have honce' : ((fields ++ valuesIn (slotsInAll tag ns)).map Prod.fst).Nodup :=
          honce.sublist ((List.sublist_append_left ..).map _)
        rw [deliver_of_ok hstart]
        refine unclashed_belowAll ns hplain.2.1 ⟨tag, "", true⟩
          { o with isPlain := false } (o' :: os) fields edges _ honce'
          (unclashed_stop path ?_ ?_)
        · simpa [OpenTag.tag_foldl, OpenTag.text_foldl] using honce
        · simpa [OpenTag.tag_foldl, OpenTag.text_foldl, OpenTag.passed] using hrest
      · exact unclashed_of_parse hstart
  | .text s, _, o, o', os, fields, edges, rest, _, hrest => by
      have hfields : fields ++ valuesIn (slotsIn o.tag (.text s)) = fields := List.append_nil fields
      rw [hfields] at hrest
      exact hrest
  | .reference name, _, o, o', os, fields, edges, rest, _, hrest => by
      have hfields : fields ++ valuesIn (slotsIn o.tag (.reference name)) = fields :=
        List.append_nil fields
      rw [hfields] at hrest
      exact hrest

/-- Nor is one below several nodes. -/
lemma unclashed_belowAll : ∀ (ns : List Xml.Node), (∀ e ∈ Xml.Node.allEvents ns, e.IsPlain) →
    ∀ (o o' : OpenTag) (os : List OpenTag) (fields : Fields) (edges : Nat)
      (rest : List Xml.Event),
    ((fields ++ valuesIn (slotsInAll o.tag ns)).map Prod.fst).Nodup →
    (deliver path ending ⟨ns.foldl OpenTag.passed o :: o' :: os,
      some (fields ++ valuesIn (slotsInAll o.tag ns)), edges⟩ rest).Unclashed →
    (deliver path ending ⟨o :: o' :: os, some fields, edges⟩
      (Xml.Node.allEvents ns ++ rest)).Unclashed
  | [], _, o, o', os, fields, edges, rest, _, hrest => by
      rw [slotsInAll, valuesIn, List.filterMap_nil, List.append_nil] at hrest
      exact hrest
  | n :: ns, hplain, o, o', os, fields, edges, rest, honce, hrest => by
      rw [Xml.Node.allEvents, List.forall_mem_append] at hplain
      rw [slotsInAll, valuesIn_append, ← List.append_assoc] at honce hrest
      rw [Xml.Node.allEvents, List.append_assoc]
      have honce' : ((fields ++ valuesIn (slotsIn o.tag n)).map Prod.fst).Nodup :=
        honce.sublist ((List.sublist_append_left ..).map _)
      have htag : (o.passed n).tag = o.tag := OpenTag.tag_foldl o [n]
      refine unclashed_below n hplain.1 o o' os fields edges _ honce' ?_
      exact unclashed_belowAll ns hplain.2 (o.passed n) o' os _ edges rest (htag ▸ honce)
        (htag ▸ hrest)

end

lemma recordOf_eq_error {place : String} {fields : Fields} {e : Error}
    (h : recordOf place fields = .error e) : ∃ problem, e = .parse problem (some place) := by
  rw [recordOf] at h
  split at h <;> cases h
  exact ⟨_, rfl⟩

/-- **Below the root no field is found twice** if no edge gives one twice. -/
lemma deliver_edges_unclashed {ns : List Xml.Node}
    (hplain : ∀ e ∈ Xml.Node.allEvents ns, e.IsPlain)
    (honce : ∀ n ∈ elementsOf ns, n.tag = .ok "edge" → ((values n).map Prod.fst).Nodup)
    (o : OpenTag) (edges : Nat) {rest : List Xml.Event}
    (hrest : ∀ o' edges', (deliver path ending ⟨[o'], none, edges'⟩ rest).Unclashed) :
    (deliver path ending ⟨[o], none, edges⟩ (Xml.Node.allEvents ns ++ rest)).Unclashed := by
  induction ns generalizing o edges with
  | nil => exact hrest o edges
  | cons n ns ih =>
      rw [Xml.Node.allEvents, List.forall_mem_append] at hplain
      rw [Xml.Node.allEvents, List.append_assoc]
      cases n with
      | text s => exact ih hplain.2 honce (o.passed (.text s)) edges
      | reference name => exact ih hplain.2 honce (o.passed (.reference name)) edges
      | element tag attributes ns' =>
          have helements : elementsOf (.element tag attributes ns' :: ns)
              = .element tag attributes ns' :: elementsOf ns := rfl
          rw [helements, List.forall_mem_cons] at honce
          rw [Xml.Node.events, List.forall_mem_cons, List.forall_mem_append] at hplain
          have hnext := fun o' edges' => ih hplain.2 honce.2 o' edges'
          rw [Xml.Node.events, List.cons_append, List.append_assoc]
          have hstart := step_start path hplain.1.1 attributes ⟨[o], none, edges⟩
          split at hstart
          · next hallowed =>
            obtain rfl : tag = "edge" := by simpa [Reader.allows] using hallowed
            have hvalues : ((valuesIn (slotsInAll "edge" ns')).map Prod.fst).Nodup := honce.1 rfl
            rw [deliver_of_ok hstart]
            refine unclashed_belowAll path ns' hplain.1.2.1 ⟨"edge", "", true⟩
              { o with isPlain := false } [] [] (edges + 1) _ (by simpa using hvalues) ?_
            obtain ⟨place, hstop⟩ :=
              step_stop_edge path (ns'.foldl OpenTag.passed ⟨"edge", "", true⟩)
              { o with isPlain := false } ([] ++ valuesIn (slotsInAll "edge" ns')) (edges + 1)
            rw [List.singleton_append]
            split at hstop
            · cases hrecord : recordOf place ([] ++ valuesIn (slotsInAll "edge" ns')) with
              | error e =>
                  obtain ⟨problem, rfl⟩ := recordOf_eq_error hrecord
                  rw [hrecord] at hstop
                  exact unclashed_of_parse hstop
              | ok record =>
                  rw [hrecord, ok_bind] at hstop
                  rw [deliver_of_record hstop]
                  exact hnext _ _
            · exact unclashed_of_parse hstop
          · exact unclashed_of_parse hstart

end Unclashed

/-! ## Documents -/

section Documents

variable {files files' : Files} {path : Path} {root root' : Xml.Node}

/-- A document is read by walking through it. -/
lemma read_eq_deliver (h : Xml.readDocument files path = .ok root) :
    read files path = deliver path.text none {} root.events := by
  obtain ⟨bytes, hbytes, hsound, hevents, -⟩ := Xml.readDocument_eq_ok h
  rw [read, hbytes]
  simp only [ofBytes, hsound, if_true, hevents]

/-- The walk into the root, and what is below it. -/
lemma read_eq_below {tag : String} {attributes : List (String × String)} {ns : List Xml.Node}
    (h : Xml.readDocument files path = .ok (.element tag attributes ns)) :
    read files path = deliver path.text none ⟨[⟨tag, "", true⟩], none, 0⟩
        (Xml.Node.allEvents ns ++ [.stop]) ∧
      ∀ e ∈ Xml.Node.allEvents ns, e.IsPlain := by
  obtain ⟨-, -, -, -, hplain, -⟩ := Xml.readDocument_eq_ok h
  rw [Xml.Node.events, List.forall_mem_cons, List.forall_mem_append] at hplain
  refine ⟨?_, hplain.2.1⟩
  rw [read_eq_deliver h, Xml.Node.events]
  exact deliver_of_ok (step_start path.text hplain.1 attributes {})

lemma mem_slotsInAll {around : String} {ns : List Xml.Node} {s : Slot} :
    s ∈ slotsInAll around ns ↔ ∃ n ∈ ns, s ∈ slotsIn around n := by
  induction ns with
  | nil => simp [slotsInAll]
  | cons n ns ih => simp [slotsInAll, ih]

/-- There is no stray text in an edge. -/
lemma IsEdge.not_isStray {n : Xml.Node} (h : IsEdge n) {around : String} {s : Slot}
    (hs : s ∈ slotsIn around n) : ¬ s.IsStray := by
  cases n with
  | element tag attributes ns =>
      obtain rfl : tag = "edge" := Except.ok.inj h.tag
      rintro ⟨htext, hfield⟩
      rcases List.mem_append.1 hs with hs | hs
      · have hplaced := h.placed s hs htext
        rw [hfield] at hplaced
        cases hplaced
      · rw [List.mem_singleton.1 hs] at htext
        exact htext h.blank
  | text s => cases h.tag
  | reference name => cases h.tag

/-- **Text in front of anything else in an element that is no field** has a document refused. -/
lemma read_of_isStray (h : Xml.readDocument files path = .ok root)
    (hstray : ∃ s ∈ slotsIn "" root, s.IsStray) :
    ∃ e, (read files path).failure = some e ∧ IsRefusal e := by
  obtain ⟨-, -, -, -, -, tag, attributes, ns, rfl⟩ := Xml.readDocument_eq_ok h
  obtain ⟨hread, hplain⟩ := read_eq_below h
  rw [hread]
  rcases deliver_edges path.text none hplain ⟨tag, "", true⟩ 0 [.stop] with
    ⟨hall, edges, d, hd, hdeliver⟩ | ⟨-, e, he, hdeliver⟩
  · rcases deliver_end path.text (ns.foldl OpenTag.passed ⟨tag, "", true⟩) edges with
      ⟨hblank, -⟩ | ⟨-, e, he, hend⟩
    · -- all stray text would have to be in the edges
      rw [OpenTag.text_foldl, if_pos rfl, String.empty_append] at hblank
      obtain ⟨s, hs, htext, hfield⟩ := hstray
      rcases List.mem_append.1 hs with hs | hs
      · obtain ⟨n, hn, hs⟩ := mem_slotsInAll.1 hs
        have hedge : IsEdge n := by
          refine hall n (List.mem_filter.2 ⟨hn, ?_⟩)
          cases n with
          | element => rfl
          | _ => cases hs
        exact absurd ⟨htext, hfield⟩ (hedge.not_isStray hs)
      · rw [List.mem_singleton.1 hs] at htext
        exact absurd hblank htext
    · exact ⟨e, by rw [hdeliver, hd, hend], he⟩
  · exact ⟨e, by rw [hdeliver], he⟩

/-- A document is not refused for a field that is given twice if none of its edges gives one
twice. -/
lemma read_unclashed (h : Xml.readDocument files path = .ok root)
    (honce : ∀ n ∈ elementsOf root.children, n.tag = .ok "edge" →
      ((values n).map Prod.fst).Nodup) :
    (read files path).Unclashed := by
  obtain ⟨-, -, -, -, -, tag, attributes, ns, rfl⟩ := Xml.readDocument_eq_ok h
  obtain ⟨hread, hplain⟩ := read_eq_below h
  rw [hread]
  refine deliver_edges_unclashed path.text hplain honce _ _ fun o edges => ?_
  have hnone : ([] : List OpenTag).length ≠ 1 := Nat.zero_ne_one
  have hstop := step_stop path.text o hnone none edges
  split at hstop
  · rw [deliver_of_ok hstop]
    exact nofun
  · exact unclashed_of_parse hstop

/-- **What becomes of stray text.**  In front of anything else in an element that is no field, it
has the document refused, for its form unless an edge gives a field twice.  Behind something else
it is not looked at: documents that differ in such texts only are read alike. -/
theorem read_stray_text (h : Xml.readDocument files path = .ok root) :
    ((∃ s ∈ slotsIn "" root, s.IsStray) →
      ∃ e, (read files path).failure = some e ∧ IsRefusal e ∧
        ((∀ n ∈ elementsOf root.children, n.tag = .ok "edge" →
          ((values n).map Prod.fst).Nodup) →
          ∃ problem place, e = .parse problem place)) ∧
    (HasStrayText (pruned root) ↔ ∃ s ∈ slotsIn "" root, s.IsStray) ∧
    ∀ files' root', Xml.readDocument files' path = .ok root' → pruned root' = pruned root →
      read files' path = read files path := by
  refine ⟨fun hstray => ?_, hasStrayText_pruned root, fun files' root' h' hsame => ?_⟩
  · obtain ⟨e, hfailure, he⟩ := read_of_isStray h hstray
    refine ⟨e, hfailure, he, fun honce => ?_⟩
    have hunclashed := read_unclashed h honce
    cases e with
    | parse problem place => exact ⟨problem, place, rfl⟩
    | schema problem => exact absurd hfailure (hunclashed problem)
    | _ => exact he.elim
  · have hpruned : ∀ {fs : Files} {n : Xml.Node}, Xml.readDocument fs path = .ok n →
        read fs path = deliver path.text none {} (pruned n).events := by
      intro fs n hn
      have hchild : n.isChild = true := by
        obtain ⟨-, -, -, -, -, tag, attributes, ns, rfl⟩ := Xml.readDocument_eq_ok hn
        rfl
      have hwalk : deliver path.text none {} (n.events ++ [])
          = deliver path.text none {} ((pruned n).events ++ []) :=
        deliver_pruned n {} [] [] hchild nofun fun _ _ _ => rfl
      rwa [List.append_nil, List.append_nil, ← read_eq_deliver hn] at hwalk
    rw [hpruned h', hpruned h, hsame]

end Documents

/-- Files with one mapping document. -/
def oneDocument (text : String) : Files :=
  { entries := [(["cities.xml"], .file (.bytes text.toUTF8.toList))] }

/-- An edge with text in front of its attributes, and with more behind the name of one. -/
def oopsRoot (more : List Xml.Node) : Xml.Node :=
  .element "edges" []
    [.element "edge" []
      [.text "oops", .element "headnode" [] (.element "name" [] [.text "City"] :: more)]]

/-- The text in front is what the document is refused for, and the text behind makes no
difference. -/
theorem read_stray_text_oopsRoot :
    let path : Path := ⟨"", ["cities.xml"]⟩
    let files :=
      oneDocument "<edges><edge>oops<headnode><name>City</name></headnode></edge></edges>"
    let files' :=
      oneDocument "<edges><edge>oops<headnode><name>City</name>again</headnode></edge></edges>"
    Xml.readDocument files path = .ok (oopsRoot []) ∧
      Xml.readDocument files' path = .ok (oopsRoot [.text "again"]) ∧
      (∃ s ∈ slotsIn "" (oopsRoot []), s.IsStray) ∧
      (∃ problem place, (read files path).failure = some (.parse problem place)) ∧
      read files' path = read files path := by
  intro path files files'
  have hroot : Xml.readDocument files path = .ok (oopsRoot []) :=
    Xml.readDocument_of_events rfl (by decide +kernel)
  have hroot' : Xml.readDocument files' path = .ok (oopsRoot [.text "again"]) :=
    Xml.readDocument_of_events rfl (by decide +kernel)
  have hstray : ∃ s ∈ slotsIn "" (oopsRoot []), s.IsStray := by decide +kernel
  obtain ⟨hfront, -, hbehind⟩ := read_stray_text hroot
  obtain ⟨e, hfailure, -, hparse⟩ := hfront hstray
  obtain ⟨problem, place, rfl⟩ := hparse (by
    intro n hn _
    rw [List.mem_singleton.1 hn]
    decide +kernel)
  exact ⟨hroot, hroot', hstray, ⟨problem, place, hfailure⟩, hbehind files' _ hroot' rfl⟩

/-- A complete edge with text behind it. -/
def unseenRoot : Xml.Node :=
  .element "edges" []
    [.element "edge" []
      [.element "headnode" [] [.element "name" [] [.text "City"]],
        .element "tailnode" [] [.element "name" [] [.text "Region"]],
        .element "datasource" [] [.text "geo"], .element "key" [] [.text "0"],
        .element "value" [] [.text "1"]],
      .text "oops"]

/-- **Text behind an edge is not seen**: not every document with stray text is refused. -/
theorem read_stray_text_unseen :
    ¬ ∀ (files : Files) (path : Path) (root : Xml.Node),
      Xml.readDocument files path = .ok root → HasStrayText root →
        ∃ problem place, (read files path).failure = some (.parse problem place) := by
  intro hrefused
  let path : Path := ⟨"", ["cities.xml"]⟩
  let files := oneDocument ("<edges><edge><headnode><name>City</name></headnode>" ++
    "<tailnode><name>Region</name></tailnode><datasource>geo</datasource><key>0</key>" ++
    "<value>1</value></edge>oops</edges>")
  have hroot : Xml.readDocument files path = .ok unseenRoot :=
    Xml.readDocument_of_events rfl (by decide +kernel)
  obtain ⟨problem, place, hfailure⟩ := hrefused files path unseenRoot hroot (by decide +kernel)
  have hnone : (deliver path.text none {} unseenRoot.events).failure.isNone = true := by
    decide +kernel
  rw [← read_eq_deliver hroot, hfailure] at hnone
  cases hnone

end Crosswalk.MappingDocument
