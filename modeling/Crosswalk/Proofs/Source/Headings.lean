import Crosswalk.Proofs.Sequence
import Crosswalk.Proofs.Source.Positions
import Crosswalk.Proofs.Source.Stream
import Crosswalk.Source.Delimited

/-!
# Headings and blank lines

The headings are the first record of a file, whatever it holds, while the records behind them are
read without the blank ones.  So headings cost the first element, unless the file begins with a
blank line: then this line is taken for the headings and costs nothing, and the headings come out
as an element.  Blank lines between two records make no difference in either case.

* `elements` — everything that comes out of a file.
* `withoutBlankLines` — the lines of a file but for the blank ones between its records.
* `Scan.Begun` — **the invariant of a record that has begun**: where it could end, it has a field.
* `seen_records_withoutBlankLines` — **blank lines between records are not seen**, one line after
  another.
* **`elements_headings`** — what headings cost, and that blank lines cost nothing.
-/

namespace Crosswalk.Delimited

/-! ## Everything that comes out of a file -/

/-- **Everything that comes out of a file**, or why it cannot be opened. -/
def elements (fs : Files) (file : FileSource) (delimiter : Char) (hasHeadings : Bool)
    (keyPosition valuePosition : String) : Except Error (List Item) :=
  (read fs file delimiter hasHeadings keyPosition valuePosition).result.map fun s => s.collect.1

/-- A record that was read, and no failure on the way. -/
def Outcome.isRecord : Outcome → Bool
  | .record _ _ => true
  | _ => false

/-- A record without fields, as a blank line has it. -/
def Outcome.isBlank : Outcome → Bool
  | .record _ [] => true
  | _ => false

/-- **Bytes whose records can all be read**: they are text, and no field is too long. -/
def AllRead (delimiter : Char) (bytes : List UInt8) : Prop :=
  ∀ o ∈ recordsOfBytes delimiter bytes, o.isRecord = true

instance (delimiter : Char) (bytes : List UInt8) : Decidable (AllRead delimiter bytes) :=
  inferInstanceAs (Decidable (∀ o ∈ recordsOfBytes delimiter bytes, o.isRecord = true))

section Elements

variable {fs : Files} {file : FileSource} {delimiter : Char} {key value : String} {place : Path}
  {bytes : List UInt8} {hasHeadings : Bool}

/-- A position that looks like a number has nothing to do with headings. -/
lemma columnOf_headings {source position : String} (h : LooksLikeNumber (trim position))
    (headings : Option (List String)) :
    columnOf source position headings = columnOf source position none := by
  unfold columnOf
  simp only [if_pos (looksLikeNumber_iff.2 h)]

lemma resolve_headings {source : String} (hkey : LooksLikeNumber (trim key))
    (hvalue : LooksLikeNumber (trim value)) (headings : Option (List String)) :
    Columns.resolve source key value headings = Columns.resolve source key value none := by
  rw [Columns.resolve, columnOf_headings hkey, columnOf_headings hvalue, Columns.resolve]

/-- The records that elements come from. -/
def bodyRecords (hasHeadings : Bool) (outcomes : List Outcome) : List Outcome :=
  if hasHeadings then outcomes.tail else outcomes

/-- The headings are the first record, and the records behind it are left. -/
lemma takeHeadings_of_records (source : String) {outcomes : List Outcome}
    (h : ∀ o ∈ outcomes, o.isRecord = true) :
    ∃ headings, takeHeadings source outcomes = .ok (headings, outcomes.tail) := by
  cases outcomes with
  | nil => exact ⟨[], rfl⟩
  | cons first rest =>
      have hfirst := h first List.mem_cons_self
      cases first with
      | record n fields => exact ⟨fields, rfl⟩
      | longField n => cases hfirst
      | notText n => cases hfirst
      | unread cause => cases hfirst

/-- Where no record fails to be read, every record has its element. -/
lemma items_of_records {source : String} {columns : Columns} {outcomes : List Outcome}
    (h : ∀ o ∈ outcomes, o.isRecord = true) :
    items source columns outcomes = outcomes.filterMap (itemOf source columns) := by
  induction outcomes with
  | nil => rfl
  | cons o outcomes ih =>
      obtain ⟨ho, hrest⟩ := List.forall_mem_cons.1 h
      have hlast : o.isLast = false := by
        cases o with
        | record | longField => rfl
        | notText | unread => cases ho
      rw [items, hlast, if_neg Bool.false_ne_true, ih hrest]
      cases hitem : itemOf source columns o with
      | none => rw [List.filterMap_cons_none hitem, Option.toList_none, List.nil_append]
      | some item => rw [List.filterMap_cons_some hitem, Option.toList_some, List.singleton_append]

/-- **Where elements come from**, if positions are numbers and no record fails to be read. -/
lemma elements_eq (hkey : LooksLikeNumber (trim key)) (hvalue : LooksLikeNumber (trim value))
    (hopened : file.opened fs = .ok (place, bytes)) (hread : AllRead delimiter bytes) :
    elements fs file delimiter hasHeadings key value
      = (Columns.resolve file.name key value none).map
      fun columns => (bodyRecords hasHeadings (recordsOfBytes delimiter bytes)).filterMap
        (itemOf file.name columns) := by
  have hitems : ∀ (headings : Option (List String)) (outcomes : List Outcome),
      (∀ o ∈ outcomes, o.isRecord = true) →
      Except.map (fun s : Stream => s.collect.1) (Columns.resolve file.name key value headings >>=
        fun columns => .ok (Stream.ofItems file.name (items file.name columns outcomes)))
        = (Columns.resolve file.name key value none).map
          fun columns => outcomes.filterMap (itemOf file.name columns) := by
    intro headings outcomes hrecords
    rw [resolve_headings hkey hvalue]
    cases Columns.resolve file.name key value none with
    | error e => rfl
    | ok columns =>
        rw [ok_bind, items_of_records hrecords]
        exact congrArg Except.ok (Stream.collect_ofItems _ _)
  unfold AllRead at hread
  unfold elements read
  simp only [hopened, Traced.result_bind, Traced.result_of, ok_bind]
  generalize recordsOfBytes delimiter bytes = outcomes at hread ⊢
  cases hasHeadings with
  | false =>
      simp only [Bool.false_eq_true, if_false, Traced.result_bind, Traced.result_of,
        Traced.result_note, Traced.result_pure, ok_bind]
      exact hitems none outcomes hread
  | true =>
      simp only [if_true, Traced.result_bind, Traced.result_of, Traced.result_note,
        Traced.result_pure]
      obtain ⟨headings, hheadings⟩ := takeHeadings_of_records file.name hread
      simp only [hheadings, ok_bind]
      exact hitems (some headings) outcomes.tail fun o ho => hread o (List.mem_of_mem_tail ho)

end Elements

/-! ## Blank lines -/

/-- A line with nothing in front of its end. -/
def isBlankLine (line : List Char) : Bool := line.head?.all fun c => c = '\n' || c = '\r'

/-- The lines of the bytes of a file. -/
def linesOf (bytes : List UInt8) : List (List Char) := splitLines (readText bytes).1

/-- Whether a file begins with a blank line. -/
def beginsBlank (bytes : List UInt8) : Bool := (linesOf bytes).head?.any isBlankLine

/-- How far a record has been read behind a line: a record that ends with it is done. -/
def Scan.behind (delimiter : Char) (s : Scan) (line : List Char) : Scan :=
  match s.line delimiter line with
  | some s => if s.spot = .start then {} else s
  | none => {}

/-- **The lines but for the blank ones between records.**  Between quotes a blank line belongs to a
field. -/
def withoutBlankLines (delimiter : Char) : Scan → List (List Char) → List (List Char)
  | _, [] => []
  | s, line :: lines =>
    if s.spot = .start && isBlankLine line then withoutBlankLines delimiter s lines
    else line :: withoutBlankLines delimiter (s.behind delimiter line) lines

section BlankLines

variable {delimiter : Char} {s s' : Scan} {line : List Char} {lines : List (List Char)}
  {isWhole : Bool}

/-- Behind the end of a line nothing counts. -/
lemma foldlM_lineEnd (cs : List Char) (h : s.spot = .lineEnd) :
    cs.foldlM (Scan.step delimiter) s = some s := by
  induction cs with
  | nil => rfl
  | cons c cs ih =>
      have hstep : s.step delimiter c = some s := by rw [Scan.step, h]
      rw [List.foldlM_cons, hstep]
      exact ih

/-- A blank line in front of a record is a record without fields, and leaves nothing. -/
lemma line_of_isBlankLine (h : isBlankLine line = true) :
    Scan.line delimiter {} line = some {} := by
  cases line with
  | nil => rfl
  | cons c cs =>
      have hend : (c = '\n' || c = '\r') = true := h
      have hstep : Scan.step delimiter {} c = some { spot := .lineEnd } := by
        simp only [Scan.step, hend, if_true]
      have hrest : cs.foldlM (Scan.step delimiter) { spot := .lineEnd }
          = some { spot := .lineEnd } :=
        foldlM_lineEnd cs rfl
      rw [Scan.line, List.foldlM_cons, hstep, Option.bind_eq_bind, Option.bind_some, hrest]
      rfl

/-- **A record that has begun**: where it could end, it has a field. -/
def Scan.Begun (s : Scan) : Prop := s.spot = .start ∨ s.spot = .lineEnd → s.fields ≠ []

namespace Scan

/-- Where a field is saved there is one. -/
lemma begun_save (s : Scan) (spot : Spot) : (s.save spot).Begun := fun _ => List.cons_ne_nil _ _

lemma begun_push {c : Char} {spot : Spot} (hspot : spot ≠ .start ∧ spot ≠ .lineEnd)
    (h : s.push c spot = some s') : s'.Begun := by
  unfold push at h
  split at h
  · cases h
  · cases h
    exact fun hend => absurd hend (not_or.2 hspot)

lemma begun_plain {c : Char} (h : s.plain delimiter c = some s') : s'.Begun := by
  unfold plain at h
  split_ifs at h
  · cases h
    exact begun_save s _
  · cases h
    exact begun_save s _
  · exact begun_push (by decide) h

/-- A record that has begun goes on. -/
lemma begun_step {c : Char} (h : s.Begun) (hstep : s.step delimiter c = some s') : s'.Begun := by
  have hquoted : ∀ spot : Spot, spot ≠ .start → spot ≠ .lineEnd → Begun { s with spot } :=
    fun spot hstart hend hspot => absurd hspot (not_or.2 ⟨hstart, hend⟩)
  unfold step at hstep
  split at hstep
  · next hspot =>
      split_ifs at hstep
      · cases hstep
        exact fun _ => h (Or.inl hspot)
      · cases hstep
        exact hquoted _ nofun nofun
      · exact begun_plain hstep
  · split_ifs at hstep
    · cases hstep
      exact hquoted _ nofun nofun
    · exact begun_plain hstep
  · exact begun_plain hstep
  · split_ifs at hstep
    · cases hstep
      exact hquoted _ nofun nofun
    · exact begun_push (by decide) hstep
  · split_ifs at hstep
    · exact begun_push (by decide) hstep
    · cases hstep
      exact begun_save s _
    · exact begun_plain hstep
  · cases hstep
    exact h

lemma begun_foldlM {cs : List Char} (h : s.Begun) (hcs : cs.foldlM (step delimiter) s = some s') :
    s'.Begun := by
  induction cs generalizing s with
  | nil =>
      cases hcs
      exact h
  | cons c cs ih =>
      rw [List.foldlM_cons] at hcs
      obtain ⟨next, hnext, hrest⟩ := Option.bind_eq_some_iff.1 hcs
      exact ih (begun_step h hnext) hrest

lemma begun_finishLine (h : s.Begun) : s.finishLine.Begun := by
  unfold finishLine
  split
  · exact h
  · exact begun_save s _
  · exact begun_save s _
  · exact begun_save s _
  · exact h
  · next hspot => exact fun _ => h (Or.inr hspot)

/-- It goes on over a whole line. -/
lemma begun_line (h : s.Begun) (hline : s.line delimiter line = some s') : s'.Begun := by
  obtain ⟨last, hlast, rfl⟩ := Option.map_eq_some_iff.1 hline
  exact begun_finishLine (begun_foldlM h hlast)

/-- A line that is not blank begins a record. -/
lemma begun_of_not_isBlankLine (h : isBlankLine line = false)
    (hline : Scan.line delimiter {} line = some s) : s.Begun := by
  obtain ⟨last, hlast, rfl⟩ := Option.map_eq_some_iff.1 hline
  refine begun_finishLine ?_
  cases line with
  | nil => cases h
  | cons c cs =>
      rw [List.foldlM_cons] at hlast
      obtain ⟨next, hnext, hrest⟩ := Option.bind_eq_some_iff.1 hlast
      refine begun_foldlM ?_ hrest
      have hend : (c = '\n' || c = '\r') = false := h
      simp only [step, hend, Bool.false_eq_true, if_false] at hnext
      split_ifs at hnext
      · cases hnext
        exact fun hspot => absurd hspot (by decide)
      · exact begun_plain hnext

end Scan

/-! ## What is seen of records -/

/-- An outcome without its line. -/
def Outcome.unnumbered : Outcome → Outcome
  | .record _ fields => .record 0 fields
  | .longField _ => .longField 0
  | .notText _ => .notText 0
  | .unread cause => .unread cause

/-- **What is seen of outcomes**: those that are not blank, wherever they stand. -/
def seen (outcomes : List Outcome) : List Outcome :=
  (outcomes.filter fun o => !o.isBlank).map Outcome.unnumbered

lemma seen_cons (o : Outcome) (outcomes : List Outcome) :
    seen (o :: outcomes) = (if o.isBlank then [] else [o.unnumbered]) ++ seen outcomes := by
  unfold seen
  cases h : o.isBlank <;> simp [h]

/-- The line of a record is not seen. -/
lemma seen_record (n m : Nat) (fields : List String) {outcomes outcomes' : List Outcome}
    (h : seen outcomes = seen outcomes') :
    seen (.record n fields :: outcomes) = seen (.record m fields :: outcomes') := by
  rw [seen_cons, seen_cons, h]
  cases fields <;> rfl

lemma behind_start (s : Scan) :
    (s.behind delimiter line).spot = .start → s.behind delimiter line = {} := by
  unfold Scan.behind
  split
  · split_ifs with hstart
    · exact fun _ => rfl
    · exact fun hspot => absurd hspot hstart
  · exact fun _ => rfl

/-- **Blank lines between records are not seen.** -/
lemma seen_records_withoutBlankLines (n m : Nat) (h : s.spot = .start → s = {}) :
    seen (records delimiter isWhole n s lines)
      = seen (records delimiter isWhole m s (withoutBlankLines delimiter s lines)) := by
  induction lines generalizing n m s with
  | nil =>
      rw [withoutBlankLines, records, records]
      split_ifs
      · rfl
      · exact seen_record n m _ rfl
      · rfl
  | cons line lines ih =>
      rw [withoutBlankLines]
      split_ifs with hblank
      · rw [Bool.and_eq_true, decide_eq_true_eq] at hblank
        obtain rfl := h hblank.1
        rw [records, line_of_isBlankLine hblank.2]
        simp only [if_true, seen_cons]
        exact ih (n + 1) m h
      · have hbehind : (s.behind delimiter line).spot = .start → s.behind delimiter line = {} :=
          behind_start s
        have hrest := ih (n + 1) (m + 1) hbehind
        rw [records, records]
        unfold Scan.behind at hrest ⊢
        cases hline : s.line delimiter line with
        | none =>
            rw [hline] at hrest
            simp only [seen_cons] at hrest ⊢
            rw [hrest]
            rfl
        | some s' =>
            rw [hline] at hrest
            simp only at hrest ⊢
            split_ifs at hrest ⊢ with hstart
            · exact seen_record _ _ _ hrest
            · exact hrest

end BlankLines

/-! ## The first record -/

section FirstRecord

variable {delimiter : Char} {s : Scan} {lines : List (List Char)} {bytes : List UInt8}

/-- A text that breaks off shows. -/
lemma exists_notText (delimiter : Char) (n : Nat) (s : Scan) (lines : List (List Char)) :
    ∃ m, .notText m ∈ records delimiter false n s lines := by
  induction lines generalizing n s with
  | nil => exact ⟨n, List.mem_singleton.2 rfl⟩
  | cons line lines ih =>
      rw [records]
      cases s.line delimiter line with
      | none =>
          obtain ⟨m, hm⟩ := ih (n + 1) {}
          exact ⟨m, List.mem_cons_of_mem _ hm⟩
      | some next =>
          simp only
          split_ifs
          · obtain ⟨m, hm⟩ := ih (n + 1) {}
            exact ⟨m, List.mem_cons_of_mem _ hm⟩
          · exact ih (n + 1) next

/-- If nothing fails to be read, the records are those of all lines. -/
lemma recordsOfBytes_of_allRead (h : AllRead delimiter bytes) :
    recordsOfBytes delimiter bytes = records delimiter true 0 {} (linesOf bytes) := by
  rw [linesOf]
  unfold AllRead recordsOfBytes at h
  unfold recordsOfBytes
  simp only at h ⊢
  cases hwhole : (readText bytes).2 with
  | true => simp only [if_true]
  | false =>
      rw [hwhole] at h
      obtain ⟨m, hm⟩ :=
        exists_notText delimiter 0 {} (completeLines (splitLines (readText bytes).1))
      cases h _ hm

lemma isBlank_record (n : Nat) (h : s.fields ≠ []) :
    (Outcome.record n s.record).isBlank = false := by
  rw [Scan.record]
  cases hrev : s.fields.reverse with
  | nil => exact absurd (List.reverse_eq_nil_iff.1 hrev) h
  | cons => rfl

/-- A line behind which a record has begun, and then the lines that it goes on with. -/
lemma head_records_cons {line : List Char} {n : Nat}
    (hline : ∀ next, s.line delimiter line = some next → next.Begun)
    (hrest : ∀ next : Scan, next.Begun →
      ∀ o ∈ (records delimiter true (n + 1) next lines).head?, o.isBlank = false) :
    ∀ o ∈ (records delimiter true n s (line :: lines)).head?, o.isBlank = false := by
  rw [records]
  cases hnext : s.line delimiter line with
  | none =>
      rintro o ⟨⟩
      rfl
  | some next =>
      have hbegun := hline next hnext
      simp only
      split_ifs with hstart
      · rintro o ⟨⟩
        exact isBlank_record (n + 1) (hbegun (Or.inl hstart))
      · exact hrest next hbegun

/-- **A record that has begun has a field at its end.** -/
lemma head_records_of_begun (n : Nat) (h : s.Begun) :
    ∀ o ∈ (records delimiter true n s lines).head?, o.isBlank = false := by
  induction lines generalizing n s with
  | nil =>
      rw [records]
      simp only [Bool.not_true, Bool.false_eq_true, if_false]
      split_ifs
      · rintro o ⟨⟩
        exact isBlank_record n (List.cons_ne_nil _ _)
      · nofun
  | cons line lines ih =>
      exact head_records_cons (fun next => Scan.begun_line h) fun next hnext => ih (n + 1) hnext

/-- Where the first line is blank, the first record is. -/
lemma records_of_beginsBlank (delimiter : Char) (h : beginsBlank bytes = true) :
    ∃ rest, records delimiter true 0 {} (linesOf bytes) = .record 1 [] :: rest := by
  rw [beginsBlank] at h
  cases hlines : linesOf bytes with
  | nil =>
      rw [hlines] at h
      cases h
  | cons line rest =>
      rw [hlines] at h
      rw [records, line_of_isBlankLine h]
      exact ⟨_, rfl⟩

/-- Where it is not, the first record has a field. -/
lemma head_records_of_not_beginsBlank (h : beginsBlank bytes = false) :
    ∀ o ∈ (records delimiter true 0 {} (linesOf bytes)).head?, o.isBlank = false := by
  rw [beginsBlank] at h
  cases hlines : linesOf bytes with
  | nil => nofun
  | cons line rest =>
      rw [hlines] at h
      exact head_records_cons (fun next => Scan.begun_of_not_isBlankLine h)
        fun next => head_records_of_begun 1

end FirstRecord

/-! ## What headings cost -/

/-- An element without the line it stands in, which only a failure tells. -/
def unplaced : Item → Item
  | .error (.source (.shortRecord _ length position) name) =>
    .error (.source (.shortRecord "" length position) name)
  | .error (.source (.longField _) name) => .error (.source (.longField 0) name)
  | .error (.source (.notText _) name) => .error (.source (.notText 0) name)
  | item => item

section Items

variable {source : String} {columns : Columns} {o : Outcome} {outcomes : List Outcome}

/-- Only a blank record has no element. -/
lemma itemOf_eq_none_iff : itemOf source columns o = none ↔ o.isBlank = true := by
  cases o with
  | record n fields => cases fields <;> simp [itemOf, Outcome.isBlank]
  | longField n => simp [itemOf, Outcome.isBlank]
  | notText n => simp [itemOf, Outcome.isBlank]
  | unread cause => simp [itemOf, Outcome.isBlank]

/-- The element of an outcome has nothing else of its line. -/
lemma map_unplaced_itemOf (o : Outcome) :
    (itemOf source columns o).map unplaced = (itemOf source columns o.unnumbered).map unplaced := by
  cases o with
  | record n fields =>
      cases fields with
      | nil => rfl
      | cons first rest =>
          simp only [itemOf, Outcome.unnumbered, pairOf, Option.map_some]
          split <;> rfl
  | longField n => rfl
  | notText n => rfl
  | unread cause => rfl

/-- **The elements are those of what is seen.** -/
lemma map_unplaced_items (outcomes : List Outcome) :
    (outcomes.filterMap (itemOf source columns)).map unplaced
      = ((seen outcomes).filterMap (itemOf source columns)).map unplaced := by
  simp only [List.map_filterMap]
  induction outcomes with
  | nil => rfl
  | cons o outcomes ih =>
      rw [seen_cons, List.filterMap_append, ← ih, List.filterMap_cons]
      cases hblank : o.isBlank with
      | true =>
          rw [itemOf_eq_none_iff.2 hblank]
          rfl
      | false =>
          simp only [Bool.false_eq_true, if_false, List.filterMap_cons, List.filterMap_nil,
            ← map_unplaced_itemOf]
          cases (itemOf source columns o).map unplaced <;> rfl

lemma filterMap_itemOf_tail (h : ∀ o ∈ outcomes.head?, o.isBlank = false) :
    outcomes.tail.filterMap (itemOf source columns)
      = (outcomes.filterMap (itemOf source columns)).tail := by
  cases outcomes with
  | nil => rfl
  | cons o rest =>
      have hne : itemOf source columns o ≠ none := by
        rw [Ne, itemOf_eq_none_iff, h o rfl]
        nofun
      obtain ⟨item, hitem⟩ := Option.ne_none_iff_exists'.1 hne
      rw [List.filterMap_cons_some hitem, List.tail_cons, List.tail_cons]

end Items

/-- Elements that are the same stay so without the first one. -/
lemma map_unplaced_tail {r r' : Except Error (List Item)}
    (h : r.map (List.map unplaced) = r'.map (List.map unplaced)) :
    (r.map List.tail).map (List.map unplaced) = (r'.map List.tail).map (List.map unplaced) := by
  have htail : ∀ r : Except Error (List Item),
      (r.map List.tail).map (List.map unplaced) = (r.map (List.map unplaced)).map List.tail := by
    intro r
    cases r with
    | error e => rfl
    | ok items => exact congrArg Except.ok List.map_tail
  rw [htail, htail, h]

section Costs

variable {fs : Files} {file : FileSource} {delimiter : Char} {key value : String} {place : Path}
  {bytes : List UInt8}

/-- **Headings cost the first element**, where the first line is not blank. -/
lemma elements_of_not_beginsBlank (hkey : LooksLikeNumber (trim key))
    (hvalue : LooksLikeNumber (trim value)) (hopened : file.opened fs = .ok (place, bytes))
    (hread : AllRead delimiter bytes) (hbegins : beginsBlank bytes = false) :
    elements fs file delimiter true key value
      = (elements fs file delimiter false key value).map List.tail := by
  rw [elements_eq hkey hvalue hopened hread, elements_eq hkey hvalue hopened hread]
  cases Columns.resolve file.name key value none with
  | error e => rfl
  | ok columns =>
      refine congrArg Except.ok (filterMap_itemOf_tail ?_)
      rw [recordsOfBytes_of_allRead hread]
      exact head_records_of_not_beginsBlank hbegins

/-- **Headings cost nothing**, where the first line is blank. -/
lemma elements_of_beginsBlank (hkey : LooksLikeNumber (trim key))
    (hvalue : LooksLikeNumber (trim value)) (hopened : file.opened fs = .ok (place, bytes))
    (hread : AllRead delimiter bytes) (hbegins : beginsBlank bytes = true) :
    elements fs file delimiter true key value = elements fs file delimiter false key value := by
  rw [elements_eq hkey hvalue hopened hread, elements_eq hkey hvalue hopened hread,
    recordsOfBytes_of_allRead hread]
  obtain ⟨rest, hrest⟩ := records_of_beginsBlank delimiter hbegins
  rw [hrest]
  rfl

/-- **Blank lines between records cost nothing** where no headings are read. -/
lemma elements_of_withoutBlankLines {fs' : Files} {place' : Path} {bytes' : List UInt8}
    (hkey : LooksLikeNumber (trim key)) (hvalue : LooksLikeNumber (trim value))
    (hopened : file.opened fs = .ok (place, bytes)) (hread : AllRead delimiter bytes)
    (hopened' : file.opened fs' = .ok (place', bytes')) (hread' : AllRead delimiter bytes')
    (hlines : withoutBlankLines delimiter {} (linesOf bytes)
      = withoutBlankLines delimiter {} (linesOf bytes')) :
    (elements fs file delimiter false key value).map (List.map unplaced)
      = (elements fs' file delimiter false key value).map (List.map unplaced) := by
  have hseen : seen (recordsOfBytes delimiter bytes) = seen (recordsOfBytes delimiter bytes') := by
    rw [recordsOfBytes_of_allRead hread, recordsOfBytes_of_allRead hread',
      seen_records_withoutBlankLines 0 0 (fun _ => rfl), hlines,
      ← seen_records_withoutBlankLines 0 0 (fun _ => rfl)]
  rw [elements_eq hkey hvalue hopened hread, elements_eq hkey hvalue hopened' hread']
  cases Columns.resolve file.name key value none with
  | error e => rfl
  | ok columns =>
      have hitems :
          ((recordsOfBytes delimiter bytes).filterMap (itemOf file.name columns)).map unplaced
            = ((recordsOfBytes delimiter bytes').filterMap
              (itemOf file.name columns)).map unplaced := by
        rw [map_unplaced_items, hseen, ← map_unplaced_items]
      exact congrArg Except.ok hitems

/-- **What headings and blank lines cost** in a file whose records can all be read, at positions
that are numbers: headings cost the first element and nothing else, unless the file begins with a
blank line, where they cost nothing; where all records are blank nothing comes; and files that
begin alike and are the same but for blank lines between records have the same elements. -/
theorem elements_headings (hkey : LooksLikeNumber (trim key))
    (hvalue : LooksLikeNumber (trim value))
    (hopened : file.opened fs = .ok (place, bytes)) (hread : AllRead delimiter bytes) :
    (beginsBlank bytes = false → elements fs file delimiter true key value
        = (elements fs file delimiter false key value).map List.tail) ∧
      (beginsBlank bytes = true →
        elements fs file delimiter true key value = elements fs file delimiter false key value) ∧
      ((∀ o ∈ recordsOfBytes delimiter bytes, o.isBlank = true) → ∀ hasHeadings items,
        elements fs file delimiter hasHeadings key value = .ok items → items = []) ∧
      ∀ (fs' : Files) (place' : Path) (bytes' : List UInt8) (hasHeadings : Bool),
        file.opened fs' = .ok (place', bytes') → AllRead delimiter bytes' →
        withoutBlankLines delimiter {} (linesOf bytes)
          = withoutBlankLines delimiter {} (linesOf bytes') →
        (hasHeadings = true → beginsBlank bytes = beginsBlank bytes') →
        (elements fs file delimiter hasHeadings key value).map (List.map unplaced)
          = (elements fs' file delimiter hasHeadings key value).map (List.map unplaced) := by
  refine ⟨elements_of_not_beginsBlank hkey hvalue hopened hread,
    elements_of_beginsBlank hkey hvalue hopened hread, fun hblank hasHeadings items hitems => ?_,
    fun fs' place' bytes' hasHeadings hopened' hread' hlines hbegins => ?_⟩
  · rw [elements_eq hkey hvalue hopened hread] at hitems
    cases hcolumns : Columns.resolve file.name key value none with
    | error e =>
        rw [hcolumns] at hitems
        cases hitems
    | ok columns =>
        rw [hcolumns] at hitems
        cases hitems
        refine List.filterMap_eq_nil_iff.2 fun o ho => itemOf_eq_none_iff.2 (hblank o ?_)
        unfold bodyRecords at ho
        split_ifs at ho
        · exact List.mem_of_mem_tail ho
        · exact ho
  · have hplain := elements_of_withoutBlankLines hkey hvalue hopened hread hopened' hread' hlines
    cases hasHeadings with
    | false => exact hplain
    | true =>
        cases hblank : beginsBlank bytes with
        | true =>
            rw [elements_of_beginsBlank hkey hvalue hopened hread hblank,
              elements_of_beginsBlank hkey hvalue hopened' hread' ((hbegins rfl).symm.trans hblank)]
            exact hplain
        | false =>
            rw [elements_of_not_beginsBlank hkey hvalue hopened hread hblank,
              elements_of_not_beginsBlank hkey hvalue hopened' hread'
                ((hbegins rfl).symm.trans hblank)]
            exact map_unplaced_tail hplain

end Costs

/-- A file of prices. -/
def pricesFile : FileSource := ⟨1, "prices", "prices.csv", "."⟩

/-- The file with a text. -/
def pricesIn (text : String) : Files :=
  { entries := [(["prices.csv"], .file (.bytes text.toUTF8.data.toList))] }

/-- The headings of the prices cost the first element, and a blank line behind them nothing. -/
theorem elements_headings_prices :
    LooksLikeNumber (trim "0") ∧ LooksLikeNumber (trim "1") ∧
      pricesFile.opened (pricesIn "name,price\n\ntea,2\n")
        = .ok (⟨"", ["prices.csv"]⟩, "name,price\n\ntea,2\n".toUTF8.data.toList) ∧
      AllRead ',' "name,price\n\ntea,2\n".toUTF8.data.toList ∧
      elements (pricesIn "name,price\n\ntea,2\n") pricesFile ',' true "0" "1"
        = (elements (pricesIn "name,price\n\ntea,2\n") pricesFile ',' false "0" "1").map
          List.tail ∧
      (elements (pricesIn "name,price\n\ntea,2\n") pricesFile ',' true "0" "1").map
          (List.map unplaced)
        = (elements (pricesIn "name,price\ntea,2\n") pricesFile ',' true "0" "1").map
          (List.map unplaced) := by
  have hkey : LooksLikeNumber (trim "0") := looksLikeNumber_iff.1 (by decide +kernel)
  have hvalue : LooksLikeNumber (trim "1") := looksLikeNumber_iff.1 (by decide +kernel)
  have hread : AllRead ',' "name,price\n\ntea,2\n".toUTF8.data.toList := by decide +kernel
  have hopened : pricesFile.opened (pricesIn "name,price\n\ntea,2\n")
      = .ok (⟨"", ["prices.csv"]⟩, "name,price\n\ntea,2\n".toUTF8.data.toList) := rfl
  obtain ⟨htail, -, -, hsame⟩ := elements_headings hkey hvalue hopened hread
  exact ⟨hkey, hvalue, hopened, hread, htail (by decide +kernel),
    hsame (pricesIn "name,price\ntea,2\n") _ _ true rfl (by decide +kernel) (by decide +kernel)
      fun _ => by decide +kernel⟩

/-- **Behind a blank line the headings are an element**, though all records can be read. -/
theorem elements_behind_blank :
    AllRead ',' "\nname,price\ntea,2\n".toUTF8.data.toList ∧
      elements (pricesIn "\nname,price\ntea,2\n") pricesFile ',' true "0" "1"
        = .ok [.ok ⟨"name", "price"⟩, .ok ⟨"tea", "2"⟩] ∧
      (elements (pricesIn "\nname,price\ntea,2\n") pricesFile ',' false "0" "1").map List.tail
        = .ok [.ok ⟨"tea", "2"⟩] :=
  ⟨by decide +kernel, ok_of_toOption (by decide +kernel), ok_of_toOption (by decide +kernel)⟩

end Crosswalk.Delimited
