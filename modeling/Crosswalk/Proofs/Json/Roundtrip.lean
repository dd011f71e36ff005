import Crosswalk.Proofs.Json.Scalars
import Crosswalk.Proofs.Mapping.Graph

/-!
# JSON there and back

The text of a value, with one member or element a line, is read as this value.  This holds of values
without doubles whose whole numbers have not too many digits, and whose objects have each name once.

* `Json.Faithful` — **values whose text says all about them.**
* `Json.Faithful.reads` — a value is read to the end of its text.
* **`Json.Faithful.ofChars`** — a whole text.
-/

namespace Crosswalk.Json

/-- **Values whose text says all about them.** -/
inductive Faithful : Json → Prop where
  | null : Faithful .null
  | bool (b : Bool) : Faithful (.bool b)
  | int {i : Int} (h : i.natAbs < digitBound) : Faithful (.int i)
  | text (s : String) : Faithful (.text s)
  | list {items : List Json} (h : ∀ v ∈ items, Faithful v) : Faithful (.list items)
  | object {members : List (String × Json)} (distinct : (members.map Prod.fst).Nodup)
    (h : ∀ m ∈ members, Faithful m.2) : Faithful (.object members)

/-! ## Blanks -/

lemma skipSpace_newLine (depth : Nat) (cs : List Char) :
    skipSpace (newLine depth ++ cs) = skipSpace cs := by
  have hall : ∀ c ∈ newLine depth, isSpace c = true := by
    intro c hc
    rcases List.mem_cons.1 hc with rfl | hc
    · rfl
    · rw [List.eq_of_mem_replicate hc]
      rfl
  exact List.dropWhile_append_of_pos hall

lemma skipSpace_cons {c : Char} (hc : isSpace c = false) (cs : List Char) :
    skipSpace (c :: cs) = c :: cs :=
  List.dropWhile_cons_of_neg (by simp [hc])

lemma stops_cons {c : Char} (h : isDigit c = false ∧ c ≠ '.' ∧ c ≠ 'e' ∧ c ≠ 'E')
    (cs : List Char) :
    Stops (c :: cs) := by
  intro d hd
  obtain rfl := Option.some_inj.1 hd
  simpa using h

/-- The text of a value starts with no blank and does not close anything. -/
lemma Faithful.head {v : Json} (h : Faithful v) (depth : Nat) :
    ∃ c cs, indentedChars depth v = c :: cs ∧ isSpace c = false ∧ c ≠ ']' ∧
      c ≠ '\x7d' := by
  cases h with
  | null => exact ⟨_, _, rfl, by decide⟩
  | bool b => cases b <;> exact ⟨_, _, rfl, by decide⟩
  | @int i h =>
      rcases head_wholeText i with ⟨d, ds, heq, hd⟩ | ⟨d, ds, heq, hd⟩
      · have hspace : isSpace d = false := by
          rw [← Bool.not_eq_true, isSpace]
          intro h
          simp only [Bool.or_eq_true, decide_eq_true_eq] at h
          obtain ((rfl | rfl) | rfl) | rfl := h <;> cases hd
        refine ⟨d, ds, heq, hspace, ?_, ?_⟩ <;> (rintro rfl; cases hd)
      · exact ⟨_, _, heq, by decide⟩
  | text s => exact ⟨_, _, rfl, by decide⟩
  | @list items h => cases items <;> exact ⟨_, _, rfl, by decide⟩
  | @object members distinct h => cases members <;> exact ⟨_, _, rfl, by decide⟩

/-! ## Values -/

/-- A value is read to the end of its text. -/
def Reads (v : Json) : Prop := ∀ depth fuel rest, (indentedChars depth v).length ≤ fuel + 1 →
  Stops rest → readValue (fuel + 1) (indentedChars depth v ++ rest) = .ok (v, rest)

/-- As much fuel as there are characters is enough: there is at least one. -/
lemma Reads.readValue {v : Json} (hv : Faithful v ∧ Reads v) {depth fuel : Nat}
    (hfuel : (indentedChars depth v).length ≤ fuel) {rest : List Char} (hrest : Stops rest) :
    Json.readValue fuel (indentedChars depth v ++ rest) = .ok (v, rest) := by
  obtain ⟨c, cs, hc, -⟩ := hv.1.head depth
  have hpos : 0 < (indentedChars depth v).length := by simp [hc]
  obtain ⟨fuel, rfl⟩ : ∃ k, fuel = k + 1 := ⟨fuel - 1, by omega⟩
  exact hv.2 depth fuel rest hfuel hrest

lemma readValue_scalar {c : Char} {cs : List Char} {fuel : Nat} (hquote : c ≠ '"')
    (hlist : c ≠ '[')
    (hobject : c ≠ '\x7b') : readValue (fuel + 1) (c :: cs) = readScalar (c :: cs) := by
  rw [readValue]
  · intro rest h
    exact hquote (List.cons.inj h).1
  · intro rest h
    exact hlist (List.cons.inj h).1
  · intro rest h
    exact hobject (List.cons.inj h).1

/-- What comes behind an element of a list: a comma and the other elements, or the end. -/
def itemsBehind (depth : Nat) (vs : List Json) : List Char :=
  separator [','] vs ++ indentedItems depth vs

lemma length_itemsBehind_pos (depth : Nat) (vs : List Json) :
    0 < (itemsBehind depth vs).length := by
  cases vs with
  | nil => simp [itemsBehind, indentedItems, newLine]
  | cons v vs => simp [itemsBehind, separator]

lemma stops_itemsBehind (depth : Nat) (vs : List Json) (rest : List Char) :
    Stops (itemsBehind depth vs ++ rest) := by
  cases vs with
  | nil => exact stops_cons (by decide) _
  | cons v vs => exact stops_cons (by decide) _

lemma indentedItems_cons (depth : Nat) (v : Json) (vs : List Json) :
    indentedItems depth (v :: vs)
      = newLine (depth + 1) ++ (indentedChars (depth + 1) v ++ itemsBehind depth vs) := by
  rw [indentedItems, itemsBehind]

/-- **The elements of a list** are read to its end. -/
lemma readItems_of_reads {vs : List Json} (hvs : ∀ w ∈ vs, Faithful w ∧ Reads w) {v : Json}
    (hv : Faithful v ∧ Reads v) {depth fuel : Nat} {rest : List Char}
    (hfuel : (indentedChars (depth + 1) v).length + (itemsBehind depth vs).length ≤ fuel) :
    readItems fuel (indentedChars (depth + 1) v ++ (itemsBehind depth vs ++ rest))
      = .ok (v :: vs, rest) := by
  induction vs generalizing v fuel with
  | nil =>
      have hpos := length_itemsBehind_pos depth []
      obtain ⟨fuel, rfl⟩ : ∃ k, fuel = k + 1 := ⟨fuel - 1, by omega⟩
      have hend : skipSpace (itemsBehind depth [] ++ rest) = ']' :: rest := by
        rw [itemsBehind, separator, List.isEmpty_nil, if_pos rfl, List.nil_append, indentedItems,
          List.append_assoc, skipSpace_newLine]
        rfl
      rw [readItems, Reads.readValue hv (by omega) (stops_itemsBehind _ _ _), ok_bind]
      simp only [hend]
  | cons w ws ih =>
      have hpos := length_itemsBehind_pos depth (w :: ws)
      obtain ⟨fuel, rfl⟩ : ∃ k, fuel = k + 1 := ⟨fuel - 1, by omega⟩
      obtain ⟨hw, hws⟩ := List.forall_mem_cons.1 hvs
      have hnext : itemsBehind depth (w :: ws)
          = ',' :: (newLine (depth + 1) ++
            (indentedChars (depth + 1) w ++ itemsBehind depth ws)) := by
        rw [itemsBehind, indentedItems_cons]
        rfl
      obtain ⟨c, cs, hc, hspace, -⟩ := hw.1.head (depth + 1)
      have hcomma : skipSpace (itemsBehind depth (w :: ws) ++ rest)
          = ',' :: (newLine (depth + 1) ++
            (indentedChars (depth + 1) w ++ (itemsBehind depth ws ++ rest))) := by
        rw [hnext, List.cons_append, skipSpace_cons rfl, List.append_assoc, List.append_assoc]
      have hskip : skipSpace (newLine (depth + 1) ++
            (indentedChars (depth + 1) w ++ (itemsBehind depth ws ++ rest)))
          = indentedChars (depth + 1) w ++ (itemsBehind depth ws ++ rest) := by
        rw [skipSpace_newLine, hc, List.cons_append, skipSpace_cons hspace]
      have hlen := congrArg List.length hnext
      simp only [List.length_cons, List.length_append] at hlen
      rw [readItems, Reads.readValue hv (by omega) (stops_itemsBehind _ _ _), ok_bind]
      simp only [hcomma, hskip]
      rw [ih hws hw (by omega), ok_bind]

/-- A member of an object with the blank in front of its value. -/
def memberText (depth : Nat) (m : String × Json) : List Char :=
  '"' :: (m.1.toList.flatMap (escapeChar false) ++
    '"' :: ':' :: ' ' :: indentedChars (depth + 1) m.2)

/-- What comes behind a member of an object: a comma and the other members, or the end. -/
def membersBehind (depth : Nat) (ms : List (String × Json)) : List Char :=
  separator [','] ms ++ indentedMembers depth ms

lemma length_membersBehind_pos (depth : Nat) (ms : List (String × Json)) :
    0 < (membersBehind depth ms).length := by
  cases ms with
  | nil => simp [membersBehind, indentedMembers, newLine]
  | cons m ms => simp [membersBehind, separator]

lemma stops_membersBehind (depth : Nat) (ms : List (String × Json)) (rest : List Char) :
    Stops (membersBehind depth ms ++ rest) := by
  cases ms with
  | nil => exact stops_cons (by decide) _
  | cons m ms => exact stops_cons (by decide) _

lemma indentedMembers_cons (depth : Nat) (m : String × Json) (ms : List (String × Json)) :
    indentedMembers depth (m :: ms)
      = newLine (depth + 1) ++ (memberText depth m ++ membersBehind depth ms) := by
  obtain ⟨name, v⟩ := m
  rw [indentedMembers, membersBehind, memberText, escapedText]
  simp

lemma memberText_append (depth : Nat) (m : String × Json) (behind : List Char) :
    memberText depth m ++ behind = '"' :: (m.1.toList.flatMap (escapeChar false) ++
      '"' :: ':' :: ' ' :: (indentedChars (depth + 1) m.2 ++ behind)) := by
  simp [memberText]

/-- The value of a member is read behind a blank. -/
lemma readValue_member {m : String × Json} (hm : Faithful m.2 ∧ Reads m.2) {depth fuel : Nat}
    (hfuel : (memberText depth m).length ≤ fuel) {rest : List Char} (hrest : Stops rest) :
    readValue fuel (skipSpace (' ' :: (indentedChars (depth + 1) m.2 ++ rest)))
      = .ok (m.2, rest) := by
  obtain ⟨c, cs, hc, hspace, -⟩ := hm.1.head (depth + 1)
  have hskip : skipSpace (' ' :: (indentedChars (depth + 1) m.2 ++ rest))
      = indentedChars (depth + 1) m.2 ++ rest := by
    rw [hc, List.cons_append]
    exact (List.dropWhile_cons_of_pos rfl).trans (skipSpace_cons hspace _)
  rw [hskip]
  refine Reads.readValue hm ?_ hrest
  simp only [memberText, List.length_cons, List.length_append] at hfuel
  omega

/-- **The members of an object** are read to its end. -/
lemma readMembers_of_reads {ms : List (String × Json)}
    (hms : ∀ m ∈ ms, Faithful m.2 ∧ Reads m.2)
    {m : String × Json} (hm : Faithful m.2 ∧ Reads m.2) {depth fuel : Nat} {rest : List Char}
    (hfuel : (memberText depth m).length + (membersBehind depth ms).length ≤ fuel) :
    readMembers fuel (memberText depth m ++ (membersBehind depth ms ++ rest))
      = .ok (m :: ms, rest) := by
  induction ms generalizing m fuel with
  | nil =>
      have hpos := length_membersBehind_pos depth []
      obtain ⟨fuel, rfl⟩ : ∃ k, fuel = k + 1 := ⟨fuel - 1, by omega⟩
      have hvalue := readValue_member hm (by omega : (memberText depth m).length ≤ fuel)
        (stops_membersBehind depth [] rest)
      have hend : skipSpace (membersBehind depth [] ++ rest) = '\x7d' :: rest := by
        rw [membersBehind, separator, List.isEmpty_nil, if_pos rfl, List.nil_append,
          indentedMembers, List.append_assoc, skipSpace_newLine]
        rfl
      rw [memberText_append, readMembers, readText_escapedText]
      simp only [skipSpace_cons (c := ':') rfl, hvalue, ok_bind, hend, String.ofList_toList]
  | cons w ws ih =>
      have hpos := length_membersBehind_pos depth (w :: ws)
      obtain ⟨fuel, rfl⟩ : ∃ k, fuel = k + 1 := ⟨fuel - 1, by omega⟩
      obtain ⟨hw, hws⟩ := List.forall_mem_cons.1 hms
      have hvalue := readValue_member hm (by omega : (memberText depth m).length ≤ fuel)
        (stops_membersBehind depth (w :: ws) rest)
      have hnext : membersBehind depth (w :: ws)
          = ',' :: (newLine (depth + 1) ++ (memberText depth w ++ membersBehind depth ws)) := by
        rw [membersBehind, indentedMembers_cons]
        rfl
      have hcomma : skipSpace (membersBehind depth (w :: ws) ++ rest)
          = ',' :: (newLine (depth + 1) ++
            (memberText depth w ++ (membersBehind depth ws ++ rest))) := by
        rw [hnext, List.cons_append, skipSpace_cons rfl, List.append_assoc, List.append_assoc]
      have hskip : skipSpace (newLine (depth + 1) ++
            (memberText depth w ++ (membersBehind depth ws ++ rest)))
          = memberText depth w ++ (membersBehind depth ws ++ rest) := by
        rw [skipSpace_newLine, memberText_append]
        exact skipSpace_cons rfl _
      have hlen := congrArg List.length hnext
      simp only [List.length_cons, List.length_append] at hlen
      have hmembers := ih hws hw
        (by omega : (memberText depth w).length + (membersBehind depth ws).length ≤ fuel)
      rw [memberText_append, readMembers, readText_escapedText]
      simp only [skipSpace_cons (c := ':') rfl, hvalue, ok_bind, hcomma, hskip, hmembers,
        String.ofList_toList]

lemma readValue_text (s : String) (fuel : Nat) (rest : List Char) :
    readValue (fuel + 1) (escapedText false s ++ rest) = .ok (.text s, rest) := by
  have hsplit : escapedText false s ++ rest
      = '"' :: (s.toList.flatMap (escapeChar false) ++ '"' :: rest) := by
    simp [escapedText]
  rw [hsplit, readValue, readText_escapedText]
  simp only [String.ofList_toList]

lemma readValue_int {i : Int} (hi : i.natAbs < digitBound) (fuel : Nat) {rest : List Char}
    (hrest : Stops rest) : readValue (fuel + 1) (wholeText i ++ rest) = .ok (.int i, rest) := by
  have hscalar : readValue (fuel + 1) (wholeText i ++ rest) = readScalar (wholeText i ++ rest) := by
    rcases head_wholeText i with ⟨d, ds, heq, hd⟩ | ⟨d, ds, heq, hd⟩
    · rw [heq, List.cons_append]
      refine readValue_scalar ?_ ?_ ?_ <;> (rintro rfl; cases hd)
    · rw [heq, List.cons_append]
      exact readValue_scalar (by decide) (by decide) (by decide)
  rw [hscalar, readScalar_int hi hrest]

lemma readValue_list {fuel : Nat} {cs rest : List Char} {c : Char} {items : List Json}
    {after : List Char} (hcs : skipSpace cs = c :: rest) (hc : c ≠ ']')
    (h : readItems fuel (c :: rest) = .ok (items, after)) :
    readValue (fuel + 1) ('[' :: cs) = .ok (.list items, after) := by
  rw [readValue, hcs]
  split
  · next heq => exact absurd (List.cons.inj heq).1 hc
  · rw [h, ok_bind]

lemma readValue_object {fuel : Nat} {cs rest : List Char} {c : Char}
    {members : List (String × Json)}
    {after : List Char} (hcs : skipSpace cs = c :: rest) (hc : c ≠ '\x7d')
    (h : readMembers fuel (c :: rest) = .ok (members, after))
    (distinct : (members.map Prod.fst).Nodup) :
    readValue (fuel + 1) ('\x7b' :: cs) = .ok (.object members, after) := by
  rw [readValue, hcs]
  split
  · next heq => exact absurd (List.cons.inj heq).1 hc
  · rw [h, ok_bind]
    exact congrArg (fun ms => Except.ok (object ms, after)) (Members.update_nil distinct)

/-- A list is read to the end of its text if its elements are. -/
lemma reads_list {items : List Json} (hall : ∀ w ∈ items, Faithful w ∧ Reads w) :
    Reads (.list items) := by
  intro depth fuel rest hfuel hrest
  cases items with
  | nil => rfl
  | cons v vs =>
      obtain ⟨hv, hvs⟩ := List.forall_mem_cons.1 hall
      have htext : indentedChars depth (.list (v :: vs)) = '[' :: (newLine (depth + 1) ++
          (indentedChars (depth + 1) v ++ itemsBehind depth vs)) := by
        rw [indentedChars, ← indentedItems_cons]
        rfl
      obtain ⟨c, cs, hc, hspace, hclose, -⟩ := hv.1.head (depth + 1)
      rw [htext] at hfuel ⊢
      simp only [List.length_cons, List.length_append] at hfuel
      rw [List.cons_append, List.append_assoc, List.append_assoc]
      have hskip : skipSpace (newLine (depth + 1) ++
            (indentedChars (depth + 1) v ++ (itemsBehind depth vs ++ rest)))
          = c :: (cs ++ (itemsBehind depth vs ++ rest)) := by
        rw [skipSpace_newLine, hc, List.cons_append, skipSpace_cons hspace]
      refine readValue_list hskip hclose ?_
      rw [← List.cons_append, ← hc]
      exact readItems_of_reads hvs hv (by omega)

/-- An object is read to the end of its text if the values of its members are. -/
lemma reads_object {members : List (String × Json)} (distinct : (members.map Prod.fst).Nodup)
    (hall : ∀ m ∈ members, Faithful m.2 ∧ Reads m.2) : Reads (.object members) := by
  intro depth fuel rest hfuel hrest
  cases members with
  | nil => rfl
  | cons m ms =>
      obtain ⟨hm, hms⟩ := List.forall_mem_cons.1 hall
      have htext : indentedChars depth (.object (m :: ms)) = '\x7b' :: (newLine (depth + 1) ++
          (memberText depth m ++ membersBehind depth ms)) := by
        rw [indentedChars, ← indentedMembers_cons]
        rfl
      rw [htext] at hfuel ⊢
      simp only [List.length_cons, List.length_append] at hfuel
      rw [List.cons_append, List.append_assoc, List.append_assoc]
      have hskip : ∃ cs, memberText depth m ++ (membersBehind depth ms ++ rest) = '"' :: cs ∧
          skipSpace (newLine (depth + 1) ++
            (memberText depth m ++ (membersBehind depth ms ++ rest))) = '"' :: cs := by
        rw [skipSpace_newLine, memberText_append]
        exact ⟨_, rfl, skipSpace_cons rfl _⟩
      obtain ⟨cs, hcs, hskip⟩ := hskip
      refine readValue_object hskip (by decide) ?_ distinct
      rw [← hcs]
      exact readMembers_of_reads hms hm (by omega)

/-- **A value is read to the end of its text.** -/
theorem Faithful.reads {v : Json} (h : Faithful v) : Reads v := by
  induction h with
  | null => exact fun _ _ _ _ _ => rfl
  | bool b => cases b <;> exact fun _ _ _ _ _ => rfl
  | int h => exact fun _ fuel _ _ hrest => readValue_int h fuel hrest
  | text s => exact fun _ fuel rest _ _ => readValue_text s fuel rest
  | list h ih => exact reads_list fun w hw => ⟨h w hw, ih w hw⟩
  | object distinct h ih => exact reads_object distinct fun m hm => ⟨h m hm, ih m hm⟩

/-- **The text of a value is read as this value.** -/
theorem Faithful.ofChars {v : Json} (h : Faithful v) :
    Json.ofChars (v.indentedChars 0) = .ok v := by
  obtain ⟨c, cs, hc, hspace, -⟩ := h.head 0
  have hskip : skipSpace (v.indentedChars 0) = v.indentedChars 0 := by
    rw [hc, skipSpace_cons hspace]
  have hread := h.reads 0 (v.indentedChars 0).length [] (by omega) (by simp [Stops])
  rw [List.append_nil] at hread
  rw [Json.ofChars, hskip, hread]
  rfl

end Crosswalk.Json
