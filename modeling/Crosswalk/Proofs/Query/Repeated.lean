import Crosswalk.Proofs.Query.Documents
import Crosswalk.Proofs.Query.Steps
import Crosswalk.Source.Catalog

/-!
# Fields that are given twice

A field of a query document or of a catalog is the first element with its tag.  So nothing depends
on the elements that repeat the tag of an earlier one: both are read as if each field were given
once, and whether something is given twice is only asked of the labels of nodes and of the names of
sources.

* `Node.firstFields`, `Node.unrepeated` — **an element without repeated fields**, in itself or in
  the entries below it as well; `fieldsOf_firstFields` and `fieldsOf_unrepeated` say what is left.
* `Entries` — how the entries of a document are read, of which none has the key of another one.
* `nodeEntries`, `sourceEntries` — the nodes of a query and the sources of a catalog.
* `Node.Shares` — **two entries have one key.**
* **`load_unrepeated`** — repeated fields are not seen, and only shared keys are a violation.
-/

namespace Crosswalk

namespace Xml

/-! ## Elements without repeated fields -/

/-- **Nodes without repeated fields**: without the elements whose tag is that of a field and of an
element in front of them, or one of `seen`. -/
def firstOnly (isField : String → Bool) (seen : List String) : List Node → List Node
  | [] => []
  | .element tag attributes children :: ns =>
    if isField tag && seen.contains tag then firstOnly isField seen ns
    else .element tag attributes children :: firstOnly isField (tag :: seen) ns
  | n :: ns => n :: firstOnly isField seen ns

namespace Node

/-- The elements with a tag in an element. -/
def fieldsOf (tag : String) (n : Node) : List Node := n.children.filter (isNamed tag)

/-- An element without repeated fields. -/
def firstFields : Node → Node
  | element tag attributes children =>
      element tag attributes (firstOnly (fun _ => true) [] children)
  | n => n

/-- An entry without repeated fields; what is no entry stays. -/
def entryFields (entry : String) (n : Node) : Node := if n.isNamed entry then n.firstFields else n

/-- **A root without repeated fields** in itself or in the entries, of which there may be many. -/
def unrepeated (entry : String) : Node → Node
  | element tag attributes children =>
    element tag attributes ((firstOnly (· != entry) [] children).map (entryFields entry))
  | n => n

/-- **Two entries of a root have one text in a field.** -/
def Shares (root : Node) (entry field text : String) : Prop :=
  ∃ n m, [n, m].Sublist (root.fieldsOf entry) ∧
    childText n field = .ok (some text) ∧ childText m field = .ok (some text)

end Node

section FirstOnly

variable {isField : String → Bool} {seen : List String}

/-- **Of the elements with the tag of a field only the first one is left**; of other elements all
are. -/
lemma filter_firstOnly (tag : String) (ns : List Node) :
    (firstOnly isField seen ns).filter (Node.isNamed tag) =
      if isField tag then if tag ∈ seen then [] else (ns.filter (Node.isNamed tag)).take 1
      else ns.filter (Node.isNamed tag) := by
  induction ns generalizing seen with
  | nil => simp [firstOnly]
  | cons n ns ih =>
      cases n with
      | element t attributes children =>
          by_cases ht : t = tag
          · subst ht
            by_cases hfield : isField t <;> by_cases hseen : t ∈ seen <;>
              simp [firstOnly, hfield, hseen, ih, Node.isNamed]
          · have hskip (ns : List Node) :
                (Node.element t attributes children :: ns).filter (Node.isNamed tag)
                  = ns.filter (Node.isNamed tag) := by
              simp [Node.isNamed, ht]
            rw [firstOnly, hskip]
            split
            · exact ih
            · rw [hskip, ih]
              simp [Ne.symm ht]
      | text s => simp [firstOnly, ih, Node.isNamed]
      | reference name => simp [firstOnly, ih, Node.isNamed]

/-- **The first element with a tag is left**, so its text is. -/
lemma textOfFirst_firstOnly {wanted : String} (h : wanted ∉ seen) (ns : List Node) :
    textOfFirst wanted (firstOnly isField seen ns) = textOfFirst wanted ns := by
  induction ns generalizing seen with
  | nil => rfl
  | cons n ns ih =>
      cases n with
      | element tag attributes children =>
          by_cases htag : tag = wanted
          · subst htag
            simp [firstOnly, h, textOfFirst, Node.isChild, Node.tag]
          · have hskip (ns : List Node) :
                textOfFirst wanted (.element tag attributes children :: ns)
                  = textOfFirst wanted ns := by
              simp [textOfFirst, Node.isChild, Node.tag, htag]
            rw [firstOnly, hskip]
            split
            · exact ih h
            · rw [hskip, ih (by simpa [Ne.symm htag] using h)]
      | text s => simp only [firstOnly, textOfFirst, ih h]
      | reference name => simp only [firstOnly, textOfFirst, ih h]

end FirstOnly

namespace Node

/-- **Each field of an element is left once**, where it is first. -/
lemma fieldsOf_firstFields (n : Node) (tag : String) :
    n.firstFields.fieldsOf tag = (n.fieldsOf tag).take 1 := by
  cases n with
  | element t attributes ns =>
      simp only [firstFields, fieldsOf, children, filter_firstOnly, if_true, List.not_mem_nil,
        if_false]
  | _ => rfl

@[simp] lemma childText_firstFields (n : Node) (wanted : String) :
    childText n.firstFields wanted = childText n wanted := by
  cases n with
  | element => simp only [childText, firstFields, children, textOfFirst_firstOnly List.not_mem_nil]
  | _ => rfl

@[simp] lemma rawChildText_firstFields (n : Node) (wanted : String) :
    rawChildText n.firstFields wanted = rawChildText n wanted := by
  cases n with
  | element => exact textOfFirst_firstOnly List.not_mem_nil _
  | _ => rfl

@[simp] lemma attribute?_firstFields (n : Node) (name : String) :
    n.firstFields.attribute? name = n.attribute? name := by
  cases n <;> rfl

@[simp] lemma isNamed_firstFields (n : Node) (tag : String) :
    n.firstFields.isNamed tag = n.isNamed tag := by
  cases n <;> rfl

@[simp] lemma tag_firstFields (n : Node) : n.firstFields.tag = n.tag := by
  cases n <;> rfl

@[simp] lemma isChild_firstFields (n : Node) : n.firstFields.isChild = n.isChild := by
  cases n <;> rfl

lemma entryFields_of_isNamed {n : Node} {entry : String} (h : n.isNamed entry = true) :
    n.entryFields entry = n.firstFields := if_pos h

lemma entryFields_of_ne {n : Node} {tag entry : String} (h : n.isNamed tag = true)
    (hne : tag ≠ entry) : n.entryFields entry = n := by
  refine if_neg fun hentry => hne ?_
  cases n with
  | element t attributes children =>
      exact (of_decide_eq_true h).symm.trans (of_decide_eq_true hentry)
  | _ => cases h

@[simp] lemma isNamed_entryFields (n : Node) (entry tag : String) :
    (n.entryFields entry).isNamed tag = n.isNamed tag := by
  unfold entryFields
  split <;> simp

@[simp] lemma tag_entryFields (n : Node) (entry : String) : (n.entryFields entry).tag = n.tag := by
  unfold entryFields
  split <;> simp

@[simp] lemma isChild_entryFields (n : Node) (entry : String) :
    (n.entryFields entry).isChild = n.isChild := by
  unfold entryFields
  split <;> simp

lemma textOfFirst_map_entryFields {wanted entry : String} (h : wanted ≠ entry) (ns : List Node) :
    textOfFirst wanted (ns.map (entryFields entry)) = textOfFirst wanted ns := by
  induction ns with
  | nil => rfl
  | cons n ns ih =>
      by_cases hnamed : n.isNamed wanted = true
      · rw [List.map_cons, entryFields_of_ne hnamed h, textOfFirst, textOfFirst, ih]
      · have hother (t : String) (ht : n.tag = .ok t) : t ≠ wanted := by
          rintro rfl
          cases n <;> simp_all [tag, isNamed]
        simp only [List.map_cons, textOfFirst, isChild_entryFields, tag_entryFields, ih]
        cases htag : n.tag with
        | ok t => simp [hother t htag]
        | error e => rfl

/-- **A field of a root** is the same without repeated ones. -/
lemma childText_unrepeated {wanted entry : String} (h : wanted ≠ entry) (root : Node) :
    childText (root.unrepeated entry) wanted = childText root wanted := by
  cases root with
  | element tag attributes ns =>
      simp only [childText, unrepeated, children, textOfFirst_map_entryFields h,
        textOfFirst_firstOnly List.not_mem_nil]
  | _ => rfl

/-- **Each field of a root is left once**, where it is first, and so is each field of each entry. -/
lemma fieldsOf_unrepeated (root : Node) (entry tag : String) :
    (root.unrepeated entry).fieldsOf tag =
      if tag = entry then (root.fieldsOf entry).map firstFields
      else (root.fieldsOf tag).take 1 := by
  cases root with
  | element t attributes ns =>
      have hsame : isNamed tag ∘ entryFields entry = isNamed tag := by
        funext n
        exact isNamed_entryFields n entry tag
      simp only [unrepeated, fieldsOf, children, List.filter_map, hsame, filter_firstOnly]
      by_cases htag : tag = entry
      · subst htag
        rw [if_neg (by simp), if_pos rfl]
        exact List.map_congr_left fun n hn => entryFields_of_isNamed (List.mem_filter.1 hn).2
      · rw [if_pos (by simpa using htag), if_neg List.not_mem_nil, if_neg htag]
        refine (List.map_congr_left fun n hn => ?_).trans (List.map_id _)
        exact entryFields_of_ne (List.mem_filter.1 (List.mem_of_mem_take hn)).2 htag
  | _ => simp [unrepeated, fieldsOf, children]

end Node

end Xml

/-! ## Failures that are no violation -/

/-- **A computation that finds no parts which do not fit together.** -/
def Unclashed {α : Type} (x : Except Error α) : Prop :=
  ∀ problem, x ≠ .error (.schema problem)

section Unclashed

variable {α β : Type}

lemma unclashed_ok (a : α) : Unclashed (.ok a : Except Error α) := nofun

lemma unclashed_parse (problem : ParseProblem) (place : Option String) :
    Unclashed (.error (.parse problem place) : Except Error α) := nofun

lemma unclashed_plain (x : Except Cause α) : Unclashed (x.mapError Error.plain) := by
  cases x <;> exact nofun

lemma Unclashed.bind {x : Except Error α} {f : α → Except Error β} (hx : Unclashed x)
    (hf : ∀ a, Unclashed (f a)) : Unclashed (x >>= f) := by
  intro problem h
  rcases bind_eq_error.1 h with h | ⟨a, -, h⟩
  · exact hx problem h
  · exact hf a problem h

lemma Unclashed.ite {p : Prop} [Decidable p] {x y : Except Error α} (hx : Unclashed x)
    (hy : Unclashed y) : Unclashed (if p then x else y) := by
  split
  · exact hx
  · exact hy

lemma Unclashed.mapM {f : α → Except Error β} (hf : ∀ a, Unclashed (f a)) (xs : List α) :
    Unclashed (xs.mapM f) := by
  intro problem h
  obtain ⟨a, -, ha⟩ := exists_of_mapM_error h
  exact hf a problem ha

lemma Unclashed.inPlace {x : Except Error α} (hx : Unclashed x) (place : String) :
    Unclashed (x.mapError (Error.inPlace place)) := by
  intro problem h
  cases x with
  | ok a => cases h
  | error e =>
      rw [Except.mapError, Except.error.injEq] at h
      unfold Error.inPlace at h
      split at h
      · cases h
      · exact hx problem (congrArg Except.error h)

lemma unclashed_textOfFirst (wanted : String) (ns : List Xml.Node) :
    Unclashed (Xml.textOfFirst wanted ns) := by
  induction ns with
  | nil => exact unclashed_ok _
  | cons n ns ih =>
      rw [Xml.textOfFirst]
      cases n with
      | element tag attributes children => exact (unclashed_ok _).ite ih
      | text s => exact ih
      | reference name =>
          intro problem h
          cases h

lemma unclashed_childText (n : Xml.Node) (wanted : String) : Unclashed (Xml.childText n wanted) :=
  (unclashed_textOfFirst wanted n.children).bind fun _ => unclashed_ok _

lemma unclashed_requiredText (tag place : String) (given : Option String) :
    Unclashed (requiredText tag place given) := by
  cases given with
  | none => exact unclashed_parse _ _
  | some s => exact (unclashed_parse _ _).ite (unclashed_ok s)

lemma unclashed_stepsOf (raw : Option String) : Unclashed (stepsOf raw) := by
  intro problem h
  obtain ⟨_, _, _, -, -, hmisses⟩ := stepsOf_eq_error_iff.1 h
  rcases hmisses.told with ⟨_, h⟩ | ⟨h, -⟩ <;> cases h

lemma unclashed_outputOf (raw : Option String) : Unclashed (outputOf raw) := by
  rw [outputOf]
  split
  · exact unclashed_ok _
  · exact unclashed_ok _
  · exact unclashed_ok _
  · exact unclashed_ok _
  · exact unclashed_ok _
  · exact unclashed_parse _ _

/-- **A node alone** is no violation. -/
lemma NodeSpec.unclashed_ofElement (n : Xml.Node) (place : String) :
    Unclashed (NodeSpec.ofElement n place) := by
  refine (unclashed_childText n _).bind fun _ => (unclashed_childText n _).bind fun _ =>
    (unclashed_requiredText _ _ _).bind fun _ => (unclashed_requiredText _ _ _).bind fun _ =>
      Unclashed.inPlace ?_ _
  refine (unclashed_childText n _).bind fun _ => (unclashed_childText n _).bind fun _ =>
    (unclashed_stepsOf _).bind fun _ => (unclashed_childText n _).bind fun _ =>
      (unclashed_childText n _).bind fun _ => (unclashed_outputOf _).bind fun _ => unclashed_ok _

namespace Source

lemma unclashed_fieldText (n : Xml.Node) (place field : String) :
    Unclashed (fieldText n place field) := by
  refine (unclashed_childText n field).bind fun given => ?_
  cases given with
  | none => exact unclashed_parse _ _
  | some s => exact unclashed_ok s

lemma unclashed_delimiterText (n : Xml.Node) (place : String) :
    Unclashed (delimiterText n place) := by
  refine (unclashed_textOfFirst _ n.children).bind fun given => ?_
  cases given with
  | none => exact unclashed_parse _ _
  | some raw => exact (unclashed_ok _).ite ((unclashed_ok _).ite (unclashed_parse _ _))

lemma unclashed_fieldValue (n : Xml.Node) (place field : String) :
    Unclashed (fieldValue n place field) := by
  unfold fieldValue
  split
  · exact (unclashed_delimiterText n place).bind fun _ => unclashed_ok _
  · exact (unclashed_fieldText n place _).bind fun _ => unclashed_ok _
  · exact (unclashed_fieldText n place _).bind fun _ => unclashed_ok _

/-- **A source alone** is no violation. -/
lemma unclashed_ofElement (fs : Files) (n : Xml.Node) (place : String) (directory : Path) :
    Unclashed (ofElement fs n place directory) := by
  unfold ofElement
  refine Unclashed.ite (unclashed_parse _ _) ?_
  refine (Unclashed.mapM (unclashed_fieldValue n place) _).bind fun fields => ?_
  refine (unclashed_plain _).bind fun fields => ?_
  split
  · exact unclashed_ok _
  · exact unclashed_parse _ _
  · exact unclashed_parse _ _

end Source

end Unclashed

/-! ## Entries with keys of their own -/

/-- **How entries are read** from a document, of which none has the key of another one.  An entry
may hold fields that repeat others, and these do not matter; the only violation is a key that is
shared. -/
structure Entries (α : Type) where
  /-- The tag of entries. -/
  tag : String
  /-- The entry with a number from its element. -/
  read : Nat → Xml.Node → Except Error α
  /-- The key of an entry. -/
  key : α → String
  /-- The field that holds the key. -/
  keyField : String
  /-- How a key is told that two entries have. -/
  shared : String → SchemaProblem
  read_firstFields (i : Nat) (n : Xml.Node) : read i n.firstFields = read i n
  childText_keyField {i : Nat} {n : Xml.Node} {a : α} (h : read i n = .ok a) :
    Xml.childText n keyField = .ok (some (key a))
  unclashed_read (i : Nat) (n : Xml.Node) : Unclashed (read i n)

namespace Entries

variable {α : Type} (E : Entries α)

/-- **The entries among some nodes**, behind those that are read already. -/
def readAll (seen : List α) : List Xml.Node → Except Error (List α)
  | [] => .ok seen
  | n :: ns =>
    if n.isChild then do
      if (← n.tag) = E.tag then do
        let a ← E.read seen.length n
        if seen.any (E.key · = E.key a) then .error (.schema (E.shared (E.key a)))
        else readAll (seen ++ [a]) ns
      else readAll seen ns
    else readAll seen ns

section Element

variable {tag : String} (seen : List α) (attributes : List (String × String))
  (children ns : List Xml.Node)

/-- An element that is no entry is passed. -/
lemma readAll_other (h : tag ≠ E.tag) :
    E.readAll seen (.element tag attributes children :: ns) = E.readAll seen ns := by
  simp [readAll, Xml.Node.isChild, Xml.Node.tag, h]

lemma readAll_entry (h : tag = E.tag) :
    E.readAll seen (.element tag attributes children :: ns) =
      E.read seen.length (.element tag attributes children) >>= fun a =>
        if seen.any (E.key · = E.key a) then .error (.schema (E.shared (E.key a)))
        else E.readAll (seen ++ [a]) ns := by
  simp [readAll, Xml.Node.isChild, Xml.Node.tag, h]

end Element

/-- Repeated fields of entries do not matter. -/
lemma readAll_map (seen : List α) (ns : List Xml.Node) :
    E.readAll seen (ns.map (Xml.Node.entryFields E.tag)) = E.readAll seen ns := by
  induction ns generalizing seen with
  | nil => rfl
  | cons n ns ih =>
      have hread : E.read seen.length (n.entryFields E.tag) = E.read seen.length n := by
        rw [Xml.Node.entryFields]
        split
        · exact E.read_firstFields _ n
        · rfl
      simp only [List.map_cons, readAll, hread, Xml.Node.tag_entryFields,
        Xml.Node.isChild_entryFields, ih]

/-- **Elements of a document that are no entries** do not matter. -/
lemma readAll_firstOnly (seen : List α) (tags : List String) (ns : List Xml.Node) :
    E.readAll seen (Xml.firstOnly (· != E.tag) tags ns) = E.readAll seen ns := by
  induction ns generalizing seen tags with
  | nil => rfl
  | cons n ns ih =>
      cases n with
      | element tag attributes children =>
          by_cases htag : tag = E.tag
          · simp only [Xml.firstOnly, htag, bne_self_eq_false, Bool.false_and, Bool.false_eq_true,
              if_false, E.readAll_entry _ _ _ _ rfl, ih]
          · rw [Xml.firstOnly, E.readAll_other _ _ _ _ htag]
            split
            · exact ih _ _
            · rw [E.readAll_other _ _ _ _ htag, ih]
      | text s => simp only [Xml.firstOnly, readAll, ih]
      | reference name => simp only [Xml.firstOnly, readAll, ih]

/-- **Repeated fields do not matter**, neither in the entries nor beside them. -/
lemma readAll_unrepeated (root : Xml.Node) :
    E.readAll [] (root.unrepeated E.tag).children = E.readAll [] root.children := by
  cases root with
  | element tag attributes ns => exact (E.readAll_map _ _).trans (E.readAll_firstOnly _ _ _)
  | _ => rfl

/-- **The only violation is a shared key**: of two entries among the nodes, or of one of them and
one in front of them. -/
lemma shares_of_readAll {seen : List α} {before ns : List Xml.Node} {problem : SchemaProblem}
    (hseen : List.Forall₂ (fun n a => Xml.childText n E.keyField = .ok (some (E.key a)))
      before seen)
    (h : E.readAll seen ns = .error (.schema problem)) :
    ∃ key, problem = E.shared key ∧
      ∃ n m, [n, m].Sublist (before ++ ns.filter (Xml.Node.isNamed E.tag)) ∧
        Xml.childText n E.keyField = .ok (some key) ∧
          Xml.childText m E.keyField = .ok (some key) := by
  induction ns generalizing seen before with
  | nil => cases h
  | cons n ns ih =>
      cases n with
      | element tag attributes children =>
          by_cases htag : tag = E.tag
          · rw [E.readAll_entry _ _ _ _ htag] at h
            rcases bind_eq_error.1 h with h | ⟨a, ha, h⟩
            · exact absurd h (E.unclashed_read _ _ _)
            · have hkey := E.childText_keyField ha
              have hnamed : (Xml.Node.element tag attributes children).isNamed E.tag = true :=
                decide_eq_true htag
              rw [List.filter_cons_of_pos hnamed]
              split at h
              · next hany =>
                cases h
                obtain ⟨b, hb, hsame⟩ := List.any_eq_true.1 hany
                obtain ⟨m, hm, hmkey⟩ := exists_of_forall₂ hseen b hb
                rw [decide_eq_true_eq] at hsame
                refine ⟨_, rfl, m, _, ?_, hsame ▸ hmkey, hkey⟩
                exact (List.singleton_sublist.2 hm).append
                  (List.singleton_sublist.2 List.mem_cons_self)
              · have hmore := ih (List.rel_append hseen (.cons hkey .nil)) h
                rwa [List.append_assoc, List.singleton_append] at hmore
          · have hnamed : ¬ (Xml.Node.element tag attributes children).isNamed E.tag = true := by
              simpa [Xml.Node.isNamed] using htag
            rw [List.filter_cons_of_neg hnamed]
            exact ih hseen ((E.readAll_other _ _ _ _ htag).symm.trans h)
      | text s => exact ih hseen h
      | reference name => cases h

end Entries

/-! ## The nodes of a query -/

lemma NodeSpec.ofElement_firstFields (n : Xml.Node) (place : String) :
    NodeSpec.ofElement n.firstFields place = NodeSpec.ofElement n place := by
  simp only [NodeSpec.ofElement, Xml.Node.childText_firstFields]

/-- **The nodes of a query**, of which none has the label of another one. -/
def nodeEntries (source : String) : Entries NodeSpec where
  tag := "node"
  read i n := NodeSpec.ofElement n (source ++ ":node[" ++ toString i ++ "]")
  key := fun spec => spec.label
  keyField := "label"
  shared label := .duplicateLabel label source
  read_firstFields _ n := NodeSpec.ofElement_firstFields n _
  childText_keyField h := (NodeSpec.ofElement_eq_ok.1 h).label
  unclashed_read _ n := NodeSpec.unclashed_ofElement n _

lemma nodeSpecs_eq_readAll (source : String) (seen : List NodeSpec) (ns : List Xml.Node) :
    nodeSpecs source seen ns = (nodeEntries source).readAll seen ns := by
  induction ns generalizing seen with
  | nil => rfl
  | cons n ns ih =>
      simp only [nodeSpecs, ih]
      rfl

/-- **A query document is read as if each field were given once.** -/
lemma QueryDocument.ofRoot_unrepeated (root : Xml.Node) (source : String) :
    QueryDocument.ofRoot (root.unrepeated "node") source = QueryDocument.ofRoot root source := by
  have htag : (root.unrepeated "node").tag = root.tag := by cases root <;> rfl
  have hfield := Xml.Node.childText_unrepeated (by decide : "rootnode" ≠ "node") root
  have hnodes : nodeSpecs source [] (root.unrepeated "node").children
      = nodeSpecs source [] root.children := by
    simp only [nodeSpecs_eq_readAll]
    exact (nodeEntries source).readAll_unrepeated root
  simp only [QueryDocument.ofRoot, htag, hfield, hnodes]

/-- **A violation in a query document is a label that two nodes share.** -/
lemma QueryDocument.shares_of_ofRoot {root : Xml.Node} {source : String} {problem : SchemaProblem}
    (h : QueryDocument.ofRoot root source = .error (.schema problem)) :
    ∃ label, problem = .duplicateLabel label source ∧ root.Shares "node" "label" label := by
  cases root with
  | element tag attributes ns =>
      rw [QueryDocument.ofRoot, Xml.Node.tag, ok_bind] at h
      split at h
      · cases h
      · rcases bind_eq_error.1 h with h | ⟨given, -, h⟩
        · exact absurd h (unclashed_childText _ _ _)
        · rcases bind_eq_error.1 h with h | ⟨label, -, h⟩
          · exact absurd h (unclashed_requiredText _ _ _ _)
          · rcases bind_eq_error.1 h with h | ⟨nodes, -, h⟩
            · rw [nodeSpecs_eq_readAll] at h
              exact (nodeEntries source).shares_of_readAll .nil h
            · cases h
  | _ => cases h

/-! ## The sources of a catalog -/

namespace Source

lemma ofElement_firstFields (fs : Files) (n : Xml.Node) (place : String) (directory : Path) :
    ofElement fs n.firstFields place directory = ofElement fs n place directory := by
  have hvalue : fieldValue n.firstFields place = fieldValue n place := by
    funext field
    simp only [fieldValue, fieldText, delimiterText, Xml.Node.childText_firstFields,
      Xml.Node.rawChildText_firstFields]
  simp only [ofElement, hvalue, Xml.Node.attribute?_firstFields]

lemma ok_of_collect {α : Type} {problems : List FieldProblem} {x : Checked α} {a : α}
    (h : Given.collect problems x = .ok a) : x = .ok a := by
  unfold Given.collect at h
  split at h
  · exact congrArg _ (Except.ok.inj h)
  · cases h
  · cases h

/-- **The name of a source** is the one that its fields give. -/
lemma name_of_ofFields {kind name : String} {given : String → Option Json} {s : Source}
    (hname : given "name" = some (.text name)) (h : ofFields kind given = some (.ok s)) :
    s.name = name := by
  have hfield : Given.field given "name" Given.text = .ok name := by
    rw [Given.field, hname]
    rfl
  have hfiles {id : Checked Int} {filename path : Checked String} {file : FileSource}
      (hfile : (do .ok ⟨← id, ← .ok name, ← filename, ← path⟩ : Checked FileSource)
        = .ok file) :
      file.name = name := by
    obtain ⟨_, -, hfile⟩ := bind_eq_ok.1 hfile
    obtain ⟨_, hname, hfile⟩ := bind_eq_ok.1 hfile
    obtain ⟨_, -, hfile⟩ := bind_eq_ok.1 hfile
    obtain ⟨_, -, hfile⟩ := bind_eq_ok.1 hfile
    cases hname
    cases hfile
    rfl
  unfold ofFields at h
  simp only [hfield] at h
  split at h
  · obtain ⟨file, hfile, h⟩ := bind_eq_ok.1 (ok_of_collect (Option.some.inj h))
    obtain ⟨_, -, h⟩ := bind_eq_ok.1 h
    obtain ⟨_, -, h⟩ := bind_eq_ok.1 h
    cases h
    exact hfiles hfile
  · obtain ⟨file, hfile, h⟩ := bind_eq_ok.1 (ok_of_collect (Option.some.inj h))
    cases h
    exact hfiles hfile
  · obtain ⟨file, hfile, h⟩ := bind_eq_ok.1 (ok_of_collect (Option.some.inj h))
    obtain ⟨_, -, h⟩ := bind_eq_ok.1 h
    obtain ⟨_, -, h⟩ := bind_eq_ok.1 h
    cases h
    exact hfiles hfile
  · have h := ok_of_collect (Option.some.inj h)
    simp only [bind_eq_ok] at h
    obtain ⟨_, -, _, hown, _, -, _, -, _, -, _, -, _, -, h⟩ := h
    cases hown
    cases h
    rfl
  · cases h

lemma fieldValue_id (n : Xml.Node) (place : String) :
    fieldValue n place "id" = fieldText n place "id" >>= fun s => .ok ("id", .text s) := rfl

lemma fieldValue_name (n : Xml.Node) (place : String) :
    fieldValue n place "name" = fieldText n place "name" >>= fun s => .ok ("name", .text s) := rfl

lemma fieldText_eq_ok {n : Xml.Node} {place field text : String} :
    fieldText n place field = .ok text ↔ Xml.childText n field = .ok (some text) := by
  rw [fieldText, bind_eq_ok]
  constructor
  · rintro ⟨given, hgiven, h⟩
    cases given with
    | none => cases h
    | some s =>
        cases h
        exact hgiven
  · exact fun h => ⟨_, h, rfl⟩

/-- Where a path is seen from does not matter for the name. -/
lemma lookup_name {fs : Files} {directory : Path} {id name : String}
    {fields seen : List (String × Json)}
    (h : seenFrom fs directory (("id", .text id) :: ("name", .text name) :: fields) = .ok seen) :
    seen.lookup "name" = some (.text name) := by
  rw [seenFrom, mapM_eq_ok] at h
  obtain _ | ⟨hid, h⟩ := h
  obtain _ | ⟨hname, -⟩ := h
  cases hid
  cases hname
  rfl

/-- **The name of a source** is the text of its field. -/
lemma childText_name {fs : Files} {n : Xml.Node} {place : String} {directory : Path} {s : Source}
    (h : ofElement fs n place directory = .ok s) :
    Xml.childText n "name" = .ok (some s.name) := by
  unfold ofElement at h
  dsimp only at h
  split at h
  · cases h
  · obtain ⟨fields, hfields, h⟩ := bind_eq_ok.1 h
    rw [List.cons_append, List.cons_append, mapM_eq_ok] at hfields
    obtain _ | ⟨hid, hfields⟩ := hfields
    obtain _ | ⟨hown, -⟩ := hfields
    obtain ⟨id, -, hid⟩ := bind_eq_ok.1 ((fieldValue_id n place).symm.trans hid)
    obtain ⟨name, hname, hown⟩ := bind_eq_ok.1 ((fieldValue_name n place).symm.trans hown)
    cases hid
    cases hown
    obtain ⟨seen, hseen, h⟩ := bind_eq_ok.1 h
    rw [mapError_eq_ok] at hseen
    split at h
    · next hgiven =>
      cases h
      rw [name_of_ofFields (lookup_name hseen) hgiven]
      exact fieldText_eq_ok.1 hname
    · cases h
    · cases h

end Source

/-- **The sources of a catalog**, of which none has the name of another one. -/
def sourceEntries (fs : Files) (path : Path) : Entries Source where
  tag := "datasource"
  read i n := Source.ofElement fs n (path.text ++ ":datasource[" ++ toString i ++ "]") path.parent
  key := Source.name
  keyField := "name"
  shared name := .duplicateSource name path.text
  read_firstFields _ n := Source.ofElement_firstFields fs n _ _
  childText_keyField := Source.childText_name
  unclashed_read _ n := Source.unclashed_ofElement fs n _ _

lemma sourceEntries_read (fs : Files) (path : Path) (i : Nat) (n : Xml.Node) :
    (sourceEntries fs path).read i n
      = Source.ofElement fs n (path.text ++ ":datasource[" ++ toString i ++ "]") path.parent := by
  rw [sourceEntries]

namespace Catalog

lemma result_readSources (fs : Files) (path : Path) (seen : List Source) (ns : List Xml.Node) :
    (readSources fs path seen ns).result = (sourceEntries fs path).readAll seen ns := by
  induction ns generalizing seen with
  | nil => rfl
  | cons n ns ih =>
      cases n with
      | element tag attributes children =>
          by_cases htag : tag = "datasource"
          · rw [(sourceEntries fs path).readAll_entry _ _ _ _ htag, sourceEntries_read,
              readSources]
            simp only [Xml.Node.isChild, Xml.Node.tag, if_true, Traced.result_bind,
              Traced.result_of, Traced.result_note, ok_bind, if_pos htag,
              apply_ite Traced.result, ih]
            generalize Source.ofElement _ _ _ _ = read
            rfl
          · rw [(sourceEntries fs path).readAll_other _ _ _ _ htag, readSources]
            simp only [Xml.Node.isChild, Xml.Node.tag, if_true, Traced.result_bind,
              Traced.result_of, ok_bind, if_neg htag, ih]
      | text s => exact ih _
      | reference name => rfl

/-- **A catalog is read as if each field were given once.** -/
lemma result_ofRoot_unrepeated (fs : Files) (root : Xml.Node) (path : Path) :
    (ofRoot fs (root.unrepeated "datasource") path).result = (ofRoot fs root path).result := by
  have hsources := (sourceEntries fs path).readAll_unrepeated root
  simp only [ofRoot, Traced.result_bind, result_readSources]
  exact congrArg (· >>= _) hsources

/-- **A violation in a catalog is a name that two sources share.** -/
lemma shares_of_ofRoot {fs : Files} {root : Xml.Node} {path : Path} {problem : SchemaProblem}
    (h : (ofRoot fs root path).result = .error (.schema problem)) :
    ∃ name, problem = .duplicateSource name path.text ∧
      root.Shares "datasource" "name" name := by
  rw [ofRoot, Traced.result_bind, result_readSources] at h
  rcases bind_eq_error.1 h with h | ⟨sources, -, h⟩
  · exact (sourceEntries fs path).shares_of_readAll .nil h
  · cases h

end Catalog

/-! ## Documents in files -/

section Load

variable {fs : Files} {path : Path} {root : Xml.Node}

lemma QueryDocument.result_load (h : Xml.readDocument fs path = .ok root) :
    (QueryDocument.load fs path).result = QueryDocument.ofRoot root path.text := by
  simp only [QueryDocument.load, Traced.result_bind, Traced.result_note, Traced.result_of, h,
    ok_bind]
  cases QueryDocument.ofRoot root path.text <;> rfl

lemma Catalog.result_load (h : Xml.readDocument fs path = .ok root) :
    (Catalog.load fs path).result = (Catalog.ofRoot fs root path).result := by
  simp only [Catalog.load, Traced.result_bind, Traced.result_note, Traced.result_of, h, ok_bind]

/-- **A field that is given twice is not seen.**  A query document and a catalog are read as if of
the elements with one tag only the first one stood there, at the root and in each entry; what is
called a violation is only a label that two nodes have, or a name that two sources have. -/
theorem load_unrepeated (h : Xml.readDocument fs path = .ok root) :
    ((QueryDocument.load fs path).result
        = QueryDocument.ofRoot (root.unrepeated "node") path.text ∧
      ∀ problem, (QueryDocument.load fs path).result = .error (.schema problem) →
        ∃ label, problem = .duplicateLabel label path.text ∧
          root.Shares "node" "label" label) ∧
    ((Catalog.load fs path).result
        = (Catalog.ofRoot fs (root.unrepeated "datasource") path).result ∧
      ∀ problem, (Catalog.load fs path).result = .error (.schema problem) →
        ∃ name, problem = .duplicateSource name path.text ∧
          root.Shares "datasource" "name" name) ∧
    (∀ entry tag, (root.unrepeated entry).fieldsOf tag =
      if tag = entry then (root.fieldsOf entry).map Xml.Node.firstFields
      else (root.fieldsOf tag).take 1) ∧
    ∀ n tag, (Xml.Node.firstFields n).fieldsOf tag = (n.fieldsOf tag).take 1 := by
  refine ⟨⟨?_, fun problem hproblem => ?_⟩, ⟨?_, fun problem hproblem => ?_⟩,
    root.fieldsOf_unrepeated, Xml.Node.fieldsOf_firstFields⟩
  · rw [QueryDocument.result_load h, QueryDocument.ofRoot_unrepeated]
  · rw [QueryDocument.result_load h] at hproblem
    exact QueryDocument.shares_of_ofRoot hproblem
  · rw [Catalog.result_load h, Catalog.result_ofRoot_unrepeated]
  · rw [Catalog.result_load h] at hproblem
    exact Catalog.shares_of_ofRoot hproblem

end Load

/-- A query document with two root labels, and a node with two attributes and two labels. -/
def twiceQuery : Xml.Node :=
  .element "query" []
    [.element "rootnode" [] [.text "R"], .element "rootnode" [] [.text "S"],
      .element "node" []
        [.element "onnode" [] [.text "Region"], .element "label" [] [.text "R"],
          .element "onnode" [] [.text "City"], .element "label" [] [.text "S"]]]

/-- A catalog with a source that has two numbers, two names and two files. -/
def twiceCatalog : Xml.Node :=
  .element "datasources" []
    [.element "datasource" [("type", "xml")]
      [.element "id" [] [.text "1"], .element "id" [] [.text "2"],
        .element "name" [] [.text "cities"], .element "name" [] [.text "towns"],
        .element "filename" [] [.text "cities.xml"], .element "filename" [] [.text "towns.xml"],
        .element "path" [] [.text "/data"]]]

/-- Both documents as files. -/
def twiceFiles : Files :=
  let query := "<query><rootnode>R</rootnode><rootnode>S</rootnode><node><onnode>Region</onnode>" ++
    "<label>R</label><onnode>City</onnode><label>S</label></node></query>"
  let catalog := "<datasources><datasource type='xml'><id>1</id><id>2</id><name>cities</name>" ++
    "<name>towns</name><filename>cities.xml</filename><filename>towns.xml</filename>" ++
    "<path>/data</path></datasource></datasources>"
  let file (text : String) := .file (.bytes text.toUTF8.toList)
  { entries := [(["query.xml"], file query), (["catalog.xml"], file catalog)] }

lemma readDocument_twiceQuery :
    Xml.readDocument twiceFiles ⟨"", ["query.xml"]⟩ = .ok twiceQuery :=
  Xml.readDocument_of_events rfl (by decide +kernel)

/-- The first root label, attribute and label are taken. -/
theorem load_unrepeated_twiceQuery :
    Xml.readDocument twiceFiles ⟨"", ["query.xml"]⟩ = .ok twiceQuery ∧
      (QueryDocument.load twiceFiles ⟨"", ["query.xml"]⟩).result
        = .ok ⟨"R", [{ name := "Region", label := "R" }]⟩ := by
  obtain ⟨⟨hload, -⟩, -⟩ := load_unrepeated readDocument_twiceQuery
  refine ⟨readDocument_twiceQuery, ?_⟩
  rw [hload]
  decide +kernel

/-- **Documents that are accepted with the first of two fields**: a root label, an attribute, a
label, and the number, the name and the file of a source. -/
theorem load_twice :
    ((twiceQuery.fieldsOf "rootnode").length = 2 ∧
      (∀ n ∈ twiceQuery.fieldsOf "node",
        (n.fieldsOf "onnode").length = 2 ∧ (n.fieldsOf "label").length = 2) ∧
      Xml.readDocument twiceFiles ⟨"", ["query.xml"]⟩ = .ok twiceQuery ∧
      (QueryDocument.load twiceFiles ⟨"", ["query.xml"]⟩).result
        = .ok ⟨"R", [{ name := "Region", label := "R" }]⟩) ∧
    (∀ n ∈ twiceCatalog.fieldsOf "datasource",
      (n.fieldsOf "id").length = 2 ∧ (n.fieldsOf "name").length = 2 ∧
        (n.fieldsOf "filename").length = 2) ∧
    Xml.readDocument twiceFiles ⟨"", ["catalog.xml"]⟩ = .ok twiceCatalog ∧
    (Catalog.load twiceFiles ⟨"", ["catalog.xml"]⟩).result
      = .ok ⟨[.xml ⟨1, "cities", "cities.xml", "/data"⟩]⟩ := by
  have hcatalog : Xml.readDocument twiceFiles ⟨"", ["catalog.xml"]⟩ = .ok twiceCatalog :=
    Xml.readDocument_of_events rfl (by decide +kernel)
  refine ⟨⟨rfl, ?_, readDocument_twiceQuery, ?_⟩, ?_, hcatalog, ?_⟩
  · rintro n (_ | ⟨_, ⟨⟩⟩)
    exact ⟨rfl, rfl⟩
  · rw [QueryDocument.result_load readDocument_twiceQuery]
    decide +kernel
  · rintro n (_ | ⟨_, ⟨⟩⟩)
    exact ⟨rfl, rfl, rfl⟩
  · rw [Catalog.result_load hcatalog]
    decide +kernel

end Crosswalk
