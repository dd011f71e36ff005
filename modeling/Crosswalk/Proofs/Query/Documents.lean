import Crosswalk.Proofs.Query.Assembly
import Crosswalk.Proofs.Query.Fields
import Crosswalk.Proofs.Xml.Reading

/-!
# Writing query documents

A tree is written as a query document by an element for each of its nodes, in any order.  The
document compiles to the tree; and whatever a document compiles to, the order of its node elements
does not matter.

* `Node.fieldText?` — the text of a field, as it stands in an element.
* `NodeSpec.IsRead`, `QueryDocument.IsRead` — **what elements say**; `ofElement_eq_ok`,
  `nodeSpecs_eq_ok` and `ofRoot_eq_ok` say that this is what reading brings.
* `QueryNode.IsPlain` — nodes that can be written.
* `QueryTree.WrittenAs` — **a tree is written as a document**; `writtenAs_document` says that it
  can be, with its nodes in any order.
* `Rearranged` — **documents that differ in the order of their node elements.**
* **`compile_written`** — the tree that was written comes back, in whatever order it was written.
-/

namespace Crosswalk

/-! ## Fields of elements -/

namespace Xml

/-- A reference to an entity, which has no tag. -/
def Node.isReference : Node → Bool
  | reference _ => true
  | _ => false

/-- An element with a tag. -/
def Node.isNamed (wanted : String) : Node → Bool
  | element tag _ _ => tag = wanted
  | _ => false

/-- **The text of a field** of an element: of the first of its children with a tag. -/
def Node.fieldText? (wanted : String) (n : Node) : Option String :=
  (n.children.find? (Node.isNamed wanted)).map Node.ownText

lemma textOfFirst_eq_ok {ns : List Node} (h : ∀ n ∈ ns, n.isReference = false)
    (wanted : String) :
    textOfFirst wanted ns = .ok ((ns.find? (Node.isNamed wanted)).map Node.ownText) := by
  induction ns with
  | nil => rfl
  | cons n ns ih =>
      rw [List.forall_mem_cons] at h
      rw [textOfFirst, ih h.2]
      cases n with
      | element tag attributes ns' =>
          by_cases htag : tag = wanted <;>
            simp [Node.isChild, Node.tag, Node.isNamed, htag]
      | text s => simp [Node.isChild, Node.isNamed]
      | reference name => cases h.1

/-- **A field is read from an element without references.** -/
lemma childText_eq_ok {n : Node} (h : ∀ c ∈ n.children, c.isReference = false)
    (wanted : String) :
    childText n wanted = .ok ((n.fieldText? wanted).map trim) := by
  rw [childText, textOfFirst_eq_ok h]
  rfl

end Xml

/-! ## What elements say -/

/-- **The description that the fields of an element give.** -/
structure NodeSpec.IsRead (n : Xml.Node) (spec : NodeSpec) : Prop where
  name : Xml.childText n "onnode" = .ok (some spec.name)
  name_ne : spec.name ≠ ""
  label : Xml.childText n "label" = .ok (some spec.label)
  label_ne : spec.label ≠ ""
  children : (Xml.childText n "children").map childrenOf = .ok spec.children
  steps : Xml.childText n "transformations" >>= stepsOf = .ok spec.steps
  theta : (Xml.childText n "theta").map thetaOf = .ok spec.theta
  output : Xml.childText n "output" >>= outputOf = .ok spec.output

/-- **The document that an element gives.** -/
structure QueryDocument.IsRead (n : Xml.Node) (d : QueryDocument) : Prop where
  tag : n.tag = .ok "query"
  plain : ∀ c ∈ n.children, c.isReference = false
  root : Xml.childText n "rootnode" = .ok (some d.root)
  root_ne : d.root ≠ ""
  nodes : List.Forall₂ NodeSpec.IsRead (n.children.filter (Xml.Node.isNamed "node")) d.nodes
  nodup : (d.nodes.map fun spec => spec.label).Nodup

lemma requiredText_eq_ok {tag place s : String} {given : Option String} :
    requiredText tag place given = .ok s ↔ given = some s ∧ s ≠ "" := by
  cases given with
  | none => simp [requiredText]
  | some t =>
      rw [requiredText]
      by_cases ht : t = ""
      · subst ht
        rw [if_pos (by decide : "".isEmpty = true)]
        exact iff_of_false nofun fun h => h.2 (Option.some_inj.1 h.1).symm
      · rw [if_neg (by simpa [String.isEmpty_iff] using ht), Except.ok.injEq, Option.some_inj]
        exact ⟨fun h => ⟨h, h ▸ ht⟩, fun h => h.1⟩

/-- **The description of a node is what the fields of its element give.** -/
lemma NodeSpec.ofElement_eq_ok {n : Xml.Node} {place : String} {spec : NodeSpec} :
    NodeSpec.ofElement n place = .ok spec ↔ spec.IsRead n := by
  rw [NodeSpec.ofElement]
  simp only [bind_eq_ok, mapError_eq_ok, requiredText_eq_ok]
  constructor
  · rintro ⟨_, hname, _, hlabel, name, ⟨rfl, hname'⟩, label, ⟨rfl, hlabel'⟩, children,
      hchildren, raw, hraw, steps, hsteps, theta, htheta, raw', hraw', output, houtput, h⟩
    cases h
    exact ⟨hname, hname', hlabel, hlabel', map_eq_ok.2 ⟨_, hchildren, rfl⟩,
      bind_eq_ok.2 ⟨_, hraw, hsteps⟩, map_eq_ok.2 ⟨_, htheta, rfl⟩,
      bind_eq_ok.2 ⟨_, hraw', houtput⟩⟩
  · rintro ⟨hname, hname', hlabel, hlabel', hchildren, hsteps, htheta, houtput⟩
    obtain ⟨children, hchildren, hc⟩ := map_eq_ok.1 hchildren
    obtain ⟨raw, hraw, hsteps⟩ := bind_eq_ok.1 hsteps
    obtain ⟨theta, htheta, ht⟩ := map_eq_ok.1 htheta
    obtain ⟨raw', hraw', houtput⟩ := bind_eq_ok.1 houtput
    refine ⟨_, hname, _, hlabel, _, ⟨rfl, hname'⟩, _, ⟨rfl, hlabel'⟩, _, hchildren, _,
      hraw, _, hsteps, _, htheta, _, hraw', _, houtput, ?_⟩
    rw [hc, ht]

/-- A node element is read, and its label is a new one. -/
lemma nodeSpecs_cons_eq_ok {source : String} {seen specs : List NodeSpec}
    {attributes : List (String × String)} {children ns : List Xml.Node} :
    nodeSpecs source seen (.element "node" attributes children :: ns) = .ok specs ↔
      ∃ spec, NodeSpec.IsRead (.element "node" attributes children) spec ∧
        spec.label ∉ seen.map (fun s => s.label) ∧
        nodeSpecs source (seen ++ [spec]) ns = .ok specs := by
  have hany {spec : NodeSpec} :
      seen.any (·.label = spec.label) = true ↔ spec.label ∈ seen.map fun s => s.label := by
    simp
  have hnode : nodeSpecs source seen (.element "node" attributes children :: ns)
      = (NodeSpec.ofElement (.element "node" attributes children)
          (source ++ ":node[" ++ toString seen.length ++ "]") >>= fun spec =>
            if seen.any (·.label = spec.label) then
              .error (.schema (.duplicateLabel spec.label source))
            else nodeSpecs source (seen ++ [spec]) ns) := by
    rw [nodeSpecs]
    rfl
  rw [hnode, bind_eq_ok]
  refine exists_congr fun spec => and_congr NodeSpec.ofElement_eq_ok ?_
  rw [← hany]
  split
  · next hseen => simp [hseen]
  · next hseen => simp [hseen]

/-- **The descriptions of a document** are those of its node elements, if no label is described
twice. -/
lemma nodeSpecs_eq_ok {source : String} {seen specs : List NodeSpec} {ns : List Xml.Node}
    (hseen : (seen.map fun spec => spec.label).Nodup) :
    nodeSpecs source seen ns = .ok specs ↔
      (∀ n ∈ ns, n.isReference = false) ∧ (specs.map fun spec => spec.label).Nodup ∧
        ∃ new, specs = seen ++ new ∧
          List.Forall₂ NodeSpec.IsRead (ns.filter (Xml.Node.isNamed "node")) new := by
  induction ns generalizing seen with
  | nil =>
      rw [nodeSpecs, Except.ok.injEq]
      constructor
      · rintro rfl
        exact ⟨nofun, hseen, [], (List.append_nil _).symm, .nil⟩
      · rintro ⟨-, -, new, rfl, hnew⟩
        cases hnew
        exact (List.append_nil _).symm
  | cons n ns ih =>
      cases n with
      | text s =>
          simpa [nodeSpecs, Xml.Node.isChild, Xml.Node.isReference, Xml.Node.isNamed] using ih hseen
      | reference name =>
          simp [nodeSpecs, Xml.Node.isChild, Xml.Node.isReference, Xml.Node.tag]
      | element tag attributes children =>
          by_cases htag : tag = "node"
          · subst htag
            have hnamed : (Xml.Node.element "node" attributes children).isNamed "node" = true := rfl
            have hnext (spec : NodeSpec) : ((seen ++ [spec]).map fun s => s.label).Nodup ↔
                spec.label ∉ seen.map fun s => s.label := by
              rw [List.map_append, List.nodup_append_comm]
              exact List.nodup_cons.trans (and_iff_left hseen)
            rw [nodeSpecs_cons_eq_ok, List.forall_mem_cons, List.filter_cons_of_pos hnamed]
            constructor
            · rintro ⟨spec, hspec, hnew, hrest⟩
              obtain ⟨hplain, hnodup, new, rfl, hread⟩ := (ih ((hnext spec).2 hnew)).1 hrest
              exact ⟨⟨rfl, hplain⟩, hnodup, spec :: new, by simp, .cons hspec hread⟩
            · rintro ⟨⟨-, hplain⟩, hnodup, new, rfl, hread⟩
              obtain ⟨spec, new, hspec, hrest, rfl⟩ := List.forall₂_cons_left_iff.1 hread
              have happend : seen ++ spec :: new = seen ++ [spec] ++ new := List.append_cons ..
              have hnodup' : ((seen ++ [spec]).map fun s => s.label).Nodup := by
                rw [happend, List.map_append] at hnodup
                exact hnodup.of_append_left
              exact ⟨spec, hspec, (hnext spec).1 hnodup',
                (ih hnodup').2 ⟨hplain, hnodup, new, happend, hrest⟩⟩
          · simpa [nodeSpecs, Xml.Node.isChild, Xml.Node.isReference, Xml.Node.isNamed,
              Xml.Node.tag, htag] using ih hseen

/-- **A query document is what its element gives.** -/
theorem QueryDocument.ofRoot_eq_ok {n : Xml.Node} {source : String} {d : QueryDocument} :
    QueryDocument.ofRoot n source = .ok d ↔ d.IsRead n := by
  have hnil : (([] : List NodeSpec).map fun spec => spec.label).Nodup := List.nodup_nil
  rw [QueryDocument.ofRoot, bind_eq_ok]
  constructor
  · rintro ⟨tag, htag, h⟩
    split at h
    · cases h
    · next hquery =>
      obtain ⟨given, hgiven, h⟩ := bind_eq_ok.1 h
      obtain ⟨root, hroot, h⟩ := bind_eq_ok.1 h
      obtain ⟨nodes, hnodes, h⟩ := bind_eq_ok.1 h
      cases h
      obtain ⟨rfl, hne⟩ := requiredText_eq_ok.1 hroot
      obtain ⟨hplain, hnodup, new, rfl, hread⟩ := (nodeSpecs_eq_ok hnil).1 hnodes
      rw [not_not] at hquery
      exact ⟨hquery ▸ htag, hplain, hgiven, hne, hread, hnodup⟩
  · rintro ⟨htag, hplain, hroot, hne, hread, hnodup⟩
    refine ⟨"query", htag, ?_⟩
    have hnodes : nodeSpecs source [] n.children = .ok d.nodes :=
      (nodeSpecs_eq_ok hnil).2 ⟨hplain, hnodup, d.nodes, rfl, hread⟩
    have hroot' : requiredText "rootnode" source (some d.root) = .ok d.root :=
      requiredText_eq_ok.2 ⟨rfl, hne⟩
    rw [if_neg (by simp), hroot, ok_bind, hroot', ok_bind, hnodes]
    rfl

namespace QueryTree

lemma result_ofDocumentNoted (most : Nat) (d : QueryDocument) :
    (ofDocumentNoted most d).result = ofDocument most d := by
  rw [ofDocumentNoted, Traced.result_bind, Traced.result_of, ofDocument]
  cases build most d with
  | error e => rfl
  | ok built =>
      show Traced.result (if built.2.isEmpty then _ else _) = _
      split <;> rfl

/-- **What a document in a file compiles to.** -/
lemma compile_eq_ok {fs : Files} {path : Path} {root : Xml.Node}
    (h : Xml.readDocument fs path = .ok root) {most : Nat} {tree : QueryTree} :
    (compile most fs path).result = .ok tree ↔
      ∃ d : QueryDocument, d.IsRead root ∧ ofDocument most d = .ok tree := by
  have hload : (QueryDocument.load fs path).result = QueryDocument.ofRoot root path.text := by
    rw [QueryDocument.load]
    simp only [Traced.result_bind, Traced.result_note, Traced.result_of, h, ok_bind]
    cases QueryDocument.ofRoot root path.text <;> rfl
  rw [compile, Traced.result_bind, hload, bind_eq_ok]
  refine exists_congr fun d => and_congr QueryDocument.ofRoot_eq_ok ?_
  rw [Traced.result_bind, result_ofDocumentNoted]
  cases ofDocument most d <;> exact Iff.rfl

end QueryTree

/-! ## Writing -/

/-- **A node that can be written**: its name, its label and its remark are not blank and have no
blanks around them, and its label has no comma. -/
structure QueryNode.IsPlain (own : QueryNode) : Prop where
  name : IsTight own.name
  label : IsTight own.label
  comma : ',' ∉ own.label.toList
  steps : ∀ step ∈ own.steps, step.IsPlain
  theta : ∀ t ∈ own.theta, IsTight t

namespace QueryTree

/-- The description of the node at the top of a tree. -/
def spec (t : QueryTree) : NodeSpec := ⟨t.own, t.children.map label⟩

/-- **How a node is written** in an element: by the texts of its fields. -/
structure WrittenIn (t : QueryTree) (n : Xml.Node) : Prop where
  plain : ∀ c ∈ n.children, c.isReference = false
  name : ∃ s, n.fieldText? "onnode" = some s ∧ Padded s t.own.name
  label : ∃ s, n.fieldText? "label" = some s ∧ Padded s t.label
  children : LabelsText (n.fieldText? "children") (t.children.map QueryTree.label)
  steps : StepsText (n.fieldText? "transformations") t.own.steps
  theta : RemarkText (n.fieldText? "theta") t.own.theta
  output : OutputText (n.fieldText? "output") t.own.output

/-- **How a tree is written** in a document: its nodes in any order, and the label of its top. -/
structure WrittenAs (tree : QueryTree) (root : Xml.Node) : Prop where
  tag : root.tag = .ok "query"
  plain : ∀ c ∈ root.children, c.isReference = false
  label : ∃ s, root.fieldText? "rootnode" = some s ∧ Padded s tree.label
  nodes : ∃ ts : List QueryTree, ts.Perm tree.postorder ∧
    List.Forall₂ WrittenIn ts (root.children.filter (Xml.Node.isNamed "node"))

/-- **A node is read as it was written.** -/
lemma WrittenIn.isRead {t : QueryTree} {n : Xml.Node} (h : t.WrittenIn n) (hown : t.own.IsPlain)
    (hbelow : ∀ c ∈ t.children, c.own.IsPlain) : t.spec.IsRead n := by
  have hfield := Xml.childText_eq_ok h.plain
  obtain ⟨name, hname, hpadded⟩ := h.name
  obtain ⟨label, hlabel, hpadded'⟩ := h.label
  have hlabels : ∀ l ∈ t.children.map QueryTree.label, IsTight l ∧ ',' ∉ l.toList := by
    intro l hl
    obtain ⟨c, hc, rfl⟩ := List.mem_map.1 hl
    exact ⟨(hbelow c hc).label, (hbelow c hc).comma⟩
  refine ⟨?_, hown.name.1, ?_, hown.label.1, ?_, ?_, ?_, ?_⟩
  · rw [hfield, hname, Option.map_some, hown.name.trim_eq hpadded]
    rfl
  · rw [hfield, hlabel, Option.map_some]
    exact congrArg (fun s => Except.ok (some s)) (hown.label.trim_eq hpadded')
  · rw [hfield]
    exact congrArg Except.ok ((childrenOf_trim _).trans
      (childrenOf_eq h.children (fun l hl => (hlabels l hl).1) fun l hl => (hlabels l hl).2))
  · rw [hfield, ok_bind, stepsOf_trim]
    exact stepsOf_eq_ok h.steps hown.steps
  · rw [hfield]
    exact congrArg Except.ok ((thetaOf_trim _).trans (thetaOf_eq h.theta hown.theta))
  · rw [hfield, ok_bind]
    exact outputOf_eq_ok h.output

/-- **A document is read as it was written**: its tree is the unfolding of what is read. -/
lemma WrittenAs.isRead {tree : QueryTree} {root : Xml.Node} (h : tree.WrittenAs root)
    (hplain : ∀ s ∈ tree.postorder, s.own.IsPlain) (hnodup : tree.labels.Nodup) :
    ∃ d : QueryDocument, d.IsRead root ∧ Unfolds d tree ∧ d.root = tree.label := by
  obtain ⟨s, hs, hpadded⟩ := h.label
  obtain ⟨ts, hperm, hts⟩ := h.nodes
  have hlabel := (hplain tree (self_mem_postorder tree)).label
  have hread : ∀ t ∈ ts, t.own.IsPlain ∧ ∀ c ∈ t.children, c.own.IsPlain := by
    intro t ht
    have ht' := hperm.mem_iff.1 ht
    exact ⟨hplain t ht', fun c hc => hplain c (child_mem_postorder ht' hc)⟩
  refine ⟨⟨tree.label, ts.map spec⟩, ⟨h.tag, h.plain, ?_, hlabel.1, ?_, ?_⟩, ?_, rfl⟩
  · rw [Xml.childText_eq_ok h.plain, hs, Option.map_some]
    exact congrArg (fun s => Except.ok (some s)) (hlabel.trim_eq hpadded)
  · rw [List.forall₂_map_right_iff]
    exact List.Forall₂.flip (((List.forall₂_and_left _ _).2 ⟨hread, hts⟩).imp
      fun t n ht => ht.2.isRead ht.1.1 ht.1.2)
  · rw [List.map_map]
    exact ((hperm.map QueryTree.label).trans (map_label_postorder tree)).nodup_iff.2 hnodup
  · intro t ht
    exact ⟨t.spec, List.mem_map_of_mem (hperm.mem_iff.2 ht), rfl, rfl⟩

/-- A field of an element. -/
def field (tag text : String) : Xml.Node := .element tag [] [.text text]

/-- **The element of a node.** -/
def element (t : QueryTree) : Xml.Node :=
  .element "node" []
    [field "onnode" t.own.name, field "label" t.label,
      field "children" (",".intercalate (t.children.map label)),
      field "transformations" (";".intercalate (t.own.steps.map Step.segment)),
      field "theta" (t.own.theta.getD ""), field "output" (if t.own.output then "yes" else "no")]

/-- **The document of a tree**, with the elements of its nodes in any order. -/
def document (tree : QueryTree) (ts : List QueryTree) : Xml.Node :=
  .element "query" [] (field "rootnode" tree.label :: ts.map element)

@[simp] lemma ownText_field (tag text : String) : (field tag text).ownText = text := by
  simp [field, Xml.Node.ownText, Xml.Node.children, Xml.leadingText]

@[simp] lemma isNamed_field (wanted tag text : String) :
    (field tag text).isNamed wanted = decide (tag = wanted) :=
  rfl

lemma fieldText?_element (t : QueryTree) :
    t.element.fieldText? "onnode" = some t.own.name ∧
      t.element.fieldText? "label" = some t.label ∧
      t.element.fieldText? "children" = some (",".intercalate (t.children.map label)) ∧
      t.element.fieldText? "transformations"
        = some (";".intercalate (t.own.steps.map Step.segment)) ∧
      t.element.fieldText? "theta" = some (t.own.theta.getD "") ∧
      t.element.fieldText? "output" = some (if t.own.output then "yes" else "no") := by
  simp [element, Xml.Node.fieldText?, Xml.Node.children]

lemma writtenIn_element (t : QueryTree) : t.WrittenIn t.element := by
  obtain ⟨hname, hlabel, hchildren, hsteps, htheta, houtput⟩ := t.fieldText?_element
  refine ⟨by simp [element, Xml.Node.children, field, Xml.Node.isReference],
    ⟨_, hname, Pads.refl _⟩, ⟨_, hlabel, Pads.refl _⟩,
    Or.inr ⟨_, hchildren, List.forall₂_same.2 fun l _ => Pads.refl _⟩,
    hsteps ▸ stepsText_segments t.own.steps, ?_, Or.inr ⟨_, houtput, ?_⟩⟩
  · rw [htheta]
    cases t.own.theta with
    | none => exact Or.inl ⟨rfl, by decide⟩
    | some theta => exact Or.inr ⟨_, _, rfl, rfl, Pads.refl _⟩
  · cases t.own.output <;> decide

/-- **Every tree can be written**, in every order of its nodes. -/
theorem writtenAs_document {tree : QueryTree} {ts : List QueryTree} (h : ts.Perm tree.postorder) :
    tree.WrittenAs (document tree ts) := by
  have hnodes : (ts.map element).filter (Xml.Node.isNamed "node") = ts.map element :=
    List.filter_eq_self.2 fun n hn => by
      obtain ⟨t, -, rfl⟩ := List.mem_map.1 hn
      rfl
  refine ⟨rfl, ?_, ⟨tree.label, ?_, Pads.refl _⟩, ts, h, ?_⟩
  · intro c hc
    rcases List.mem_cons.1 hc with rfl | hc
    · rfl
    · obtain ⟨t, -, rfl⟩ := List.mem_map.1 hc
      rfl
  · simp [document, Xml.Node.fieldText?, Xml.Node.children]
  · have hfield : (field "rootnode" tree.label).isNamed "node" = false := rfl
    show List.Forall₂ _ _ (List.filter _ (field "rootnode" tree.label :: ts.map element))
    rw [List.filter_cons_of_neg (by rw [hfield]; exact Bool.false_ne_true), hnodes,
      List.forall₂_map_right_iff, List.forall₂_same]
    exact fun t _ => writtenIn_element t

/-! ## Order -/

/-- **Documents that differ in the order of their node elements**; the texts between elements may
differ as well. -/
structure Rearranged (root root' : Xml.Node) : Prop where
  tag : root'.tag = root.tag
  perm : (root'.children.filter Xml.Node.isChild).Perm (root.children.filter Xml.Node.isChild)
  others : (root'.children.filter fun c => c.isChild && !c.isNamed "node")
    = root.children.filter fun c => c.isChild && !c.isNamed "node"

lemma Rearranged.symm {root root' : Xml.Node} (h : Rearranged root root') :
    Rearranged root' root :=
  ⟨h.tag.symm, h.perm.symm, h.others.symm⟩

/-- A field that is no node element is not affected. -/
lemma Rearranged.fieldText?_eq {root root' : Xml.Node} (h : Rearranged root root') {wanted : String}
    (hwanted : wanted ≠ "node") : root'.fieldText? wanted = root.fieldText? wanted := by
  have hfind (n : Xml.Node) : n.children.find? (Xml.Node.isNamed wanted)
      = (n.children.filter fun c => c.isChild && !c.isNamed "node").find?
          (Xml.Node.isNamed wanted) := by
    rw [List.find?_filter]
    congr 1
    funext c
    cases c with
    | element tag attributes children =>
        by_cases htag : tag = wanted
        · simp [Xml.Node.isNamed, Xml.Node.isChild, htag, hwanted]
        · simp [Xml.Node.isNamed, htag]
    | text s => rfl
    | reference name => simp [Xml.Node.isNamed]
  rw [Xml.Node.fieldText?, Xml.Node.fieldText?, hfind root', hfind root, h.others]

lemma Rearranged.plain {root root' : Xml.Node} (h : Rearranged root root')
    (hplain : ∀ c ∈ root.children, c.isReference = false) :
    ∀ c ∈ root'.children, c.isReference = false := by
  intro c hc
  cases c with
  | element => rfl
  | text => rfl
  | reference name =>
      have hmem := h.perm.mem_iff.1 (List.mem_filter.2 ⟨hc, rfl⟩)
      exact hplain _ (List.mem_filter.1 hmem).1

/-- The node elements are the same ones. -/
lemma Rearranged.perm_nodes {root root' : Xml.Node} (h : Rearranged root root') :
    (root'.children.filter (Xml.Node.isNamed "node")).Perm
      (root.children.filter (Xml.Node.isNamed "node")) := by
  have hfilter (ns : List Xml.Node) : ns.filter (Xml.Node.isNamed "node")
      = (ns.filter Xml.Node.isChild).filter (Xml.Node.isNamed "node") := by
    rw [List.filter_filter]
    congr 1
    funext c
    cases c <;> simp [Xml.Node.isNamed, Xml.Node.isChild]
  rw [hfilter, hfilter root.children]
  exact h.perm.filter _

/-- **What is read from a rearranged document** is the same, in another order. -/
lemma Rearranged.isRead {root root' : Xml.Node} (h : Rearranged root root') {d : QueryDocument}
    (hd : d.IsRead root) :
    ∃ d' : QueryDocument, d'.IsRead root' ∧ d'.root = d.root ∧ d'.nodes.Perm d.nodes := by
  obtain ⟨nodes, hnodes, hperm⟩ := List.perm_comp_forall₂ h.perm_nodes hd.nodes
  have hplain := h.plain hd.plain
  have hroot : Xml.childText root' "rootnode" = Xml.childText root "rootnode" := by
    rw [Xml.childText_eq_ok hplain, Xml.childText_eq_ok hd.plain, h.fieldText?_eq (by decide)]
  exact ⟨⟨d.root, nodes⟩, ⟨h.tag.trans hd.tag, hplain, hroot.trans hd.root, hd.root_ne,
    hnodes, ((hperm.map fun spec => spec.label).nodup_iff).2 hd.nodup⟩, rfl, hperm⟩

/-- Where no child may stand below the root, it does not matter whether the root may. -/
lemma ofDocument_zero_eq_ok {d : QueryDocument} {tree : QueryTree} :
    ofDocument 0 d = .ok tree ↔ ofDocument 1 d = .ok tree := by
  rw [ofDocument, ofDocument, build, build]
  cases take d.root (byLabel d.nodes) with
  | none => exact Iff.rfl
  | some found =>
      obtain ⟨⟨own, children⟩, pending⟩ := found
      simp only [Branch.ofSpec]
      rw [assemble, assemble]
      cases children with
      | nil => exact Iff.rfl
      | cons label labels =>
          simp only
          split
          · exact Iff.rfl
          · rw [if_pos (Nat.zero_le 1), if_pos (Nat.le_refl 1)]
            exact iff_of_false nofun nofun

/-- **The order of descriptions does not matter.** -/
theorem ofDocument_of_perm {most : Nat} {d d' : QueryDocument} {tree : QueryTree}
    (hd : (d.nodes.map fun spec => spec.label).Nodup) (hroot : d'.root = d.root)
    (hperm : d'.nodes.Perm d.nodes) (h : ofDocument most d = .ok tree) :
    ofDocument most d' = .ok tree := by
  have hd' : (d'.nodes.map fun spec => spec.label).Nodup :=
    ((hperm.map fun spec => spec.label).nodup_iff).2 hd
  have hpos {most : Nat} (hmost : 1 ≤ most) (h : ofDocument most d = .ok tree) :
      ofDocument most d' = .ok tree := by
    obtain ⟨hunfolds, hlabel, hnodup, hheight⟩ := unfolds_of_ofDocument hd hmost h
    refine ofDocument_of_unfolds hd' hmost (fun s hs => ?_) (hlabel.trans hroot.symm) hnodup hheight
    obtain ⟨spec, hspec, hdescribed⟩ := hunfolds s hs
    exact ⟨spec, hperm.mem_iff.2 hspec, hdescribed⟩
  cases most with
  | zero => exact ofDocument_zero_eq_ok.2 (hpos (Nat.le_refl 1) (ofDocument_zero_eq_ok.1 h))
  | succ most => exact hpos (Nat.succ_pos most) h

lemma compile_of_rearranged {fs fs' : Files} {path path' : Path} {root root' : Xml.Node}
    (h : Xml.readDocument fs path = .ok root) (h' : Xml.readDocument fs' path' = .ok root')
    (hsame : Rearranged root root') {most : Nat} {tree : QueryTree}
    (htree : (compile most fs path).result = .ok tree) :
    (compile most fs' path').result = .ok tree := by
  obtain ⟨d, hd, htree⟩ := (compile_eq_ok h).1 htree
  obtain ⟨d', hd', hroot, hperm⟩ := hsame.isRead hd
  exact (compile_eq_ok h').2 ⟨d', hd', ofDocument_of_perm hd.nodup hroot hperm htree⟩

/-- **The order in which nodes are written does not matter.**  A tree of nodes that can be written,
with distinct labels and not higher than is allowed, is what a document compiles to in which its
nodes are written, in any order.  And of two documents that differ only in the order of their node
elements, both compile to the same tree, or none compiles. -/
theorem compile_written {fs : Files} {path : Path} {root : Xml.Node}
    (h : Xml.readDocument fs path = .ok root) :
    (∀ (most : Nat) (tree : QueryTree), (∀ s ∈ tree.postorder, s.own.IsPlain) →
        tree.labels.Nodup → tree.height + 1 ≤ most → tree.WrittenAs root →
        (compile most fs path).result = .ok tree) ∧
      ∀ (fs' : Files) (path' : Path) (root' : Xml.Node),
        Xml.readDocument fs' path' = .ok root' → Rearranged root root' →
        ∀ (most : Nat) (tree : QueryTree),
          (compile most fs' path').result = .ok tree ↔
            (compile most fs path).result = .ok tree := by
  constructor
  · intro most tree hplain hnodup hheight hwritten
    have hmost : 1 ≤ most := Nat.le_trans (Nat.le_add_left 1 _) hheight
    obtain ⟨d, hd, hunfolds, hroot⟩ := hwritten.isRead hplain hnodup
    exact (compile_eq_ok h).2
      ⟨d, hd, ofDocument_of_unfolds hd.nodup hmost hunfolds hroot.symm hnodup hheight⟩
  · intro fs' path' root' h' hsame most tree
    exact ⟨compile_of_rearranged h' h hsame.symm, compile_of_rearranged h h' hsame⟩

/-- The cities with long names, to be counted. -/
def cityNode : Xml.Node :=
  .element "node" []
    [.element "onnode" [] [.text "City"], .element "label" [] [.text " C"],
      .element "transformations" [] [.text " filter : len($C$) > 4 ;; aggregate:COUNT"],
      .element "theta" [] [.text " long "]]

/-- The regions above them. -/
def regionNode : Xml.Node :=
  .element "node" []
    [.element "onnode" [] [.text "Region"], .element "label" [] [.text "R"],
      .element "children" [] [.text " C "], .element "output" [] [.text "Yes"]]

/-- A document that describes the cities first, and one that describes them last. -/
def citiesFirst : Xml.Node :=
  .element "query" [] [.element "rootnode" [] [.text " R "], cityNode, regionNode]

@[inherit_doc citiesFirst]
def citiesLast : Xml.Node :=
  .element "query" []
    [.text " ", .element "rootnode" [] [.text " R "], regionNode, .text " ", cityNode]

/-- The cities in the tree of both documents. -/
def cityLeaf : QueryTree :=
  .node ⟨"City", "C", [.filter "len($C$) > 4", .aggregate .count], some "long", false⟩ []

/-- The tree of both documents. -/
def longCities : QueryTree :=
  .node { name := "Region", label := "R", output := true } [cityLeaf]

/-- The documents as files. -/
def cityFiles : Files :=
  let root := "<rootnode> R </rootnode>"
  let city := "<node><onnode>City</onnode><label> C</label>" ++
    "<transformations> filter : len($C$) > 4 ;; aggregate:COUNT</transformations>" ++
    "<theta> long </theta></node>"
  let region := "<node><onnode>Region</onnode><label>R</label><children> C </children>" ++
    "<output>Yes</output></node>"
  let file (text : String) := .file (.bytes text.toUTF8.toList)
  { entries := [(["first.xml"], file ("<query>" ++ root ++ city ++ region ++ "</query>")),
      (["last.xml"], file ("<query> " ++ root ++ region ++ " " ++ city ++ "</query>"))] }

lemma isPlain_of_mem_longCities : ∀ s ∈ longCities.postorder, s.own.IsPlain := by
  have hcompile : ∃ f, Formula.compile "len($C$) > 4" = .ok f := by
    have hsome : (Formula.compile "len($C$) > 4").toOption.isSome = true := by decide +kernel
    obtain ⟨f, hf⟩ := Option.isSome_iff_exists.1 hsome
    exact ⟨f, ok_of_toOption hf⟩
  intro s hs
  rcases List.mem_cons.1 hs with rfl | hs
  · refine ⟨by decide, by decide, by decide, ?_, ?_⟩
    · intro step hstep
      rcases List.mem_cons.1 hstep with rfl | hstep
      · exact ⟨by decide, by decide, hcompile⟩
      · obtain rfl := List.mem_singleton.1 hstep
        trivial
    · rintro _ ⟨⟩
      decide
  · obtain rfl := List.mem_singleton.1 hs
    exact ⟨by decide, by decide, by decide, nofun, nofun⟩

lemma writtenIn_cityNode : cityLeaf.WrittenIn cityNode := by
  have hsteps : List.Forall₂ Step.WrittenAs [.filter "len($C$) > 4", .aggregate .count]
      [" filter : len($C$) > 4 ", " aggregate:COUNT"] :=
    .cons ⟨" filter ", " len($C$) > 4 ", by decide, ⟨[' '], [' '], rfl, rfl, rfl⟩,
        ⟨[' '], [' '], rfl, rfl, rfl⟩⟩
      (.cons ⟨" aggregate", "COUNT", by decide, ⟨[' '], [], rfl, rfl, rfl⟩, by decide,
        by decide⟩ .nil)
  have hsegments : ([" filter : len($C$) > 4 ", "", " aggregate:COUNT"].filter
      fun s => !isBlankText s) = [" filter : len($C$) > 4 ", " aggregate:COUNT"] := by decide
  exact ⟨by decide, ⟨"City", by decide, [], [], rfl, rfl, rfl⟩,
    ⟨" C", by decide, [' '], [], rfl, rfl, rfl⟩, Or.inl ⟨rfl, by decide⟩,
    Or.inr ⟨_, by decide, hsegments ▸ hsteps⟩,
    Or.inr ⟨" long ", "long", by decide, rfl, [' '], [' '], rfl, rfl, rfl⟩,
    Or.inl ⟨rfl, by decide⟩⟩

lemma writtenIn_regionNode : longCities.WrittenIn regionNode :=
  ⟨by decide, ⟨"Region", by decide, [], [], rfl, rfl, rfl⟩,
    ⟨"R", by decide, [], [], rfl, rfl, rfl⟩,
    Or.inr ⟨[" C "], by decide, .cons ⟨[' '], [' '], rfl, rfl, rfl⟩ .nil⟩,
    Or.inl ⟨rfl, by decide⟩, Or.inl ⟨rfl, by decide⟩, Or.inr ⟨"Yes", by decide, by decide⟩⟩

/-- The tree is what both documents compile to. -/
theorem compile_written_longCities :
    Xml.readDocument cityFiles ⟨"", ["first.xml"]⟩ = .ok citiesFirst ∧
      Xml.readDocument cityFiles ⟨"", ["last.xml"]⟩ = .ok citiesLast ∧
      (compile 2 cityFiles ⟨"", ["first.xml"]⟩).result = .ok longCities ∧
      (compile 2 cityFiles ⟨"", ["last.xml"]⟩).result = .ok longCities := by
  have hfirst : Xml.readDocument cityFiles ⟨"", ["first.xml"]⟩ = .ok citiesFirst :=
    Xml.readDocument_of_events rfl (by decide +kernel)
  have hlast : Xml.readDocument cityFiles ⟨"", ["last.xml"]⟩ = .ok citiesLast :=
    Xml.readDocument_of_events rfl (by decide +kernel)
  have hwritten : longCities.WrittenAs citiesFirst :=
    ⟨rfl, by decide, ⟨" R ", by decide, [' '], [' '], rfl, rfl, rfl⟩, longCities.postorder,
      .rfl, .cons writtenIn_cityNode (.cons writtenIn_regionNode .nil)⟩
  have hsame : Rearranged citiesFirst citiesLast :=
    ⟨rfl, (List.Perm.swap _ _ _).cons _, rfl⟩
  obtain ⟨hcompile, horder⟩ := compile_written hfirst
  have htree := hcompile 2 longCities isPlain_of_mem_longCities (by decide) (by decide) hwritten
  exact ⟨hfirst, hlast, htree, (horder _ _ _ hlast hsame 2 longCities).2 htree⟩

end QueryTree

end Crosswalk
