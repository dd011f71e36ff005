import Crosswalk.Proofs.Files
import Crosswalk.Proofs.Query.Repeated

/-!
# Documents that are refused without a word

A query document or a catalog that cannot be used is refused as a text that is none, or because its
parts do not fit together.  There are three exceptions.  A reference to an entity has no tag, so to
look for a field behind one fails without saying where or why; so does a formula that calls what
cannot be written; and so does a path from the home directory of a user who is not known.  Whether
a document comes to that depends on what is read in front of it.

* `Error.IsTold`, `ToldUnless` — **failures that say what is wrong**, and computations with no
  others but bare causes under a condition.
* `Node.hides` — **a field that stands behind a reference**; `childText_eq` says what reading it
  brings.
* `Node.IsHomeless` — **a path from a home directory that is not known.**
* `NodeSpec.IsUntold`, `Source.IsUntold`, `Entries.IsUntold` — what is refused without a word.
* `Entries.toldUnless_step`, `Entries.toldUnless_readAll` — one node of a root, and all of them.
* `Node.Refers` — references to entities in a root or in its entries.
* **`load_toldUnless`** — when the loading of a document fails without a word, and with which
  cause. -/

namespace Crosswalk

/-! ## Failures that are told -/

/-- **A failure that is told**: of a text that is no document of its kind, or of parts that do not
fit together. -/
def Error.IsTold (e : Error) : Prop :=
  (∃ problem place, e = .parse problem place) ∨ ∃ problem, e = .schema problem

/-- **A computation whose failures are told**, but for bare causes; which of them it fails with is
said by a condition. -/
structure ToldUnless {α : Type} (x : Except Error α) (untold : Cause → Prop) : Prop where
  told : ∀ e, x = .error e → e.IsTold ∨ ∃ cause, e = .plain cause
  untold : ∀ cause, x = .error (.plain cause) ↔ untold cause

/-- A condition under which the cause is a value that does not fit. -/
def AsValue (p : Prop) (cause : Cause) : Prop := cause = .fault .wrongValue ∧ p

/-- All failures are told. -/
def Never (_ : Cause) : Prop := False

namespace ToldUnless

variable {α β : Type} {x : Except Error α} {P Q : Cause → Prop} {p : Prop}

lemma congr (h : ToldUnless x P) (hPQ : ∀ cause, P cause ↔ Q cause) : ToldUnless x Q :=
  ⟨h.told, fun cause => (h.untold cause).trans (hPQ cause)⟩

lemma never (h : ToldUnless x Never) (hP : ∀ cause, ¬ P cause) : ToldUnless x P :=
  h.congr fun cause => iff_of_false id (hP cause)

lemma ok (a : α) : ToldUnless (.ok a : Except Error α) Never :=
  ⟨nofun, fun _ => iff_of_false nofun id⟩

lemma plain (cause : Cause) : ToldUnless (.error (.plain cause) : Except Error α) (· = cause) :=
  ⟨fun _ h => .inr ⟨cause, (Except.error.inj h).symm⟩, fun other => by simp [eq_comm]⟩

lemma wrongValue (hp : p) :
    ToldUnless (.error (.plain (.fault .wrongValue)) : Except Error α) (AsValue p) :=
  (plain _).congr fun _ => (and_iff_left hp).symm

lemma parse (problem : ParseProblem) (place : Option String) :
    ToldUnless (.error (.parse problem place) : Except Error α) Never := by
  refine ⟨fun e h => ?_, fun _ => iff_of_false nofun id⟩
  cases h
  exact .inl (.inl ⟨_, _, rfl⟩)

lemma schema (problem : SchemaProblem) :
    ToldUnless (.error (.schema problem) : Except Error α) Never := by
  refine ⟨fun e h => ?_, fun _ => iff_of_false nofun id⟩
  cases h
  exact .inl (.inr ⟨_, rfl⟩)

/-- A computation that knows of causes alone fails with them. -/
lemma ofCause (x : Except Cause α) :
    ToldUnless (x.mapError Error.plain) fun cause => x = .error cause := by
  cases x with
  | ok a => exact (ok a).never fun _ => nofun
  | error e => exact (plain e).congr fun cause => by rw [Except.error.injEq, eq_comm]

lemma bind {f : α → Except Error β} {R : α → Cause → Prop} (hx : ToldUnless x P)
    (hf : ∀ a, x = .ok a → ToldUnless (f a) (R a)) :
    ToldUnless (x >>= f) fun cause => P cause ∨ ∃ a, x = .ok a ∧ R a cause := by
  refine ⟨fun e h => ?_, fun cause => ?_⟩
  · rcases bind_eq_error.1 h with h | ⟨a, ha, h⟩
    · exact hx.told e h
    · exact (hf a ha).told e h
  · rw [bind_eq_error, hx.untold]
    exact or_congr_right (exists_congr fun a => and_congr_right fun ha => (hf a ha).untold cause)

lemma ite {c : Prop} [Decidable c] {y : Except Error α} (hx : ToldUnless x P)
    (hy : ToldUnless y P) : ToldUnless (if c then x else y) P := by
  split
  · exact hx
  · exact hy

/-- What comes behind does not fail without a word. -/
lemma bind_of_told {f : α → Except Error β} (hx : ToldUnless x P)
    (hf : ∀ a, ToldUnless (f a) Never) : ToldUnless (x >>= f) P :=
  (hx.bind fun a _ => hf a).congr fun _ => or_iff_left fun ⟨_, _, h⟩ => h

/-- A place is only given to a failure that is told. -/
lemma inPlace (hx : ToldUnless x P) (place : String) :
    ToldUnless (x.mapError (Error.inPlace place)) P := by
  cases x with
  | ok a => exact ⟨nofun, hx.untold⟩
  | error e =>
      rcases hx.told e rfl with (⟨problem, given, rfl⟩ | ⟨problem, rfl⟩) | ⟨cause, rfl⟩
      · have hP : ∀ cause, ¬ P cause := fun cause h => nomatch (hx.untold cause).2 h
        cases given with
        | none => exact (parse _ _).never hP
        | some given => exact (parse _ _).never hP
      · have hP : ∀ cause, ¬ P cause := fun cause h => nomatch (hx.untold cause).2 h
        exact (schema _).never hP
      · exact hx

/-- A list fails without a word with the first element that is no success. -/
lemma mapM {f : α → Except Error β} {R : α → Cause → Prop}
    (hf : ∀ a, ToldUnless (f a) (R a)) (xs : List α) :
    ToldUnless (xs.mapM f) fun cause => ∃ before a behind, xs = before ++ a :: behind ∧
      (∀ b ∈ before, ∃ c, f b = .ok c) ∧ R a cause := by
  refine ⟨fun e h => ?_, fun cause => ?_⟩
  · obtain ⟨a, -, ha⟩ := exists_of_mapM_error h
    exact (hf a).told e ha
  · rw [mapM_eq_error]
    simp only [(hf _).untold]

end ToldUnless

/-! ## Fields behind references -/

namespace Xml

/-- **A field that stands behind a reference to an entity**, or that would have to stand behind
one. -/
def Node.hides (field : String) (n : Node) : Bool :=
  (n.children.takeWhile fun c => !c.isNamed field).any Node.isReference

lemma textOfFirst_eq (wanted : String) (ns : List Node) :
    textOfFirst wanted ns =
      if (ns.takeWhile fun c => !c.isNamed wanted).any Node.isReference then
        .error (.plain (.fault .wrongValue))
      else .ok ((ns.find? (Node.isNamed wanted)).map Node.ownText) := by
  induction ns with
  | nil => rfl
  | cons n ns ih =>
      rw [textOfFirst, ih]
      cases n with
      | element tag attributes children =>
          by_cases htag : tag = wanted <;>
            simp [Node.isChild, Node.tag, Node.isNamed, Node.isReference, htag]
      | text s => simp [Node.isChild, Node.isNamed, Node.isReference]
      | reference name => simp [Node.isChild, Node.tag, Node.isNamed, Node.isReference]

/-- **What reading a field brings.** -/
lemma rawChildText_eq (n : Node) (field : String) :
    rawChildText n field =
      if n.hides field then .error (.plain (.fault .wrongValue)) else .ok (n.fieldText? field) :=
  textOfFirst_eq field n.children

lemma childText_eq (n : Node) (field : String) :
    childText n field =
      if n.hides field then .error (.plain (.fault .wrongValue))
      else .ok ((n.fieldText? field).map trim) := by
  rw [childText, textOfFirst_eq]
  unfold Node.hides
  split <;> rfl

/-- A field that is not blank. -/
def Node.Says (n : Node) (field : String) : Prop :=
  ∃ s, n.fieldText? field = some s ∧ isBlankText s = false

/-- **A path from a home directory that is not known.** -/
def Node.IsHomeless (fs : Files) (n : Node) : Prop :=
  ∃ s user, n.fieldText? "path" = some s ∧ (Path.ofText (trim s)).user? = some user ∧
    fs.home? user = none

end Xml

section Fields

variable {α : Type} {n : Xml.Node} {Q : Cause → Prop} {q : Prop}

namespace ToldUnless

lemma childText (n : Xml.Node) (field : String) :
    ToldUnless (Xml.childText n field) (AsValue (n.hides field = true)) := by
  rw [Xml.childText_eq]
  split
  · next h => exact wrongValue h
  · next h => exact (ok _).never fun _ hides => h hides.2

/-- A field is looked for, and nothing else is if it stands behind a reference. -/
lemma bind_childText {field : String} {f : Option String → Except Error α}
    (hf : ToldUnless (f ((n.fieldText? field).map trim)) Q) :
    ToldUnless (Xml.childText n field >>= f)
      fun cause => AsValue (n.hides field = true) cause ∨ n.hides field = false ∧ Q cause := by
  rw [Xml.childText_eq]
  cases n.hides field with
  | true => exact (wrongValue (p := true = true) rfl).congr fun _ => by simp
  | false => exact hf.congr fun _ => by simp [AsValue]

lemma bind_childText_asValue {field : String} {f : Option String → Except Error α}
    (hf : ToldUnless (f ((n.fieldText? field).map trim)) (AsValue q)) :
    ToldUnless (Xml.childText n field >>= f) (AsValue (n.hides field = true ∨ q)) :=
  (bind_childText hf).congr fun _ => by cases n.hides field <;> simp [AsValue]

/-- A field that is required but missing or blank is told. -/
lemma bind_required {field tag place : String} {f : String → Except Error α}
    (hf : ∀ s, ToldUnless (f s) Q) :
    ToldUnless (requiredText tag place ((n.fieldText? field).map trim) >>= f)
      fun cause => n.Says field ∧ Q cause := by
  unfold Xml.Node.Says
  cases hfield : n.fieldText? field with
  | none => exact (parse _ _).never fun _ => by simp
  | some s =>
      rw [Option.map_some, requiredText, Step.isEmpty_trim]
      cases hblank : isBlankText s with
      | true => exact (parse _ _).never fun _ => by simp [hblank]
      | false => exact (hf (trim s)).congr fun _ => by simp [hblank]

lemma bind_required_asValue {field tag place : String} {f : String → Except Error α}
    (hf : ∀ s, ToldUnless (f s) (AsValue q)) :
    ToldUnless (requiredText tag place ((n.fieldText? field).map trim) >>= f)
      (AsValue (n.Says field ∧ q)) :=
  (bind_required hf).congr fun _ => and_left_comm

end ToldUnless

end Fields

/-! ## Nodes of a query -/

/-- A formula that is refused without a word is. -/
lemma Formula.IsUntold.compile {source : String} (h : Formula.IsUntold source) :
    Formula.compile source = .error (.plain (.fault .wrongValue)) := by
  cases hcompile : Formula.compile source with
  | error e =>
      rcases compile_eq_error hcompile with ⟨-, hnot⟩ | ⟨rfl, -⟩
      · exact absurd h hnot
      · rfl
  | ok f =>
      obtain ⟨tree, htree, target, htarget, -⟩ := h
      rw [Formula.compile] at hcompile
      generalize substitute [] (trimChars source.toList) = found at htree htarget hcompile
      obtain ⟨chars, labels⟩ := found
      dsimp only at htree htarget hcompile
      split at hcompile
      · cases hcompile
      · rw [htree] at hcompile
        dsimp only at hcompile
        split at hcompile
        · next hnone _ =>
            rw [hnone] at htarget
            cases htarget
        · cases hcompile

/-- **Steps of which the first segment that is no step is refused without a word.** -/
def StepsUntold (raw : Option String) : Prop :=
  ∃ before segment behind, segmentsOf raw = before ++ segment :: behind ∧
    (∀ s ∈ before, Step.IsForm s) ∧ Step.IsUntold segment

lemma Step.IsUntold.misses {segment : String} (h : Step.IsUntold segment) :
    Step.Misses segment (.plain (.fault .wrongValue)) := by
  obtain ⟨kind, argument, rfl, hkind, h⟩ := h
  refine .formula hkind ?_ h.compile
  -- A blank argument would be told to be a formula that is missing.
  by_contra hblank
  rw [Bool.not_eq_false, ← Step.isEmpty_trim, String.isEmpty_iff] at hblank
  have hempty : Formula.compile "" = .error (.parse .emptyFormula none) := by
    simp [Formula.compile, trimChars, Formula.substitute]
  have hcompile := h.compile
  rw [hblank, hempty] at hcompile
  cases hcompile

lemma toldUnless_stepsOf (raw : Option String) :
    ToldUnless (stepsOf raw) (AsValue (StepsUntold raw)) := by
  refine ⟨fun e h => ?_, fun cause => ⟨fun h => ?_, ?_⟩⟩
  · obtain ⟨_, segment, _, -, -, hmisses⟩ := stepsOf_eq_error_iff.1 h
    rcases hmisses.told with ⟨problem, rfl⟩ | ⟨rfl, -⟩
    · exact .inl (.inl ⟨_, _, rfl⟩)
    · exact .inr ⟨_, rfl⟩
  · obtain ⟨before, segment, behind, hsplit, hbefore, hmisses⟩ := stepsOf_eq_error_iff.1 h
    rcases hmisses.told with ⟨problem, h⟩ | ⟨h, huntold⟩
    · cases h
    · cases h
      exact ⟨rfl, before, segment, behind, hsplit, hbefore, huntold⟩
  · rintro ⟨rfl, before, segment, behind, hsplit, hbefore, huntold⟩
    exact stepsOf_eq_error_iff.2 ⟨before, segment, behind, hsplit, hbefore, huntold.misses⟩

lemma toldUnless_outputOf (raw : Option String) : ToldUnless (outputOf raw) Never := by
  rw [outputOf]
  split
  · exact .ok _
  · exact .ok _
  · exact .ok _
  · exact .ok _
  · exact .ok _
  · exact .parse _ _

/-- **A node of a query that is refused without a word**, with its fields in the order in which
they are looked for: what they say is only asked once the label and the attribute are known. -/
def NodeSpec.IsUntold (n : Xml.Node) : Prop :=
  n.hides "onnode" = true ∨ n.hides "label" = true ∨
    n.Says "onnode" ∧ n.Says "label" ∧
      (n.hides "children" = true ∨ n.hides "transformations" = true ∨
        StepsUntold ((n.fieldText? "transformations").map trim) ∨
        (∃ steps, stepsOf ((n.fieldText? "transformations").map trim) = .ok steps) ∧
          (n.hides "theta" = true ∨ n.hides "output" = true))

lemma NodeSpec.toldUnless_ofElement (n : Xml.Node) (place : String) :
    ToldUnless (NodeSpec.ofElement n place) (AsValue (NodeSpec.IsUntold n)) := by
  rw [NodeSpec.ofElement, NodeSpec.IsUntold]
  refine ToldUnless.bind_childText_asValue ?_
  refine ToldUnless.bind_childText_asValue ?_
  refine ToldUnless.bind_required_asValue fun name => ?_
  refine ToldUnless.bind_required_asValue fun label => ?_
  refine ToldUnless.inPlace ?_ _
  refine ToldUnless.bind_childText_asValue ?_
  refine ToldUnless.bind_childText_asValue ?_
  refine ((toldUnless_stepsOf _).bind (R := fun _ => AsValue (n.hides "theta" = true ∨
    n.hides "output" = true)) fun steps _ => ?_).congr fun cause => ?_
  · refine ToldUnless.bind_childText_asValue ?_
    refine (ToldUnless.bind_childText ?_).congr fun _ => or_iff_left fun h => h.2
    exact (toldUnless_outputOf _).bind_of_told fun output => .ok _
  · simp only [AsValue, and_left_comm, exists_and_left, exists_and_right, ← and_or_left]

/-! ## Sources of a catalog -/

namespace Source

/-- The kind that the element of a source gives. -/
def givenKind (n : Xml.Node) : String := lowerText (trim ((n.attribute? "type").getD ""))

/-- A field that is given, and that is a delimiter if it has to be one. -/
def Gives (n : Xml.Node) (field : String) : Prop :=
  ∃ s, Xml.rawChildText n field = .ok (some s) ∧
    (field = "delimiter" → trim s = "\\t" ∨ s.length = 1 ∨ (trim s).length = 1)

/-- The fields of a source in the order in which they are looked for. -/
def fieldsIn (n : Xml.Node) : List String := ["id", "name"] ++ fieldsOfKind (givenKind n)

/-- **A source that is refused without a word**: a field stands behind a reference, and those that
are looked for before it are given; or all fields are given, and the path among them starts from a
home directory that is not known. -/
def IsUntold (fs : Files) (n : Xml.Node) (cause : Cause) : Prop :=
  givenKind n ∈ kinds ∧
    ((∃ before field behind, fieldsIn n = before ++ field :: behind ∧
        (∀ f ∈ before, Gives n f) ∧ AsValue (n.hides field = true) cause) ∨
      (∀ f ∈ fieldsIn n, Gives n f) ∧ "path" ∈ fieldsIn n ∧ cause = .unknownHome ∧
        n.IsHomeless fs)

lemma toldUnless_fieldText (n : Xml.Node) (place field : String) :
    ToldUnless (fieldText n place field) (AsValue (n.hides field = true)) := by
  refine ((ToldUnless.childText n field).bind_of_told fun given => ?_)
  cases given with
  | none => exact .parse _ _
  | some s => exact .ok s

lemma toldUnless_fieldValue (n : Xml.Node) (place field : String) :
    ToldUnless (fieldValue n place field) (AsValue (n.hides field = true)) := by
  unfold fieldValue
  split
  · refine ToldUnless.bind_of_told ?_ fun _ => .ok _
    unfold delimiterText
    rw [Xml.rawChildText_eq]
    split
    · next h => exact .wrongValue h
    · next h =>
        refine ToldUnless.never ?_ fun _ hides => h hides.2
        cases n.fieldText? "delimiter" with
        | none => exact .parse _ _
        | some raw =>
            rw [ok_bind]
            exact (ToldUnless.ok _).ite ((ToldUnless.ok _).ite (.parse _ _))
  · exact (toldUnless_fieldText n place _).bind_of_told fun _ => .ok _
  · exact (toldUnless_fieldText n place _).bind_of_told fun _ => .ok _

lemma exists_fieldText {n : Xml.Node} {place field : String} :
    (∃ s, fieldText n place field = .ok s) ↔
      ∃ s, Xml.rawChildText n field = .ok (some s) := by
  rw [fieldText, Xml.childText_eq, Xml.rawChildText_eq]
  cases n.hides field with
  | true => simp
  | false => cases n.fieldText? field <;> simp

lemma exists_delimiterText {n : Xml.Node} {place : String} :
    (∃ s, delimiterText n place = .ok s) ↔ Gives n "delimiter" := by
  rw [delimiterText, Gives, Xml.rawChildText_eq]
  cases n.hides "delimiter" with
  | true => simp
  | false =>
      cases n.fieldText? "delimiter" with
      | none => simp
      | some raw =>
          by_cases htab : trim raw = "\\t"
          · simp [htab]
          · by_cases hlength : raw.length = 1
            · simp [htab, hlength]
            · by_cases hchar : (trim raw).length = 1 <;> simp [htab, hlength, hchar]

/-- What is given can be read, wherever it stands. -/
lemma exists_fieldValue {n : Xml.Node} {place field : String} :
    (∃ v, fieldValue n place field = .ok v) ↔ Gives n field := by
  have hvalue {x : Except Error String} {g : String → String × Json} :
      (∃ v, (x >>= fun s => .ok (g s)) = .ok v) ↔ ∃ s, x = .ok s := by
    cases x <;> simp
  have hgives (h : field ≠ "delimiter") : (∃ s, fieldText n place field = .ok s) ↔
      Gives n field := by
    rw [exists_fieldText]
    exact exists_congr fun s => (and_iff_left fun hfield => absurd hfield h).symm
  unfold fieldValue
  split
  · exact hvalue.trans exists_delimiterText
  · exact hvalue.trans (hgives (by decide))
  · next hdelimiter _ => exact hvalue.trans (hgives hdelimiter)

/-- The value of a field is a path only if the field is one. -/
lemma fieldValue_eq_path {n : Xml.Node} {place field s : String}
    (h : fieldValue n place field = .ok ("path", .text s)) :
    field = "path" ∧ ∃ raw, n.fieldText? "path" = some raw ∧ s = trim raw := by
  unfold fieldValue at h
  split at h
  · obtain ⟨_, -, h⟩ := bind_eq_ok.1 h
    simp at h
  · obtain ⟨_, -, h⟩ := bind_eq_ok.1 h
    simp at h
  · obtain ⟨given, hgiven, h⟩ := bind_eq_ok.1 h
    cases h
    rw [fieldText_eq_ok, Xml.childText_eq] at hgiven
    split at hgiven
    · cases hgiven
    · obtain ⟨raw, hraw, htrim⟩ := Option.map_eq_some_iff.1 (Except.ok.inj hgiven)
      exact ⟨rfl, raw, hraw, htrim.symm⟩

lemma fieldSeenFrom_eq_error {fs : Files} {directory : Path} {field : String × Json}
    {cause : Cause} :
    fieldSeenFrom fs directory field = .error cause ↔ cause = .unknownHome ∧
      ∃ s user, field = ("path", .text s) ∧ (Path.ofText s).user? = some user ∧
        fs.home? user = none := by
  unfold fieldSeenFrom
  split
  · next s => simp [pathSeenFrom, bind_eq_error, Files.expanded_eq_error]
  · next hother =>
    refine iff_of_false nofun ?_
    rintro ⟨-, s, user, rfl, -⟩
    exact hother s rfl

/-- **What is seen from a directory** fails if the path of the source leads nowhere. -/
lemma seenFrom_eq_error {fs : Files} {directory : Path} {n : Xml.Node} {place : String}
    {names : List String} {fields : List (String × Json)} {cause : Cause}
    (hfields : names.mapM (fieldValue n place) = .ok fields) :
    seenFrom fs directory fields = .error cause ↔
      "path" ∈ names ∧ cause = .unknownHome ∧ n.IsHomeless fs := by
  have hfails {cause : Cause} (h : seenFrom fs directory fields = .error cause) :
      "path" ∈ names ∧ cause = .unknownHome ∧ n.IsHomeless fs := by
    obtain ⟨field, hfield, h⟩ := exists_of_mapM_error h
    obtain ⟨rfl, s, user, rfl, huser, hhome⟩ := fieldSeenFrom_eq_error.1 h
    obtain ⟨name, hname, hvalue⟩ := exists_of_mapM_ok hfields _ hfield
    obtain ⟨rfl, raw, hraw, rfl⟩ := fieldValue_eq_path hvalue
    exact ⟨hname, rfl, raw, user, hraw, huser, hhome⟩
  refine ⟨hfails, ?_⟩
  rintro ⟨hpath, rfl, raw, user, hraw, huser, hhome⟩
  cases hseen : seenFrom fs directory fields with
  | error cause => rw [(hfails hseen).2.1]
  | ok seen =>
      -- the value of the path among the fields cannot be seen from anywhere
      obtain ⟨value, hvalue, hfield⟩ := exists_ok_of_mapM hfields _ hpath
      obtain ⟨s, hs, hvalue'⟩ := bind_eq_ok.1 hfield
      cases hvalue'
      obtain ⟨-, raw', hraw', rfl⟩ := fieldValue_eq_path hfield
      obtain rfl := Option.some.inj (hraw.symm.trans hraw')
      obtain ⟨_, -, hfound⟩ := exists_ok_of_mapM hseen _ hvalue
      have hlost : fieldSeenFrom fs directory ("path", .text (trim raw)) = .error .unknownHome :=
        fieldSeenFrom_eq_error.2 ⟨rfl, trim raw, user, rfl, huser, hhome⟩
      rw [hlost] at hfound
      cases hfound

example : pathSeenFrom .none ⟨"", []⟩ "~nobody/data" = .error .unknownHome := by
  decide +kernel

lemma toldUnless_ofElement (fs : Files) (n : Xml.Node) (place : String) (directory : Path) :
    ToldUnless (ofElement fs n place directory) (IsUntold fs n) := by
  have hgiven : (∃ fields, (fieldsIn n).mapM (fieldValue n place) = .ok fields) ↔
      ∀ f ∈ fieldsIn n, Gives n f := by
    simp only [exists_mapM_eq_ok, exists_fieldValue]
  unfold ofElement IsUntold
  dsimp only
  split
  · next hkind => exact (ToldUnless.parse _ _).never fun _ h => hkind h.1
  · next hkind =>
      have hfields := ToldUnless.mapM (toldUnless_fieldValue n place) (fieldsIn n)
      simp only [exists_fieldValue] at hfields
      refine (hfields.bind (R := fun _ cause => "path" ∈ fieldsIn n ∧ cause = .unknownHome ∧
        n.IsHomeless fs) fun fields hok => ?_).congr fun cause => ?_
      · refine ToldUnless.congr (ToldUnless.bind_of_told (.ofCause _) fun seen => ?_) fun cause =>
          seenFrom_eq_error hok
        split
        · exact .ok _
        · exact .parse _ _
        · exact .parse _ _
      · rw [exists_and_right, hgiven]
        exact (and_iff_right (not_not.1 hkind)).symm

end Source

/-! ## Entries and roots -/

namespace Entries

variable {α : Type} {E : Entries α} {untold : Xml.Node → Cause → Prop}

lemma readAll_append (E : Entries α) (seen : List α) (before behind : List Xml.Node) :
    E.readAll seen (before ++ behind) =
      E.readAll seen before >>= fun seen' => E.readAll seen' behind := by
  induction before generalizing seen with
  | nil => rfl
  | cons n ns ih =>
      cases n with
      | element tag attributes children =>
          by_cases htag : tag = E.tag
          · rw [List.cons_append, E.readAll_entry _ _ _ _ htag, E.readAll_entry _ _ _ _ htag,
              bind_assoc]
            refine congrArg _ (funext fun a => ?_)
            split
            · rfl
            · exact ih _
          · rw [List.cons_append, E.readAll_other _ _ _ _ htag, E.readAll_other _ _ _ _ htag, ih]
      | text s => exact ih seen
      | reference name => rfl

/-- **Entries that are refused without a word**: what stands in front is read, and then comes a
reference or an entry that is refused without a word. -/
def IsUntold (E : Entries α) (untold : Xml.Node → Cause → Prop) (seen : List α)
    (ns : List Xml.Node) (cause : Cause) : Prop :=
  ∃ before n behind seen', ns = before ++ n :: behind ∧ E.readAll seen before = .ok seen' ∧
    (AsValue (n.isReference = true) cause ∨ n.isNamed E.tag = true ∧ untold n cause)

/-- **One node of a root**, which need not be an entry. -/
lemma toldUnless_step (hread : ∀ i n, ToldUnless (E.read i n) (untold n)) (seen : List α)
    (n : Xml.Node) :
    ToldUnless (E.readAll seen [n]) fun cause =>
      AsValue (n.isReference = true) cause ∨ n.isNamed E.tag = true ∧ untold n cause := by
  cases n with
  | element tag attributes children =>
      by_cases htag : tag = E.tag
      · rw [E.readAll_entry _ _ _ _ htag]
        refine ((hread _ _).bind_of_told fun a => (ToldUnless.schema _).ite (.ok _)).congr fun _ =>
          ?_
        simp [AsValue, Xml.Node.isReference, Xml.Node.isNamed, htag]
      · rw [E.readAll_other _ _ _ _ htag]
        refine (ToldUnless.ok _).never fun _ => ?_
        simp [AsValue, Xml.Node.isReference, Xml.Node.isNamed, htag]
  | text s =>
      exact (ToldUnless.ok _).never fun _ =>
        by simp [AsValue, Xml.Node.isReference, Xml.Node.isNamed]
  | reference name =>
      exact (ToldUnless.plain _).congr fun _ =>
        by simp [AsValue, Xml.Node.isReference, Xml.Node.isNamed]

/-- **All nodes of a root**, one after the other. -/
lemma toldUnless_readAll (hread : ∀ i n, ToldUnless (E.read i n) (untold n)) (seen : List α)
    (ns : List Xml.Node) : ToldUnless (E.readAll seen ns) (E.IsUntold untold seen ns) := by
  induction ns generalizing seen with
  | nil =>
      refine (ToldUnless.ok _).never ?_
      rintro cause ⟨before, n, behind, -, hsplit, -⟩
      cases before <;> cases hsplit
  | cons n ns ih =>
      have hcons : E.readAll seen (n :: ns) = E.readAll seen [n] >>= fun seen' =>
          E.readAll seen' ns :=
        E.readAll_append seen [n] ns
      rw [hcons]
      refine ((toldUnless_step hread seen n).bind fun seen' _ => ih seen').congr fun cause =>
        ⟨?_, ?_⟩
      · rintro (hn | ⟨seen', hhead, before, m, behind, seen'', rfl, hbefore, hm⟩)
        · exact ⟨[], n, ns, seen, rfl, rfl, hn⟩
        · refine ⟨n :: before, m, behind, seen'', rfl, ?_, hm⟩
          rw [← List.singleton_append, readAll_append, hhead]
          exact hbefore
      · rintro ⟨before, m, behind, seen'', hsplit, hbefore, hm⟩
        cases before with
        | nil =>
            obtain ⟨rfl, rfl⟩ := List.cons.inj hsplit
            exact .inl hm
        | cons n' before =>
            obtain ⟨rfl, rfl⟩ := List.cons.inj hsplit
            rw [← List.singleton_append, readAll_append, bind_eq_ok] at hbefore
            obtain ⟨seen', hhead, hbefore⟩ := hbefore
            exact .inr ⟨seen', hhead, before, m, behind, seen'', rfl, hbefore, hm⟩

end Entries

/-- **A query document that is refused without a word**, from its root. -/
def QueryDocument.IsUntold (source : String) (root : Xml.Node) (cause : Cause) : Prop :=
  root.isNamed "query" = true ∧ (AsValue (root.hides "rootnode" = true) cause ∨
    root.hides "rootnode" = false ∧ root.Says "rootnode" ∧
      (nodeEntries source).IsUntold (fun n => AsValue (NodeSpec.IsUntold n)) [] root.children cause)

/-- **A catalog that is refused without a word**, from its root. -/
def Catalog.IsUntold (fs : Files) (path : Path) (root : Xml.Node) : Cause → Prop :=
  (sourceEntries fs path).IsUntold (Source.IsUntold fs) [] root.children

lemma QueryDocument.toldUnless_ofRoot (source : String) (tag : String)
    (attributes : List (String × String)) (children : List Xml.Node) :
    ToldUnless (QueryDocument.ofRoot (.element tag attributes children) source)
      (QueryDocument.IsUntold source (.element tag attributes children)) := by
  have hentries := (nodeEntries source).toldUnless_readAll
    (fun i n => NodeSpec.toldUnless_ofElement n (source ++ ":node[" ++ toString i ++ "]"))
    [] children
  rw [← nodeSpecs_eq_readAll] at hentries
  rw [QueryDocument.ofRoot, Xml.Node.tag, ok_bind]
  split
  · next htag => exact (ToldUnless.parse _ _).never fun _ h => htag (of_decide_eq_true h.1)
  · next htag =>
      refine ToldUnless.congr ?_ fun cause => (and_iff_right (decide_eq_true (not_not.1 htag))).symm
      refine ToldUnless.bind_childText ?_
      refine ToldUnless.bind_required fun root => ?_
      exact hentries.bind_of_told fun nodes => .ok _

lemma Catalog.toldUnless_ofRoot (fs : Files) (path : Path) (root : Xml.Node) :
    ToldUnless (Catalog.ofRoot fs root path).result (Catalog.IsUntold fs path root) := by
  rw [Catalog.ofRoot, Traced.result_bind, Catalog.result_readSources]
  refine ToldUnless.bind_of_told ?_ fun sources => .ok _
  refine Entries.toldUnless_readAll (fun i n => ?_) [] root.children
  rw [sourceEntries_read]
  exact Source.toldUnless_ofElement fs n _ _

/-! ## Where references stand -/

/-- **A root with references to entities** in itself or in one of its entries. -/
def Xml.Node.Refers (entry : String) (root : Xml.Node) : Prop :=
  ∃ n, (n = root ∨ n ∈ root.fieldsOf entry) ∧ ∃ c ∈ n.children, c.isReference = true

lemma Xml.Node.exists_of_hides {n : Xml.Node} {field : String} (h : n.hides field = true) :
    ∃ c ∈ n.children, c.isReference = true := by
  obtain ⟨c, hc, href⟩ := List.any_eq_true.1 h
  exact ⟨c, (List.takeWhile_sublist _).subset hc, href⟩

lemma NodeSpec.IsUntold.exists {n : Xml.Node} (h : NodeSpec.IsUntold n) :
    (∃ c ∈ n.children, c.isReference = true) ∨
      ∃ segment ∈ segmentsOf ((n.fieldText? "transformations").map trim),
        Step.IsUntold segment := by
  rcases h with
    h | h | ⟨-, -, h | h | ⟨before, segment, behind, hsplit, -, h⟩ | ⟨-, h | h⟩⟩
  · exact .inl (Xml.Node.exists_of_hides h)
  · exact .inl (Xml.Node.exists_of_hides h)
  · exact .inl (Xml.Node.exists_of_hides h)
  · exact .inl (Xml.Node.exists_of_hides h)
  · refine .inr ⟨segment, ?_, h⟩
    rw [hsplit]
    exact List.mem_append_right _ List.mem_cons_self
  · exact .inl (Xml.Node.exists_of_hides h)
  · exact .inl (Xml.Node.exists_of_hides h)

lemma Entries.IsUntold.exists {α : Type} {E : Entries α} {untold : Xml.Node → Cause → Prop}
    {seen : List α} {root : Xml.Node} {cause : Cause}
    (h : E.IsUntold untold seen root.children cause) :
    AsValue (∃ c ∈ root.children, c.isReference = true) cause ∨
      ∃ n ∈ root.fieldsOf E.tag, untold n cause := by
  obtain ⟨before, n, behind, -, hsplit, -, h⟩ := h
  have hmem : n ∈ root.children := hsplit ▸ List.mem_append_right _ List.mem_cons_self
  rcases h with ⟨hcause, h⟩ | ⟨hnamed, h⟩
  · exact .inl ⟨hcause, n, hmem, h⟩
  · exact .inr ⟨n, List.mem_filter.2 ⟨hmem, hnamed⟩, h⟩

lemma QueryDocument.IsUntold.refers {source : String} {root : Xml.Node} {cause : Cause}
    (h : QueryDocument.IsUntold source root cause) :
    AsValue (root.Refers "node" ∨ ∃ n ∈ root.fieldsOf "node",
      ∃ segment ∈ segmentsOf ((n.fieldText? "transformations").map trim),
        Step.IsUntold segment) cause := by
  obtain ⟨-, ⟨hcause, h⟩ | ⟨-, -, h⟩⟩ := h
  · exact ⟨hcause, .inl ⟨root, .inl rfl, Xml.Node.exists_of_hides h⟩⟩
  · rcases h.exists with ⟨hcause, h⟩ | ⟨n, hn, hcause, h⟩
    · exact ⟨hcause, .inl ⟨root, .inl rfl, h⟩⟩
    · exact ⟨hcause, h.exists.imp (fun h => ⟨n, .inr hn, h⟩) fun h => ⟨n, hn, h⟩⟩

lemma Catalog.IsUntold.refers {fs : Files} {path : Path} {root : Xml.Node} {cause : Cause}
    (h : Catalog.IsUntold fs path root cause) :
    AsValue (root.Refers "datasource") cause ∨
      cause = .unknownHome ∧ ∃ n ∈ root.fieldsOf "datasource", n.IsHomeless fs := by
  rcases Entries.IsUntold.exists h with
    ⟨hcause, h⟩ | ⟨n, hn, -, ⟨_, _, _, -, -, hcause, h⟩ |
    ⟨-, -, hcause, h⟩⟩
  · exact .inl ⟨hcause, root, .inl rfl, h⟩
  · exact .inl ⟨hcause, n, .inr hn, Xml.Node.exists_of_hides h⟩
  · exact .inr ⟨hcause, n, hn, h⟩

/-! ## Documents in files -/

section Load

variable {fs : Files} {path : Path} {bytes : List UInt8}

/-- A file that can be read is a document, or is told to be none. -/
lemma toldUnless_readDocument (hbytes : fs.readBytes path = .ok bytes) :
    ToldUnless (Xml.readDocument fs path) Never := by
  rw [Xml.readDocument, hbytes]
  dsimp only
  split
  · exact .ok _
  · exact .parse _ _

lemma QueryDocument.result_load_eq (fs : Files) (path : Path) :
    (QueryDocument.load fs path).result =
    Xml.readDocument fs path >>= fun root => QueryDocument.ofRoot root path.text := by
  cases h : Xml.readDocument fs path with
  | ok root => exact QueryDocument.result_load h
  | error e =>
      simp only [QueryDocument.load, Traced.result_bind, Traced.result_note, Traced.result_of, h]
      rfl

lemma Catalog.result_load_eq (fs : Files) (path : Path) : (Catalog.load fs path).result =
    Xml.readDocument fs path >>= fun root => (Catalog.ofRoot fs root path).result := by
  simp only [Catalog.load, Traced.result_bind, Traced.result_note, Traced.result_of]
  rfl

/-- **How the loading of a document fails.**  A query document and a catalog in a file that can be
read are loaded, or it is told what is wrong with them, unless what is read first of all that
cannot be used is a field or an entry behind a reference to an entity, the formula of a step that
is refused without a word, or a path from the home directory of a user who is not known.  So that
only happens to documents that hold such a reference, such a formula or such a path, and the cause
tells them apart. -/
theorem load_toldUnless (hbytes : fs.readBytes path = .ok bytes) :
    ToldUnless (QueryDocument.load fs path).result
        (fun cause => ∃ root, Xml.readDocument fs path = .ok root ∧
          QueryDocument.IsUntold path.text root cause) ∧
      ToldUnless (Catalog.load fs path).result
        (fun cause => ∃ root, Xml.readDocument fs path = .ok root ∧
          Catalog.IsUntold fs path root cause) ∧
      ∀ root cause, (QueryDocument.IsUntold path.text root cause →
          AsValue (root.Refers "node" ∨ ∃ n ∈ root.fieldsOf "node",
            ∃ segment ∈ segmentsOf ((n.fieldText? "transformations").map trim),
              Step.IsUntold segment) cause) ∧
        (Catalog.IsUntold fs path root cause →
          AsValue (root.Refers "datasource") cause ∨
            cause = .unknownHome ∧ ∃ n ∈ root.fieldsOf "datasource", n.IsHomeless fs) := by
  have hdocument := toldUnless_readDocument hbytes
  refine ⟨?_, ?_,
    fun root cause => ⟨QueryDocument.IsUntold.refers, Catalog.IsUntold.refers⟩⟩
  · rw [QueryDocument.result_load_eq]
    refine (hdocument.bind fun root hroot => ?_).congr fun _ => or_iff_right id
    obtain ⟨-, -, -, -, -, tag, attributes, children, rfl⟩ := Xml.readDocument_eq_ok hroot
    exact QueryDocument.toldUnless_ofRoot path.text tag attributes children
  · rw [Catalog.result_load_eq]
    exact (hdocument.bind fun root _ => Catalog.toldUnless_ofRoot fs path root).congr fun _ =>
      or_iff_right id

/-- A catalog of one source with a reference among its fields. -/
def referringCatalog (before behind : List Xml.Node) : Xml.Node :=
  .element "datasources" []
    [.element "datasource" [("type", "xml")] (before ++
      [.element "id" [] [.text "1"], .element "name" [] [.text "cities"],
        .element "filename" [] [.text "cities.xml"], .element "path" [] [.text "/data"]] ++ behind)]

/-- A query document with a reference in front of everything else. -/
def referringQuery : Xml.Node :=
  .element "query" []
    [.reference "e", .element "rootnode" [] [.text "R"],
      .element "node" [] [.element "onnode" [] [.text "Region"], .element "label" [] [.text "R"]]]

/-- Documents that declare an entity, and refer to it at different places. -/
def referringFiles : Files :=
  let query := "<!DOCTYPE query [<!ENTITY e 'x'>]><query>&e;<rootnode>R</rootnode>" ++
    "<node><onnode>Region</onnode><label>R</label></node></query>"
  let catalog (before behind : String) := "<!DOCTYPE datasources [<!ENTITY e 'x'>]><datasources>" ++
    "<datasource type='xml'>" ++ before ++ "<id>1</id><name>cities</name>" ++
    "<filename>cities.xml</filename><path>/data</path>" ++ behind ++ "</datasource></datasources>"
  let file (text : String) := .file (.bytes text.toUTF8.toList)
  { entries := [(["query.xml"], file query), (["catalog.xml"], file (catalog "&e;" "")),
      (["behind.xml"], file (catalog "" "&e;"))] }

/-- A reference behind the fields of a source does not matter. -/
theorem load_toldUnless_behind :
    (∃ bytes, referringFiles.readBytes ⟨"", ["behind.xml"]⟩ = .ok bytes) ∧
    (Catalog.load referringFiles ⟨"", ["behind.xml"]⟩).result
      = .ok ⟨[.xml ⟨1, "cities", "cities.xml", "/data"⟩]⟩ ∧
    ∀ cause, ¬ Catalog.IsUntold referringFiles ⟨"", ["behind.xml"]⟩
      (referringCatalog [] [.reference "e"]) cause := by
  have hread : Xml.readDocument referringFiles ⟨"", ["behind.xml"]⟩
      = .ok (referringCatalog [] [.reference "e"]) :=
    Xml.readDocument_of_events rfl (by decide +kernel)
  have hload : (Catalog.load referringFiles ⟨"", ["behind.xml"]⟩).result
      = .ok ⟨[.xml ⟨1, "cities", "cities.xml", "/data"⟩]⟩ := by
    rw [Catalog.result_load hread]
    decide +kernel
  obtain ⟨bytes, hbytes, -⟩ := Xml.readDocument_eq_ok hread
  obtain ⟨-, hcatalog, -⟩ := load_toldUnless hbytes
  refine ⟨⟨bytes, hbytes⟩, hload, fun cause h => ?_⟩
  have hfails := (hcatalog.untold cause).2 ⟨_, hread, h⟩
  rw [hload] at hfails
  cases hfails

/-- **Documents that are refused without a word**: they are sound, but a reference stands in front
of what is looked for. -/
theorem load_reference :
    Xml.readDocument referringFiles ⟨"", ["query.xml"]⟩ = .ok referringQuery ∧
      (QueryDocument.load referringFiles ⟨"", ["query.xml"]⟩).result
        = .error (.plain (.fault .wrongValue)) ∧
      Xml.readDocument referringFiles ⟨"", ["catalog.xml"]⟩
        = .ok (referringCatalog [.reference "e"] []) ∧
      (Catalog.load referringFiles ⟨"", ["catalog.xml"]⟩).result
        = .error (.plain (.fault .wrongValue)) ∧
      ¬ (Error.plain (.fault .wrongValue)).IsTold := by
  have hquery : Xml.readDocument referringFiles ⟨"", ["query.xml"]⟩ = .ok referringQuery :=
    Xml.readDocument_of_events rfl (by decide +kernel)
  have hcatalog : Xml.readDocument referringFiles ⟨"", ["catalog.xml"]⟩
      = .ok (referringCatalog [.reference "e"] []) :=
    Xml.readDocument_of_events rfl (by decide +kernel)
  refine ⟨hquery, ?_, hcatalog, ?_, ?_⟩
  · rw [QueryDocument.result_load hquery]
    rfl
  · rw [Catalog.result_load hcatalog]
    decide +kernel
  · rintro (⟨_, _, h⟩ | ⟨_, h⟩)
    · cases h
    · cases h

end Load

end Crosswalk
