import Crosswalk.Proofs.Files
import Crosswalk.Proofs.Mapping.Loading
import Crosswalk.Proofs.Text.Utf8

/-!
# Snapshots that cannot be used

A store is made ready in one step: it gets the graph of its snapshot, or it stays as it is.  A
failure is one of the store if the snapshot is no text, or no JSON, or lacks something.  But that a
value is of another kind than the parts of a graph turns out while it is read, and what is raised
then is no failure of the store.

* `Cause.isForeign` — **what is not taken for a failure of the store.**
* `Judged` — a reading that ends well if and only if the value has the form of a graph and lacks
  nothing, and otherwise says which of both is wrong; `Judged.bind` — two readings in a row.
* `Graph.fits`, `Graph.isComplete` — **the form of a graph, and what must not be lacking.**
* `Graph.judged_ofJson` — the reading of a graph.
* `Json.ofChars_error` — texts that are no JSON.
* **`verify_snapshot`** — what comes of every content of a snapshot.
* `verify_snapshot_list` — a list is no graph, and the store does not say so.
-/

namespace Crosswalk

/-! ## Judgements -/

/-- **What is not taken for a failure of the store**, when its snapshot is read. -/
def Cause.isForeign : Cause → Bool
  | otherKind | unusableKey | fault .wrongType => true
  | _ => false

lemma snapshotFailure_eq (path : Path) (cause : Cause) :
    MemoryStore.snapshotFailure path cause
      = if cause.isForeign then .plain cause else .connection (.snapshot path.text cause) := by
  unfold MemoryStore.snapshotFailure
  split
  · rfl
  · rfl
  · rfl
  · next hother hkey htype =>
    rw [if_neg]
    cases cause with
    | fault f => cases f with
      | wrongType => exact absurd rfl htype
      | _ => exact Bool.false_ne_true
    | otherKind => exact absurd rfl hother
    | unusableKey => exact absurd rfl hkey
    | _ => exact Bool.false_ne_true

/-- **A reading that ends well if a value has its form and lacks nothing.**  If it fails, the cause
tells which of both is not so. -/
def Judged {α : Type} (fits complete : Bool) : Except Cause α → Prop
  | .ok _ => fits = true ∧ complete = true
  | .error cause => if cause.isForeign then fits = false else complete = false

section Judged

variable {α β : Type} {fits complete fits' complete' : Bool} {cause : Cause}

lemma judged_foreign (hcause : cause.isForeign = true) (h : fits = false) :
    Judged fits complete (.error cause : Except Cause α) := by
  rwa [Judged, if_pos hcause]

lemma judged_lacking (hcause : cause.isForeign = false) (h : complete = false) :
    Judged fits complete (.error cause : Except Cause α) := by
  rwa [Judged, if_neg (Bool.eq_false_iff.1 hcause)]

/-- **Two readings in a row**: both forms are needed, and neither value may lack anything. -/
lemma Judged.bind {x : Except Cause α} {f : α → Except Cause β} (hx : Judged fits complete x)
    (hf : ∀ a, x = .ok a → Judged fits' complete' (f a)) :
    Judged (fits && fits') (complete && complete') (x >>= f) := by
  cases x with
  | ok a =>
      obtain ⟨rfl, rfl⟩ := hx
      rw [Bool.true_and, Bool.true_and]
      exact hf a rfl
  | error cause =>
      rw [error_bind]
      cases hcause : cause.isForeign with
      | true =>
          rw [Judged, if_pos hcause] at hx
          exact judged_foreign hcause (by rw [hx, Bool.false_and])
      | false =>
          rw [Judged, if_neg (Bool.eq_false_iff.1 hcause)] at hx
          exact judged_lacking hcause (by rw [hx, Bool.false_and])

end Judged

namespace Graph

/-! ## The form of a graph -/

/-- A value that is something. -/
def isSomething : Json → Bool
  | .null => false
  | _ => true

/-- A value that can be the key of an edge. -/
def isKey : Json → Bool
  | .list _ | .object _ => false
  | _ => true

/-- No data have a name that is taken. -/
def isFree (taken : List String) (data : Members) : Bool :=
  !data.any fun (name, _) => taken.contains name

/-- The form of a node. -/
def nodeFits : Json → Bool
  | .object members =>
    isFree nodeWords (without ["id"] members) && (members.lookup "id").all isName
  | _ => false

/-- A node that is not named by nothing. -/
def nodeIsComplete : Json → Bool
  | .object members => (members.lookup "id").all isSomething
  | _ => true

/-- The form of an edge.  Between the same nodes there may be several if they have keys. -/
def edgeFits (isParallel : Bool) : Json → Bool
  | .object members =>
    isFree (edgeWords isParallel) (without (endNames isParallel) members) &&
      (members.lookup "source").all isEndName && (members.lookup "target").all isEndName &&
      (if isParallel then (members.lookup "key").all isKey else true)
  | _ => false

/-- An edge with two ends, neither of them named by nothing. -/
def edgeIsComplete : Json → Bool
  | .object members => (members.lookup "source").any isSomething &&
      (members.lookup "target").any isSomething
  | _ => true

/-- A value whose items are of a form. -/
def itemsFit (form : Json → Bool) (j : Json) : Bool :=
  match itemsOf j with
  | .ok items => items.all form
  | .error _ => false

/-- A value whose items lack nothing, if it has items. -/
def itemsComplete (form : Json → Bool) (j : Json) : Bool :=
  match itemsOf j with
  | .ok items => items.all form
  | .error _ => true

/-- **The form of a graph**: an object whose nodes and edges, if there are any, have their forms. -/
def fits : Json → Bool
  | .object members =>
    (members.lookup "nodes").all (itemsFit nodeFits) &&
      (members.lookup "edges").all (itemsFit (edgeFits (saysTrue members "multigraph")))
  | _ => false

/-- **What must not be lacking**: the nodes, the edges, their ends, and their names. -/
def isComplete : Json → Bool
  | .object members =>
    (members.lookup "nodes").any (itemsComplete nodeIsComplete) &&
      (members.lookup "edges").any (itemsComplete edgeIsComplete)
  | _ => true

/-! ## Reading a graph -/

lemma judged_freeOf (taken : List String) (data : Members) :
    Judged (isFree taken data) true (freeOf taken data) := by
  rw [freeOf, isFree]
  cases data.any fun (name, _) => taken.contains name with
  | true => exact judged_foreign rfl rfl
  | false => exact ⟨rfl, rfl⟩

lemma judged_nameOf (form : Json → Bool) (j : Json) :
    Judged (form j) (isSomething j) (nameOf form j) := by
  cases j with
  | null => exact judged_lacking rfl rfl
  | _ =>
      unfold nameOf
      dsimp only
      split
      · next h => exact ⟨h, rfl⟩
      · next h => exact judged_foreign rfl (Bool.eq_false_iff.2 h)

lemma judged_keyIn (members : Members) :
    Judged ((members.lookup "key").all isKey) true (keyIn members) := by
  rw [keyIn]
  cases members.lookup "key" with
  | none => exact ⟨rfl, rfl⟩
  | some j =>
      cases j with
      | list => exact judged_foreign rfl rfl
      | object => exact judged_foreign rfl rfl
      | _ => exact ⟨rfl, rfl⟩

lemma isParallel_ensureNode (g : Graph) (id : Json) :
    (g.ensureNode id).isParallel = g.isParallel := by
  rw [ensureNode]
  split <;> rfl

lemma isParallel_addEdge (g : Graph) (head tail : Json) (key : Option Json) (data : Members) :
    (g.addEdge head tail key data).isParallel = g.isParallel := by
  have hends : ((g.ensureNode head).ensureNode tail).isParallel = g.isParallel := by
    rw [isParallel_ensureNode, isParallel_ensureNode]
  rw [addEdge]
  dsimp only
  split <;> exact hends

lemma isParallel_readNodes {g g' : Graph} {i : Nat} {items : List Json}
    (h : readNodes g i items = .ok g') : g'.isParallel = g.isParallel := by
  induction items generalizing g i with
  | nil =>
      cases h
      rfl
  | cons item items ih =>
      cases item with
      | object members =>
          obtain ⟨data, -, h⟩ := bind_eq_ok.1 h
          obtain ⟨id, -, h⟩ := bind_eq_ok.1 h
          rw [ih h]
          rfl
      | _ => cases h

/-- **The nodes of values.** -/
lemma judged_readNodes (g : Graph) (i : Nat) (items : List Json) :
    Judged (items.all nodeFits) (items.all nodeIsComplete) (readNodes g i items) := by
  induction items generalizing g i with
  | nil => exact ⟨rfl, rfl⟩
  | cons item items ih =>
      rw [List.all_cons, List.all_cons]
      cases item with
      | object members =>
          have hname : ∀ form : Json → Bool, (∀ i : Nat, form (.int i) = true) →
              form ((members.lookup "id").getD (.int i)) = (members.lookup "id").all form := by
            intro form hint
            cases members.lookup "id" with
            | none => exact hint i
            | some j => rfl
          have hread := (judged_freeOf nodeWords (without ["id"] members)).bind fun data _ =>
            (judged_nameOf isName ((members.lookup "id").getD (.int i))).bind fun id _ =>
              ih (g.addNode id data) (i + 1)
          rw [hname isName fun _ => rfl, hname isSomething fun _ => rfl, Bool.true_and,
            ← Bool.and_assoc] at hread
          exact hread
      | _ => exact judged_foreign rfl rfl

lemma readEdges_object (g : Graph) (members : Members) (items : List Json) :
    readEdges g (.object members :: items)
      = member members "source" >>= fun head => member members "target" >>= fun tail =>
        freeOf (edgeWords g.isParallel) (without (endNames g.isParallel) members) >>= fun data =>
        nameOf isEndName head >>= fun head => nameOf isEndName tail >>= fun tail =>
        (if g.isParallel then keyIn members else .ok none) >>= fun key =>
        readEdges (g.addEdge head tail key data) items := by
  rw [readEdges]
  cases g.isParallel <;> rfl

/-- **The edges of values.** -/
lemma judged_readEdges (g : Graph) (items : List Json) :
    Judged (items.all (edgeFits g.isParallel)) (items.all edgeIsComplete) (readEdges g items) := by
  induction items generalizing g with
  | nil => exact ⟨rfl, rfl⟩
  | cons item items ih =>
      rw [List.all_cons, List.all_cons]
      cases item with
      | object members =>
          rw [readEdges_object, member, member, edgeFits, edgeIsComplete]
          cases members.lookup "source" with
          | none => exact judged_lacking rfl rfl
          | some head =>
              cases members.lookup "target" with
              | none => exact judged_lacking rfl (by rw [Option.any_none, Bool.and_false]; rfl)
              | some tail =>
                  have hkey : Judged
                      (if g.isParallel then (members.lookup "key").all isKey else true) true
                      (if g.isParallel then keyIn members else .ok none) := by
                    cases g.isParallel with
                    | true => exact judged_keyIn members
                    | false => exact ⟨rfl, rfl⟩
                  have hrest (head tail : Json) (key : Option Json) (data : Members) :=
                    isParallel_addEdge g head tail key data ▸ ih (g.addEdge head tail key data)
                  have hread := (judged_freeOf (edgeWords g.isParallel)
                    (without (endNames g.isParallel) members)).bind fun data _ =>
                      (judged_nameOf isEndName head).bind fun head _ =>
                        (judged_nameOf isEndName tail).bind fun tail _ =>
                          hkey.bind fun key _ => hrest head tail key data
                  simp only [Bool.true_and, ← Bool.and_assoc] at hread
                  exact hread
      | _ => exact judged_foreign rfl rfl

/-- **The items of a member**, read one after the other. -/
lemma judged_itemsIn {form complete : Json → Bool} {read : List Json → Except Cause Graph}
    (h : ∀ items : List Json, Judged (items.all form) (items.all complete) (read items))
    (members : Members) (name : String) :
    Judged ((members.lookup name).all (itemsFit form))
      ((members.lookup name).any (itemsComplete complete))
      (member members name >>= fun j => itemsOf j >>= read) := by
  rw [member]
  cases members.lookup name with
  | none => exact judged_lacking rfl rfl
  | some j =>
      rw [ok_bind, Option.all_some, Option.any_some, itemsFit, itemsComplete]
      cases hitems : itemsOf j with
      | ok items => exact h items
      | error cause =>
          have hcause : cause.isForeign = true := by
            cases j <;> cases hitems <;> rfl
          exact judged_foreign hcause rfl

/-- **The reading of a graph.** -/
theorem judged_ofJson (v : Json) : Judged (fits v) (isComplete v) (ofJson v) := by
  cases v with
  | object members =>
      let g : Graph :=
        { isDirected := saysTrue members "directed"
          isParallel := saysTrue members "multigraph"
          data := (members.lookup "graph").getD (.object []) }
      have hdo : ofJson (.object members)
          = (member members "nodes" >>= fun j => itemsOf j >>= readNodes g 0) >>= fun g' =>
            member members "edges" >>= fun j => itemsOf j >>= readEdges g' := by
        simp only [ofJson, bind_assoc]
        rfl
      rw [hdo]
      refine (judged_itemsIn (judged_readNodes g 0) members "nodes").bind fun g' hg' => ?_
      obtain ⟨j, -, hg'⟩ := bind_eq_ok.1 hg'
      obtain ⟨items, -, hg'⟩ := bind_eq_ok.1 hg'
      have hparallel : g'.isParallel = saysTrue members "multigraph" := isParallel_readNodes hg'
      rw [← hparallel]
      exact judged_itemsIn (judged_readEdges g') members "edges"
  | _ => exact judged_foreign rfl rfl

end Graph

/-! ## Texts that are no JSON -/

namespace Json

/-- **What keeps a text from being JSON**: its form, or a whole number with too many digits. -/
def IsTextFailure (cause : Cause) : Prop := cause = .malformedJson ∨ cause = .fault .wrongValue

variable {cs : List Char} {cause : Cause}

lemma readNumber_error (h : readNumber cs = .error cause) : IsTextFailure cause := by
  unfold readNumber at h
  dsimp only at h
  split at h
  · cases h
    exact Or.inl rfl
  · split at h
    · split at h
      · cases h
        exact Or.inr rfl
      · cases h
    · cases h

lemma readScalar_error (h : readScalar cs = .error cause) : IsTextFailure cause := by
  unfold readScalar at h
  dsimp only at h
  split at h
  · cases h
  · exact readNumber_error h

/-- A value, the elements of a list, and the members of an object fail alike. -/
lemma read_error (fuel : Nat) :
    (∀ cs cause, readValue fuel cs = .error cause → IsTextFailure cause) ∧
      (∀ cs cause, readItems fuel cs = .error cause → IsTextFailure cause) ∧
      ∀ cs cause, readMembers fuel cs = .error cause → IsTextFailure cause := by
  induction fuel with
  | zero =>
      have hform : ∀ (α : Type) (cause : Cause),
          (.error .malformedJson : Except Cause α) = .error cause → IsTextFailure cause := by
        rintro α cause ⟨⟩
        exact Or.inl rfl
      exact ⟨fun _ => hform _, fun _ => hform _, fun _ => hform _⟩
  | succ fuel ih =>
      obtain ⟨hvalue, hitems, hmembers⟩ := ih
      refine ⟨fun cs cause h => ?_, fun cs cause h => ?_, fun cs cause h => ?_⟩
      · unfold readValue at h
        split at h
        · split at h <;> cases h
          exact Or.inl rfl
        · split at h
          · cases h
          · rcases bind_eq_error.1 h with h | ⟨_, -, h⟩
            · exact hitems _ _ h
            · cases h
        · split at h
          · cases h
          · rcases bind_eq_error.1 h with h | ⟨_, -, h⟩
            · exact hmembers _ _ h
            · cases h
        · exact readScalar_error h
      · unfold readItems at h
        rcases bind_eq_error.1 h with h | ⟨⟨v, rest⟩, -, h⟩
        · exact hvalue _ _ h
        · dsimp only at h
          split at h
          · rcases bind_eq_error.1 h with h | ⟨_, -, h⟩
            · exact hitems _ _ h
            · cases h
          · cases h
          · cases h
            exact Or.inl rfl
      · unfold readMembers at h
        split at h
        · split at h
          · cases h
            exact Or.inl rfl
          · split at h
            · rcases bind_eq_error.1 h with h | ⟨⟨v, rest⟩, -, h⟩
              · exact hvalue _ _ h
              · dsimp only at h
                split at h
                · rcases bind_eq_error.1 h with h | ⟨_, -, h⟩
                  · exact hmembers _ _ h
                  · cases h
                · cases h
                · cases h
                  exact Or.inl rfl
            · cases h
              exact Or.inl rfl
        · cases h
          exact Or.inl rfl

/-- **A text that is no JSON.** -/
theorem ofChars_error (h : ofChars cs = .error cause) : IsTextFailure cause := by
  unfold ofChars at h
  split at h
  · next hread =>
    cases h
    exact (read_error _).1 _ _ hread
  · split at h
    · cases h
    · cases h
      exact Or.inl rfl

end Json

/-! ## Making ready -/

section Ready

variable {s : Session MemoryStore} {path : Path} {bytes : List UInt8}

lemma readGraph_of_malformed (h : s.files.Holds path bytes) (htext : Utf8.text? bytes = none) :
    MemoryStore.readGraph s.files path = .error .malformedBytes := by
  rw [MemoryStore.readGraph, h.readBytes, ok_bind, htext]

lemma readGraph_of_text (h : s.files.Holds path bytes) {cs : List Char}
    (htext : Utf8.text? bytes = some cs) :
    MemoryStore.readGraph s.files path = Json.ofChars cs >>= Graph.ofJson := by
  rw [MemoryStore.readGraph, h.readBytes, ok_bind, htext]

variable (hpath : s.store.snapshot = some path) (h : s.files.Holds path bytes)
include hpath h

/-- A snapshot that is there is read. -/
lemma load_of_holds : s.store.load s.files =
    ((MemoryStore.readGraph s.files path).map fun graph => { s.store with graph }).mapError
      (MemoryStore.snapshotFailure path) := by
  simp only [MemoryStore.load, hpath, if_pos h.has]
  cases MemoryStore.readGraph s.files path <;> rfl

/-- **The store gets the graph of its snapshot.** -/
lemma verify_of_graph {graph : Graph} (hread : MemoryStore.readGraph s.files path = .ok graph) :
    ∃ log, memoryStore.verify s
      = (.ok (), ⟨{ s.store with graph }, s.files, s.log ++ [log]⟩) := by
  have hverify : memoryStore.verify = MemoryStore.open := rfl
  rw [hverify, MemoryStore.open, Action.getStore_bind, Action.getFiles_bind, load_of_holds hpath h,
    hread]
  simp only [hpath, if_pos h.has]
  exact ⟨_, rfl⟩

/-- **The store stays as it is**, if its snapshot cannot be used. -/
lemma verify_of_failure {cause : Cause}
    (hread : MemoryStore.readGraph s.files path = .error cause) :
    memoryStore.verify s = (.error (MemoryStore.snapshotFailure path cause), s) := by
  have hverify : memoryStore.verify = MemoryStore.open := rfl
  rw [hverify, MemoryStore.open, Action.getStore_bind, Action.getFiles_bind, load_of_holds hpath h,
    hread]
  rfl

lemma verify_of_own {cause : Cause} (hread : MemoryStore.readGraph s.files path = .error cause)
    (hown : cause.isForeign = false) :
    memoryStore.verify s = (.error (.connection (.snapshot path.text cause)), s) := by
  rw [verify_of_failure hpath h hread, snapshotFailure_eq, if_neg (Bool.eq_false_iff.1 hown)]

lemma verify_of_foreign {cause : Cause}
    (hread : MemoryStore.readGraph s.files path = .error cause)
    (hforeign : cause.isForeign = true) : memoryStore.verify s = (.error (.plain cause), s) := by
  rw [verify_of_failure hpath h hread, snapshotFailure_eq, if_pos hforeign]

omit hpath h in
/-- **What comes of a snapshot**, whatever its content is.  The store gets the graph of it, or stays
as it is.  Bytes that are no text, texts that are no JSON, and values that have the form of a graph
and lack something are failures of the store.  A value of another form is never used either; but
what is raised is no failure of the store, unless the value lacks something as well.

The texts of the value hold whole characters: what an escape writes as half of a surrogate pair
counts as the replacement character. -/
theorem verify_snapshot (hpath : s.store.snapshot = some path) (h : s.files.Holds path bytes) :
    let out := memoryStore.verify s
    let failed (cause : Cause) : Except Error Unit × Session MemoryStore :=
      (.error (.connection (.snapshot path.text cause)), s)
    (Utf8.text? bytes = none → out = failed .malformedBytes) ∧
      (∀ cs cause, Utf8.text? bytes = some cs → Json.ofChars cs = .error cause →
        out = failed cause) ∧
      ∀ cs v, Utf8.text? bytes = some cs → Json.ofChars cs = .ok v →
        (Graph.fits v = true → Graph.isComplete v = true →
          ∃ graph log, Graph.ofJson v = .ok graph ∧
          out = (.ok (), ⟨{ s.store with graph }, s.files, s.log ++ [log]⟩)) ∧
        (Graph.fits v = true → Graph.isComplete v = false → ∃ cause, out = failed cause) ∧
        (Graph.fits v = false →
          ∃ cause, out = (.error (.plain cause), s) ∧ cause.isForeign = true ∨
          out = failed cause ∧ Graph.isComplete v = false) := by
  intro out failed
  refine ⟨fun htext => ?_, fun cs cause htext hjson => ?_, fun cs v htext hjson => ?_⟩
  · exact verify_of_own hpath h (readGraph_of_malformed h htext) rfl
  · have hread : MemoryStore.readGraph s.files path = .error cause := by
      rw [readGraph_of_text h htext, hjson, error_bind]
    refine verify_of_own hpath h hread ?_
    rcases Json.ofChars_error hjson with rfl | rfl <;> rfl
  · have hread : MemoryStore.readGraph s.files path = Graph.ofJson v := by
      rw [readGraph_of_text h htext, hjson, ok_bind]
    have hjudged := Graph.judged_ofJson v
    cases hgraph : Graph.ofJson v with
    | ok graph =>
        rw [hgraph] at hjudged hread
        rw [hjudged.1, hjudged.2]
        obtain ⟨log, hout⟩ := verify_of_graph hpath h hread
        exact ⟨fun _ _ => ⟨graph, log, rfl, hout⟩, fun _ h => absurd h nofun,
          fun h => absurd h nofun⟩
    | error cause =>
        rw [hgraph] at hjudged hread
        cases hcause : cause.isForeign with
        | true =>
            rw [Judged, if_pos hcause] at hjudged
            rw [hjudged]
            exact ⟨fun h => absurd h nofun, fun h => absurd h nofun,
              fun _ => ⟨cause, Or.inl ⟨verify_of_foreign hpath h hread hcause, hcause⟩⟩⟩
        | false =>
            rw [Judged, if_neg (Bool.eq_false_iff.1 hcause)] at hjudged
            rw [hjudged]
            have hout := verify_of_own hpath h hread hcause
            exact ⟨fun _ h => absurd h nofun, fun _ _ => ⟨cause, hout⟩,
              fun _ => ⟨cause, Or.inr ⟨hout, rfl⟩⟩⟩

end Ready

/-- A new store whose snapshot has some content. -/
def restoredSession (content : String) : Session MemoryStore :=
  let path : Path := ⟨"", ["g.json"]⟩
  ⟨.new (some path), { entries := [(["g.json"], .file (.bytes content.toUTF8.toList))] }, []⟩

lemma holds_restoredSession (content : String) :
    (restoredSession content).files.Holds ⟨"", ["g.json"]⟩ content.toUTF8.toList :=
  ⟨["g.json"], rfl, rfl⟩

/-- A graph with one node and no edges. -/
def townText : String := "\x7b\"nodes\": [\x7b\"id\": \"town\"\x7d], \"edges\": []\x7d"

/-- The town is found behind the snapshot. -/
theorem verify_snapshot_town :
    let s := restoredSession townText
    ∃ graph log, s.store.snapshot = some ⟨"", ["g.json"]⟩ ∧
      memoryStore.verify s = (.ok (), ⟨{ s.store with graph }, s.files, s.log ++ [log]⟩) ∧
      graph.hasNode (.text "town") = true := by
  intro s
  have hcheck : (Json.ofChars townText.toList).toOption.map (fun v => (Graph.fits v,
      Graph.isComplete v, (Graph.ofJson v).toOption.map fun g => g.hasNode (.text "town")))
        = some (true, true, some true) := by decide +kernel
  obtain ⟨v, hv, hcheck⟩ := Option.map_eq_some_iff.1 hcheck
  obtain ⟨hfits, hcomplete, hnode⟩ := by simpa only [Prod.mk.injEq] using hcheck
  have hvalue := (verify_snapshot rfl (holds_restoredSession townText)).2.2 _ v
    (Utf8.text?_toUTF8 townText) (ok_of_toOption hv)
  obtain ⟨graph, log, hgraph, hout⟩ := hvalue.1 hfits hcomplete
  refine ⟨graph, log, rfl, hout, ?_⟩
  rw [hgraph] at hnode
  exact Option.some.inj hnode

/-- **A list is no graph**, and the store does not say so: what is raised is no failure of the
store. -/
theorem verify_snapshot_list :
    ¬ ∀ (s : Session MemoryStore) (path : Path) (bytes : List UInt8),
      s.store.snapshot = some path → s.files.Holds path bytes →
      (∃ graph, MemoryStore.readGraph s.files path = .ok graph ∧
        (memoryStore.verify s).1 = .ok () ∧
          (memoryStore.verify s).2.store = { s.store with graph }) ∨
        (∃ problem, (memoryStore.verify s).1 = .error (.connection problem)) ∧
          (memoryStore.verify s).2.store = s.store := by
  intro hclaim
  have hout : (memoryStore.verify (restoredSession "[]")).1 = .error (.plain .otherKind) := by
    decide +kernel
  rcases hclaim _ _ _ rfl (holds_restoredSession "[]") with
    ⟨graph, -, hok, -⟩ | ⟨⟨problem, herror⟩, -⟩
  · rw [hout] at hok
    cases hok
  · rw [hout] at herror
    cases herror

end Crosswalk
