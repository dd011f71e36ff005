import Crosswalk.Files
import Crosswalk.Log.Traced
import Crosswalk.Mapping.Record
import Crosswalk.Xml.Document

/-!
# Mapping documents

A mapping document is a list of edges.  Below the root, which may have any name, only the tags of
edges and of their fields may stand, and text may stand only where a field has its value.

A document is read while it goes on, so the records in front of a failure are delivered.

* `Field` — **the fields of an edge.**
* `Reader` — how far a document has been read.
* `Reader.step` — **one more step of the walk through a document**: it may complete a record.
* `Delivery` — the records of a document, and the failure that ended it, if there was one.
* `MappingDocument.read` — **the records of a mapping document in a file.**
-/

namespace Crosswalk.MappingDocument

/-! ## Fields -/

/-- **The fields of an edge.** -/
inductive Field where
  | headName
  | headDescription
  | tailName
  | tailDescription
  | datasource
  | query
  | key
  | value
  deriving DecidableEq, Repr

/-- The name of a field in messages. -/
def Field.name : Field → String
  | headName => "headnode.name"
  | headDescription => "headnode.description"
  | tailName => "tailnode.name"
  | tailDescription => "tailnode.description"
  | datasource => "datasource"
  | query => "query"
  | key => "key"
  | value => "value"

/-- The fields that every edge must have. -/
def Field.required : List Field := [headName, tailName, datasource, key, value]

/-- The tags that may stand inside of a tag. -/
def tagsInside (tag : String) : List String :=
  match tag with
  | "edge" => ["headnode", "tailnode", "datasource", "query", "key", "value"]
  | "headnode" | "tailnode" => ["name", "description"]
  | "datasource" => ["name"]
  | "query" => ["string"]
  | "key" | "value" => ["position"]
  | _ => []

/-- **The field whose value stands in a tag inside of another.** -/
def fieldAt (around tag : String) : Option Field :=
  match around, tag with
  | "headnode", "name" => some .headName
  | "headnode", "description" => some .headDescription
  | "tailnode", "name" => some .tailName
  | "tailnode", "description" => some .tailDescription
  | "datasource", "name" | "edge", "datasource" => some .datasource
  | "query", "string" | "edge", "query" => some .query
  | "key", "position" | "edge", "key" => some .key
  | "value", "position" | "edge", "value" => some .value
  | _, _ => none

/-- Values of fields; no field has two. -/
abbrev Fields := List (Field × String)

/-- **The record of an edge**, if it has all fields that it must have. -/
def recordOf (place : String) (fields : Fields) : Except Error MappingRecord :=
  let get (f : Field) : String := (fields.lookup f).getD ""
  match Field.required.filter fun f => (get f).isEmpty with
  | [] =>
    .ok ⟨⟨get .datasource, get .query, get .key, get .value⟩,
      ⟨get .headName, get .headDescription, false⟩,
      ⟨get .tailName, get .tailDescription, false⟩⟩
  | missing => .error (.parse (.missingFields (missing.map Field.name)) (some place))

/-! ## Reading -/

/-- An element that is open: its tag, and its text in front of anything else inside. -/
structure OpenTag where
  tag : String
  text : String := ""
  /-- Nothing but text has come inside. -/
  isPlain : Bool := true

/-- **How far a document has been read.** -/
structure Reader where
  /-- The elements that are open, innermost first. -/
  opened : List OpenTag := []
  /-- The fields of the edge that is open. -/
  fields : Option Fields := none
  /-- How many edges have been started. -/
  edges : Nat := 0

namespace Reader

/-- The tags of the open elements from the root on, and one more. -/
def trail (r : Reader) (tag : String) : String :=
  "/".intercalate ((r.opened.map OpenTag.tag).reverse ++ [tag])

/-- Whether a tag may start here. -/
def allows (r : Reader) (tag : String) : Bool :=
  match r.opened with
  | [] => true
  | [_] => tag == "edge"
  | o :: _ => (tagsInside o.tag).contains tag

/-- The innermost element changed. -/
def inside (r : Reader) (f : OpenTag → OpenTag) : Reader :=
  match r.opened with
  | [] => r
  | o :: os => { r with opened := f o :: os }

/-- The place of the edge that was started last. -/
def place (r : Reader) (path : String) : String :=
  path ++ ":edge[" ++ toString (r.edges - 1) ++ "]"

/-- The start of an element.  A tag whose prefix is not declared is no name. -/
def start (path : String) (r : Reader) (tag : String) : Except Error Reader :=
  if tag.toList.contains ':' then .error (.plain (.fault .wrongValue))
  else if !r.allows tag then
    .error (.parse (.unexpectedTag tag) (some (path ++ ":" ++ r.trail tag)))
  else
    let r := r.inside fun o => { o with isPlain := false }
    if r.opened.length = 1 then
      .ok { opened := ⟨tag, "", true⟩ :: r.opened, fields := some [], edges := r.edges + 1 }
    else .ok { r with opened := ⟨tag, "", true⟩ :: r.opened }

/-- The value of a field that an element ends with. -/
def setField (path : String) (r : Reader) (tag text : String) : Except Error Reader :=
  let field := r.opened.head?.bind fun o => fieldAt o.tag tag
  match field, r.fields with
  | some f, some fields =>
    if (fields.lookup f).isSome then .error (.schema (.fieldTwice f.name (r.place path)))
    else .ok { r with fields := some (fields ++ [(f, text)]) }
  | _, _ => .error (.parse (.unexpectedText text) (some (path ++ ":" ++ r.trail tag)))

/-- The end of an element, which completes a record if it is that of an edge. -/
def stop (path : String) (r : Reader) : Except Error (Reader × Option MappingRecord) :=
  match r.opened with
  | [] => .ok (r, none)
  | o :: others => do
    let r := { r with opened := others }
    let text := trim o.text
    if others.length = 1 then
      if text.isEmpty then do
        let record ← recordOf (r.place path) (r.fields.getD [])
        .ok ({ r with fields := none }, some record)
      else .error (.parse (.unexpectedText text) (some (r.place path)))
    else if text.isEmpty then .ok (r, none)
    else do .ok (← r.setField path o.tag text, none)

/-- **One more step of the walk through a document.** -/
def step (path : String) (r : Reader) : Xml.Event → Except Error (Reader × Option MappingRecord)
  | .start tag _ => (r.start path tag).map fun r => (r, none)
  | .text s => .ok (r.inside fun o => if o.isPlain then { o with text := o.text ++ s } else o, none)
  | .reference _ => .ok (r.inside fun o => { o with isPlain := false }, none)
  | .stop => r.stop path

end Reader

/-- **The records of a document**, and the failure that ended it, if there was one. -/
structure Delivery where
  records : List MappingRecord
  failure : Option Error

/-- Records all of which are good. -/
def Delivery.ofList (records : List MappingRecord) : Delivery := ⟨records, none⟩

/-- The records of a walk, and the failure at its end. -/
def deliver (path : String) (ending : Option Error) : Reader → List Xml.Event → Delivery
  | _, [] => ⟨[], ending⟩
  | r, e :: es =>
    match r.step path e with
    | .error failure => ⟨[], some failure⟩
    | .ok (r, none) => deliver path ending r es
    | .ok (r, some record) =>
      let d := deliver path ending r es
      { d with records := record :: d.records }

/-- **The records of the bytes of a document.** -/
def ofBytes (path : String) (bytes : List UInt8) : Delivery :=
  let reading := Xml.Reading.ofBytes .keep bytes
  let ending := if reading.isSound then none else some (.parse .malformedStream (some path))
  deliver path ending {} reading.events

/-- **The records of a mapping document in a file.** -/
def read (files : Files) (path : Path) : Delivery :=
  match files.readBytes path with
  | .ok bytes => ofBytes path.text bytes
  | .error cause => ⟨[], some (.source (.unreadableFile path.text cause) none)⟩

end Crosswalk.MappingDocument
