import Crosswalk.Log.Traced
import Crosswalk.Source.Basic
import Crosswalk.Text.Split
import Crosswalk.Xml.File

/-!
# Catalogs

A catalog is a document that describes sources.  Every source has a name of its own.

* `Catalog` — **sources in the order in which they are described.**
* `Source.ofElement` — a source from its element.
* `Catalog.ofRoot` — **a catalog from its root**; paths are seen from the directory of the
  catalog.
* `Catalog.load` — a catalog from a file.
-/

namespace Crosswalk

/-- **A catalog.** -/
structure Catalog where
  sources : List Source
  deriving DecidableEq, Repr

namespace Catalog

/-- The source with a name. -/
def find? (c : Catalog) (name : String) : Option Source := c.sources.find? fun s => s.name = name

/-- The names of the sources in order. -/
def names (c : Catalog) : List String := sortTexts (c.sources.map Source.name)

end Catalog

namespace Source

/-- The text of a field that has to be there. -/
def fieldText (n : Xml.Node) (place field : String) : Except Error String := do
  match ← Xml.childText n field with
  | some s => .ok s
  | none => .error (.parse (.missingField field) (some place))

/-- **The delimiter of a delimited file**: a single character, a blank one as well, or `\t` for a
tab. -/
def delimiterText (n : Xml.Node) (place : String) : Except Error String := do
  match ← Xml.rawChildText n "delimiter" with
  | none => .error (.parse (.missingField "delimiter") (some place))
  | some raw =>
    if trim raw = "\\t" then .ok "\t"
    else
      let text := if raw.length = 1 then raw else trim raw
      if text.length = 1 then .ok text
      else .error (.parse (.unusableDelimiter text) (some place))

/-- Whether a field says that there are headings. -/
def saysYes (s : String) : Bool := lowerText s ∈ ["yes", "true", "y", "1"]

/-- The fields of a kind of sources behind its number and its name, in the order in which they are
looked for. -/
def fieldsOfKind (kind : String) : List String :=
  match kind with
  | "csv" => ["filename", "path", "delimiter", "headings"]
  | "xml" => ["filename", "path"]
  | "excel" => ["filename", "path", "sheet", "headings"]
  | _ => ["system", "connection", "username", "password", "database"]

/-- The value of a field of an element. -/
def fieldValue (n : Xml.Node) (place field : String) : Except Error (String × Json) := do
  match field with
  | "delimiter" => .ok ("delimiter", .text (← delimiterText n place))
  | "headings" => .ok ("has_headers", .bool (saysYes (← fieldText n place field)))
  | _ => .ok (field, .text (← fieldText n place field))

/-- A path as seen from a directory.  A path that leads elsewhere stays as it is written, a tilde
in front of it as well. -/
def pathSeenFrom (fs : Files) (directory : Path) (s : String) : Except Cause String := do
  let p ← fs.expanded (.ofText s)
  .ok (if p.isAbsolute then s else (directory.join p).text)

/-- A field of a source with its value, which is seen from a directory if it is a path. -/
def fieldSeenFrom (fs : Files) (directory : Path) : String × Json → Except Cause (String × Json)
  | ("path", .text s) => do .ok ("path", .text (← pathSeenFrom fs directory s))
  | field => .ok field

/-- The fields of a source with its path as seen from a directory. -/
def seenFrom (fs : Files) (directory : Path) (fields : List (String × Json)) :
    Except Cause (List (String × Json)) := fields.mapM (fieldSeenFrom fs directory)

/-- **A source from its element**, with its path seen from a directory. -/
def ofElement (fs : Files) (n : Xml.Node) (place : String) (directory : Path) :
    Except Error Source := do
  let kind := lowerText (trim ((n.attribute? "type").getD ""))
  if kind ∉ kinds then .error (.parse (.unknownSourceType kind kinds) (some place))
  else do
    let fields ← (["id", "name"] ++ fieldsOfKind kind).mapM (fieldValue n place)
    let fields ← (seenFrom fs directory fields).mapError .plain
    match ofFields kind fun field => fields.lookup field with
    | some (.ok s) => .ok s
    | some (.error ps) => .error (.parse (.invalidSource kind ps) (some place))
    | none => .error (.parse (.unknownSourceType kind kinds) (some place))

end Source

namespace Catalog

/-- The sources among the children of the root, behind those that are read already. -/
def readSources (fs : Files) (path : Path) (seen : List Source) :
    List Xml.Node → Traced (List Source)
  | [] => return seen
  | n :: ns =>
    if n.isChild then do
      if (← Traced.of n.tag) = "datasource" then do
        let place := path.text ++ ":datasource[" ++ toString seen.length ++ "]"
        let s ← Traced.of (Source.ofElement fs n place path.parent)
        if seen.any (·.name = s.name) then
          Traced.of (.error (.schema (.duplicateSource s.name path.text)))
        else do
          Traced.note .debug "datasources.catalog"
            ("Collecting " ++ s.kind.map Char.toUpper ++ " datasource: " ++ s.name)
          readSources fs path (seen ++ [s]) ns
      else readSources fs path seen ns
    else readSources fs path seen ns

/-- **A catalog from its root**, the document of a path. -/
def ofRoot (fs : Files) (root : Xml.Node) (path : Path) : Traced Catalog := do
  let sources ← readSources fs path [] root.children
  Traced.note .debug "datasources.catalog"
    ("Built collection of " ++ toString sources.length ++ " datasources")
  return ⟨sources⟩

/-- **A catalog from a file.** -/
def load (fs : Files) (path : Path) : Traced Catalog := do
  Traced.note .info "datasources.catalog" ("Loading datasources from " ++ path.text)
  ofRoot fs (← Traced.of (Xml.readDocument fs path)) path

end Catalog

end Crosswalk
