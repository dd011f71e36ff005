import Crosswalk.Files
import Crosswalk.Given

/-!
# Sources

A source is something that holds pairs of texts: a delimited file, a document, a worksheet, or a
relational database, which can be described but not read.

* `FileSource`, `Database` — what file sources and databases are described by.
* `FileSource.location`, `FileSource.opened` — where the file of a source is, and the bytes in it.
* `Source` — **a source.**
* `Source.ofFields` — **a source from the values of its fields**, or all that is wrong with them.
-/

namespace Crosswalk

/-- The description of a source in a file. -/
structure FileSource where
  /-- A number between 0 and 255. -/
  id : Int
  name : String
  filename : String
  /-- The directory of the file. -/
  path : String
  deriving DecidableEq, Repr

/-- **Where the file of a source is**; its directory may be that of a user. -/
def FileSource.location (fs : Files) (f : FileSource) : Except Cause Path := do
  .ok ((← fs.expanded (.ofText f.path)).join (.ofText f.filename))

/-- **Where the file of a source is, and the bytes in it.** -/
def FileSource.opened (fs : Files) (f : FileSource) : Except Error (Path × List UInt8) := do
  let place ← (f.location fs).mapError .plain
  match fs.readBytes place with
  | .ok bytes => .ok (place, bytes)
  | .error cause => .error (.source (.unopened place.text cause) (some f.name))

/-- The description of a relational database. -/
structure Database where
  /-- A number between 0 and 255. -/
  id : Int
  name : String
  system : String
  connection : String
  username : String
  password : String
  database : String
  deriving DecidableEq, Repr

/-- **A source.** -/
inductive Source where
  /-- A delimited file. -/
  | csv (file : FileSource) (delimiter : Char) (hasHeadings : Bool)
  /-- A document whose leaves are pairs of a tag and a text. -/
  | xml (file : FileSource)
  /-- A worksheet of a workbook. -/
  | excel (file : FileSource) (sheet : String) (hasHeadings : Bool)
  /-- A relational database. -/
  | db (database : Database)
  deriving DecidableEq, Repr

namespace Source

open Given (field fieldOr collect)

/-- The kinds of sources. -/
def kinds : List String := ["csv", "xml", "excel", "db"]

/-- The kind of a source. -/
def kind : Source → String
  | csv _ _ _ => "csv"
  | xml _ => "xml"
  | excel _ _ _ => "excel"
  | db _ => "db"

/-- The name of a source. -/
def name : Source → String
  | csv f _ _ | xml f | excel f _ _ => f.name
  | db d => d.name

/-! ## From the values of fields -/

/-- The least and the greatest number of a source. -/
def idBounds : Int × Int := (0, 255)

/-- **A source from the values of its fields**, or all that is wrong with them. -/
def ofFields (kind : String) (given : String → Option Json) :
    Option (Except (List FieldProblem) Source) :=
  let id := field given "id" fun n => Given.wholeWithin n idBounds.1 idBounds.2
  let name := field given "name" Given.text
  let filename := field given "filename" Given.text
  let path := field given "path" Given.text
  let file : Checked FileSource := do .ok ⟨← id, ← name, ← filename, ← path⟩
  let fileProblems := id.problems ++ name.problems ++ filename.problems ++ path.problems
  match kind with
  | "csv" =>
    let delimiter := fieldOr given "delimiter" Given.character ','
    let headings := fieldOr given "has_headers" Given.truth false
    some (collect (fileProblems ++ delimiter.problems ++ headings.problems)
      (do .ok (csv (← file) (← delimiter) (← headings))))
  | "xml" => some (collect fileProblems (do .ok (xml (← file))))
  | "excel" =>
    let sheet := field given "sheet" Given.text
    let headings := fieldOr given "has_headers" Given.truth false
    some (collect (fileProblems ++ sheet.problems ++ headings.problems)
      (do .ok (excel (← file) (← sheet) (← headings))))
  | "db" =>
    let texts := ["system", "connection", "username", "password", "database"]
    let value (n : String) := field given n Given.text
    some (collect (id.problems ++ name.problems ++ texts.flatMap fun n => (value n).problems)
      (do .ok (db ⟨← id, ← name, ← value "system", ← value "connection",
        ← value "username", ← value "password", ← value "database"⟩)))
  | _ => none

end Source

end Crosswalk
