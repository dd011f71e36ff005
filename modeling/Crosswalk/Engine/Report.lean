import Crosswalk.Engine.Evaluate
import Crosswalk.Json.Value

/-!
# Writing reports

* `OutputMode` — the ways to write a report.
* `reportText` — **the text of a report.**
-/

namespace Crosswalk

/-- **How a report is written.** -/
inductive OutputMode where
  /-- Not at all. -/
  | none
  /-- One line for every node. -/
  | text
  /-- A JSON list. -/
  | json
  deriving DecidableEq, Repr

namespace OutputMode

/-- The name of a mode. -/
def name : OutputMode → String
  | none => "none"
  | text => "text"
  | json => "json"

/-- The modes. -/
def all : List OutputMode := [none, text, json]

/-- The mode with a name. -/
def ofName (s : String) : Except Error OutputMode :=
  match all.find? fun m => m.name = s with
  | some m => .ok m
  | Option.none => .error (.unknownOutputMode s)

end OutputMode

namespace OutputRecord

/-- The line of a record. -/
def line (r : OutputRecord) : String :=
  r.label ++ " (" ++ r.name ++ "): " ++ ", ".intercalate r.values ++ "\n"

/-- The value of a record. -/
def toJson (r : OutputRecord) : Json :=
  .object [("label", .text r.label), ("name", .text r.name), ("values", .list (r.values.map .text))]

end OutputRecord

/-- **The text of a report.** -/
def reportText (mode : OutputMode) (records : List OutputRecord) : String :=
  match mode with
  | .none => ""
  | .text => String.join (records.map OutputRecord.line)
  | .json => (Json.list (records.map OutputRecord.toJson)).indented ++ "\n"

end Crosswalk
