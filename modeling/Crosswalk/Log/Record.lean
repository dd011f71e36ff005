import Crosswalk.Json.Value
import Crosswalk.Log.Moment
import Crosswalk.Log.Traced
import Crosswalk.Release

/-!
# Records of the log

An entry of the log becomes a record when it is known in which run of the program it was noted.  A
record is written as a line of text or as a JSON object.

* `LogContext` — what is going on while a record is made.
* `LogRecord` — **an entry with its context**, and the failure that it is about.
* `LogFormat` — **the ways to write a record.**
* `LogFormat.lineOf` — a record as it is written.
-/

namespace Crosswalk

/-- **What is going on**: the run of the program, its phase, and the node that is evaluated. -/
structure LogContext where
  run : Option String := none
  phase : Option String := none
  node : Option String := none
  deriving DecidableEq, Repr

/-- What is known of a context, by names. -/
def LogContext.known (c : LogContext) : List (String × String) :=
  [("run_id", c.run), ("phase", c.phase), ("node", c.node)].filterMap fun (name, v) =>
    v.map fun s => (name, s)

/-- **An entry with its context.** -/
structure LogRecord where
  severity : Severity
  /-- The part of the program that speaks. -/
  source : String
  message : String
  context : LogContext := {}
  /-- The failure that the record is about, in words. -/
  failure : Option String := none
  deriving DecidableEq, Repr

/-- An entry that was noted in a phase of a run. -/
def LogEntry.toRecord (run phase : String) (e : LogEntry) : LogRecord :=
  { e with context := ⟨some run, some phase, e.node⟩ }

/-- The full name of a part of the program. -/
def fullName (source : String) : String := programName ++ "." ++ source

/-! ## Writing -/

/-- **How records are written.** -/
inductive LogFormat where
  /-- By their messages alone. -/
  | bare
  /-- As lines of text. -/
  | text
  /-- As JSON objects. -/
  | json
  deriving DecidableEq, Repr

/-- A text with blanks behind it, up to a number of characters. -/
def padded (width : Nat) (s : String) : String :=
  s ++ String.ofList (List.replicate (width - s.length) ' ')

/-- A part of a line, unless there is nothing in it. -/
def enclosed (opening closing : String) : Option String → String
  | none | some "" => ""
  | some s => " " ++ opening ++ s ++ closing

namespace LogRecord

/-- A text with the failure of a record below it. -/
def withFailure (r : LogRecord) (line : String) : String :=
  match r.failure with
  | some f => line ++ "\n" ++ f
  | none => line

/-- A record as a line of text. -/
def textLine (now : Moment) (r : LogRecord) : String :=
  now.text ++ " [" ++ padded 8 r.severity.name ++ "] " ++ fullName r.source ++
    enclosed "[" "]" r.context.phase ++ enclosed "(" ")" r.context.node ++ " - " ++ r.message

/-- A record as a JSON object. -/
def toJson (now : Moment) (r : LogRecord) : Json :=
  let known := r.context.known.map fun (name, s) => (name, Json.text s)
  .object ([("timestamp", .text now.preciseText), ("level", .text r.severity.name),
      ("logger", .text (fullName r.source)), ("message", .text r.message)] ++
    (if known.isEmpty then [] else [("context", .object known)]) ++
    (match r.failure with
      | some f => [("exception", .text f)]
      | none => []))

end LogRecord

/-- **A record as it is written**, without a line end behind it. -/
def LogFormat.lineOf (format : LogFormat) (now : Moment) (r : LogRecord) : String :=
  match format with
  | bare => r.withFailure r.message
  | text => r.withFailure (r.textLine now)
  | json => (r.toJson now).compact

end Crosswalk
