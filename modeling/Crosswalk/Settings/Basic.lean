import Crosswalk.Engine.Evaluate
import Crosswalk.Given
import Crosswalk.Log.Output
import Crosswalk.Mapping.Memory
import Crosswalk.Mapping.Service
import Crosswalk.Settings.Assignments

/-!
# Settings

A setting is given by the caller, by the environment, or by a file of assignments, and otherwise it
has its usual value.  The first of these that gives it decides.

* `StoreKind` — the kinds of stores.
* `Settings` — **the settings.**
* `Settings.ofGiven` — settings from given values, or all that is wrong with them.
* `Settings.contradictions` — how settings contradict each other.
* `Settings.load` — **the settings of a run.**
-/

namespace Crosswalk

/-- **The kinds of stores.** -/
inductive StoreKind where
  /-- A graph service. -/
  | service
  | memory
  deriving DecidableEq, Repr

namespace StoreKind

/-- The name of a kind. -/
def name : StoreKind → String
  | service => "neo4j"
  | memory => "memory"

/-- The kinds. -/
def all : List StoreKind := [service, memory]

/-- **The kind with a name.** -/
def ofName (s : String) : Except Error StoreKind :=
  match all.find? fun k => k.name = s with
  | some k => .ok k
  | none => .error (.unsupportedStore s)

end StoreKind

/-- **The settings.** -/
structure Settings where
  store : StoreKind := .service
  /-- Where the service is, if the store is one. -/
  endpoint : Endpoint := {}
  /-- The file that a store in memory is kept in. -/
  snapshot : Option Path := none
  logLevel : Severity := .error
  logFormat : LogFormat := .text
  logFile : Option Path := none
  logMaxBytes : Int := 10 * 1024 * 1024
  logBackupCount : Int := 5
  evaluationMode : EvaluationMode := .sequential
  maxTreeDepth : Int := 10000
  deriving DecidableEq, Repr

/-! ## Reading -/

/-- One of some values, by its name. -/
def Given.named {α : Type} (values : List (String × α)) (field : String) (j : Json) :
    Checked α := do
  let name ← choice field (values.map Prod.fst) j
  match values.lookup name with
  | some a => .ok a
  | none => .error (.notAmong field (values.map Prod.fst))

/-- A path that may be left out. -/
def Given.file (field : String) (j : Json) : Checked (Option Path) := do
  .ok (some (.ofText (← path field j)))

/-- A whole number that is at least one. -/
def Given.depth (field : String) (j : Json) : Checked Int := do
  let i ← whole field j
  if i < 1 then .error (.depth field) else .ok i

namespace Settings

/-- The levels that a log can be set to. -/
def levels : List (String × Severity) :=
  [Severity.trace, .debug, .info, .warning, .error].map fun s => (s.name, s)

/-- The fields that settings are given by. -/
def fields : List String :=
  ["graph_db_type", "graph_db_uri", "graph_db_user", "graph_db_password", "graph_db_database",
   "graph_db_snapshot", "log_level", "log_format", "log_file", "log_max_bytes", "log_backup_count",
   "evaluation_mode", "max_tree_depth"]

/-- **Settings from given values**, or all that is wrong with them. -/
def ofGiven (given : String → Option Json) : Except (List FieldProblem) Settings :=
  let usual : Settings := {}
  let kinds := StoreKind.all.map fun k => (k.name, k)
  let modes := EvaluationMode.all.map fun m => (m.name, m)
  let store := Given.fieldOr given "graph_db_type" (Given.named kinds) usual.store
  let address := Given.fieldOr given "graph_db_uri" Given.text usual.endpoint.address
  let user := Given.fieldOr given "graph_db_user" Given.text usual.endpoint.user
  let password := Given.fieldOr given "graph_db_password" Given.text usual.endpoint.password
  let database := Given.fieldOr given "graph_db_database" Given.text usual.endpoint.database
  let snapshot := Given.fieldOr given "graph_db_snapshot" Given.file usual.snapshot
  let level := Given.fieldOr given "log_level" (Given.named levels) usual.logLevel
  let format := Given.fieldOr given "log_format"
    (Given.named [("json", LogFormat.json), ("text", .text)]) usual.logFormat
  let file := Given.fieldOr given "log_file" Given.file usual.logFile
  let maxBytes := Given.fieldOr given "log_max_bytes" Given.whole usual.logMaxBytes
  let backups := Given.fieldOr given "log_backup_count" Given.whole usual.logBackupCount
  let mode := Given.fieldOr given "evaluation_mode" (Given.named modes) usual.evaluationMode
  let depth := Given.fieldOr given "max_tree_depth" Given.depth usual.maxTreeDepth
  let problems := Checked.problems store ++ Checked.problems address ++ Checked.problems user ++
    Checked.problems password ++ Checked.problems database ++ Checked.problems snapshot ++
    Checked.problems level ++ Checked.problems format ++ Checked.problems file ++
    Checked.problems maxBytes ++ Checked.problems backups ++ Checked.problems mode ++
    Checked.problems depth
  Given.collect problems
    (do .ok ⟨← store, ⟨← address, ← user, ← password, ← database⟩, ← snapshot,
      ← level, ← format, ← file, ← maxBytes, ← backups, ← mode, ← depth⟩)

/-- **How settings contradict each other.** -/
def contradictions (s : Settings) : List ConfigurationProblem :=
  (if s.snapshot.isSome && s.store != .memory then [.unusedSnapshot] else []) ++
    (if s.store = .service && isBlankText s.endpoint.address then [.missingAddress] else []) ++
    (if s.logMaxBytes ≤ 0 then [.logSize] else [])

/-- The settings, if they do not contradict each other. -/
def checked (s : Settings) : Except Error Settings :=
  if s.contradictions.isEmpty then .ok s else .error (.configuration s.contradictions)

/-! ## Where settings come from -/

/-- The file of assignments in the working directory. -/
def assignmentFile : Path := .ofText ".env"

/-- The names of the file of assignments, if there is one. -/
def assigned (files : Files) (environment : List (String × String)) :
    Except Error Assignments.Names :=
  match files.readBytes assignmentFile with
  | .ok bytes =>
    match Utf8.text? bytes with
    | some cs => .ok (Assignments.readAssignments environment cs)
    | none => .error (.plain .malformedBytes)
  | .error _ => .ok []

/-- The value that names give to a field, in any case of letters; the last one counts. -/
def valueIn (names : Assignments.Names) (field : String) : Option Json :=
  match names.reverse.find? fun (name, _) => lowerText name = field with
  | some (_, some v) => some (.text v)
  | _ => none

/-- What the caller gives, nothing being as good as leaving a field out. -/
def override (overrides : List (String × Json)) (field : String) : Option Json :=
  match overrides.lookup field with
  | some .null => none
  | given => given

/-- **The value of a field** by the first that gives it: the caller, the environment, the file. -/
def given (overrides : List (String × Json)) (environment : List (String × String))
    (names : Assignments.Names) (field : String) : Option Json :=
  let around := environment.map fun (name, v) => (name, some v)
  (override overrides field).orElse fun _ =>
    (valueIn around field).orElse fun _ => valueIn names field

/-- **The settings of a run.** -/
def load (files : Files) (environment : List (String × String))
    (overrides : List (String × Json)) :
    Except Error Settings := do
  let names ← assigned files environment
  let settings ← (ofGiven (given overrides environment names)).mapError Error.fields
  settings.checked

/-! ## What follows from settings -/

/-- Where the log goes; a level that is given counts instead of that of the settings. -/
def logOutput (s : Settings) (level : Option Severity) : LogOutput :=
  ⟨level.getD s.logLevel, s.logFormat,
    s.logFile.map fun path => ⟨path, s.logMaxBytes, s.logBackupCount⟩⟩

end Settings

end Crosswalk
