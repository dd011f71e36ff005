import Crosswalk.Command.Arguments
import Crosswalk.Engine.Report
import Crosswalk.Release
import Crosswalk.Settings.Basic

/-!
# Command lines

A command line asks for one of two things: to put a mapping document into a store, or to evaluate a
query.

* `Command` — **what is asked for.**
* `Invocation` — a command with the settings that are given along with it.
* `Ending` — why a command line asks for nothing.
* `Invocation.ofArguments` — **the invocation of a command line.**
-/

namespace Crosswalk

open Arguments (Event Grammar OptionSpec)

/-- **What is asked for.** -/
inductive Command where
  /-- A mapping document put into the store, which may keep what it holds. -/
  | load (document : Path) (keepsGraph : Bool)
  /-- The query of a document evaluated over the sources of a catalog. -/
  | query (catalog document : Path) (output : OutputMode)

/-- A command with what is given along with it. -/
structure Invocation where
  /-- How often more words in the log were asked for. -/
  verbosity : Nat
  command : Command
  /-- Settings that are given on the command line. -/
  overrides : List (String × Json)

/-- **Why a command line asks for nothing.** -/
inductive Ending where
  /-- It is wrong. -/
  | wrong
  /-- It asks how to use the program. -/
  | help
  /-- It asks for the release. -/
  | version
  /-- It holds no command. -/
  | bare
  deriving DecidableEq, Repr

namespace Ending

/-- How to use the program. -/
def usage : String :=
  "usage: " ++ programName ++ " [-h] [--version] [-v] \x7bload,query\x7d ...\n"

/-- What is written at an ending. -/
def output : Ending → String
  | wrong => ""
  | help | bare => usage
  | version => programName ++ " " ++ Crosswalk.version ++ "\n"

/-- What is told at an ending. -/
def complaint : Ending → String
  | wrong => usage
  | _ => ""

/-- The status that the program ends with. -/
def status : Ending → Nat
  | wrong => 2
  | help | version => 0
  | bare => 1

end Ending

/-! ## Options -/

/-- The options. -/
inductive Flag where
  | help
  | version
  | verbose
  | keepGraph
  | output
  | mode
  | store
  | address
  | user
  | password
  | snapshot
  deriving DecidableEq, Repr

namespace Flag

/-- An option without a value. -/
def plain (key : Flag) (names : List String) : OptionSpec Flag := ⟨key, names, false⟩

/-- An option with a value. -/
def valued (key : Flag) (names : List String) : OptionSpec Flag := ⟨key, names, true⟩

/-- What may stand in front of a command. -/
def beforeCommand : Grammar Flag :=
  ⟨[plain help ["-h", "--help"], plain version ["--version"], plain verbose ["-v", "--verbose"]],
    none⟩

/-- The options about the store. -/
def aboutStore : List (OptionSpec Flag) :=
  [plain help ["-h", "--help"], valued store ["--store"], valued address ["-b", "--bolt-uri"],
   valued user ["--user"], valued password ["--password"], valued snapshot ["--snapshot"]]

/-- What may follow the command to load a document. -/
def afterLoad : Grammar Flag := ⟨plain keepGraph ["--use-existing-graph"] :: aboutStore, some 1⟩

/-- What may follow the command to evaluate a query. -/
def afterQuery : Grammar Flag :=
  ⟨valued output ["-o", "--output"] :: valued mode ["-m", "--mode"] :: aboutStore, some 2⟩

end Flag

/-! ## Commands -/

/-- A command that is being read. -/
structure Draft where
  operands : List Path := []
  keepsGraph : Bool := false
  output : OutputMode := .text
  /-- Settings, latest first. -/
  overrides : List (String × Json) := []

namespace Draft

/-- A draft with a setting. -/
def give (d : Draft) (field value : String) : Draft :=
  { d with overrides := (field, .text value) :: d.overrides }

/-- A draft with a setting that has a fixed choice of values. -/
def choose (d : Draft) (field value : String) (among : List String) : Except Ending Draft :=
  if value ∈ among then .ok (d.give field value) else .error .wrong

/-- **A draft with what an argument says.** -/
def add (d : Draft) : Event Flag → Except Ending Draft
  | .operand s => .ok { d with operands := d.operands ++ [.ofText s] }
  | .option .output v =>
    match OutputMode.ofName (lowerText v) with
    | .ok output => .ok { d with output }
    | .error _ => .error .wrong
  | .option .mode v =>
    d.choose "evaluation_mode" (lowerText v) (EvaluationMode.all.map EvaluationMode.name)
  | .option .store v => d.choose "graph_db_type" v (StoreKind.all.map StoreKind.name)
  | .option .address v => .ok (d.give "graph_db_uri" v)
  | .option .user v => .ok (d.give "graph_db_user" v)
  | .option .password v => .ok (d.give "graph_db_password" v)
  | .option .snapshot v => .ok (d.give "graph_db_snapshot" v)
  | .option .keepGraph _ => .ok { d with keepsGraph := true }
  | .option .help _ => .error .help
  | .option .version _ | .option .verbose _ | .rest _ _ => .error .wrong

/-- The draft of the arguments that follow a command. -/
def ofArguments (g : Grammar Flag) (arguments : List String) : Except Ending Draft := do
  let (events, isSound) := g.events arguments
  let d ← events.foldlM add {}
  if isSound then .ok d else .error .wrong

end Draft

/-- **A command by its name and the arguments that follow it**, with the settings among them. -/
def Command.ofArguments (name : String) (arguments : List String) :
    Except Ending (Command × List (String × Json)) := do
  match name with
  | "load" =>
    let d ← Draft.ofArguments Flag.afterLoad arguments
    match d.operands with
    | [document] => .ok (.load document d.keepsGraph, d.overrides)
    | _ => .error .wrong
  | "query" =>
    let d ← Draft.ofArguments Flag.afterQuery arguments
    match d.operands with
    | [catalog, document] => .ok (.query catalog document d.output, d.overrides)
    | _ => .error .wrong
  | _ => .error .wrong

namespace Invocation

/-- The invocation of some events, behind options for more words in the log. -/
def ofEvents (verbosity : Nat) (isSound : Bool) : List (Event Flag) → Except Ending Invocation
  | [] => .error (if isSound then .bare else .wrong)
  | .option .help _ :: _ => .error .help
  | .option .version _ :: _ => .error .version
  | .option _ _ :: events => ofEvents (verbosity + 1) isSound events
  | .operand _ :: _ => .error .wrong
  | .rest name arguments :: _ => do
    let (command, overrides) ← Command.ofArguments name arguments
    if isSound then .ok ⟨verbosity, command, overrides⟩ else .error .wrong

/-- **The invocation of a command line**, or why it asks for nothing. -/
def ofArguments (arguments : List String) : Except Ending Invocation :=
  let (events, isSound) := Flag.beforeCommand.events arguments
  ofEvents 0 isSound events

/-- The level of the log that was asked for. -/
def logLevel (i : Invocation) : Option Severity :=
  if i.verbosity = 0 then none else some (.ofVerbosity i.verbosity)

end Invocation

end Crosswalk
