import Crosswalk.Command.Basic
import Crosswalk.Mapping.Loader

/-!
# Running commands

A command is run in surroundings: files, names with values, the time, and a name for the run.  What
comes of it is a text on the output, lines of the log, other files, and a status.

* `Surroundings`, `Response` — **what a run finds, and what comes of it.**
* `Command.perform` — a command carried out on a store.
* `Invocation.respond` — **a command run with its settings.**
* `respond` — the response to a command line.
-/

namespace Crosswalk

/-- **What a run finds.** -/
structure Surroundings where
  files : Files
  environment : List (String × String)
  now : Moment
  /-- The name of the run in the log. -/
  run : String
  /-- A failure in the words that the log has for it when more words are asked for. -/
  describe : Error → String := Error.message Cause.text

/-- **What comes of a run.** -/
structure Response where
  status : Nat
  /-- What is written on the output. -/
  output : String
  /-- What is written on the console. -/
  log : String
  files : Files

/-! ## Commands on stores -/

/-- The connection to a service that no run can reach: an address that cannot be one is told
first. -/
def Connection.unavailable (e : Endpoint) : Connection Unit where
  reach := do
    let _ ← Action.of e.checked
    Action.of (.error (.plain (.service "ServiceUnavailable")))
  ask _ := Action.of (.error (.plain (.service "ServiceUnavailable")))
  close := pure ()

namespace Command

variable {σ : Type}

/-- The text about what loading has led to. -/
def loadText (s : LoadSummary) : String :=
  "\nLoad complete:\n  Records:     " ++ toString s.records ++ "\n  Attributes:  " ++
    toString s.attributes ++ "\n  Edges:       " ++ toString s.edges ++ "\n"

/-- The phase that a command stands for in the log. -/
def phase : Command → String
  | load _ _ => "load"
  | query _ _ _ => "query"

/-- **A command carried out on a store** that is created for it, with the text that it writes. -/
def perform (create : Action σ Unit) (store : Store σ) (settings : Settings) :
    Command → Action σ String
  | load document keepsGraph => do
    Action.note .info loaderSource "Starting DVM loader..."
    create
    store.connect
    let summary ← store.closing (loadFile store document (!keepsGraph))
    Action.note .info loaderSource "Finished loading DVM"
    return loadText summary
  | query catalog document output => do
    let files ← Action.getFiles
    let sources ← Action.ofTraced (Catalog.load files catalog)
    let tree ← Action.ofTraced (QueryTree.compile settings.maxTreeDepth.toNat files document)
    create
    store.connect
    let records ← store.closing do
      let joins ← store.joins
      let files ← Action.getFiles
      Action.ofTraced (evaluate settings.evaluationMode (World.ofFiles files sources joins) tree)
    return reportText output records

/-- An action in a session of its own: what comes of it, the files and the log. -/
def within (store : σ) (files : Files) (a : Action σ String) :
    Except Error String × Files × List LogEntry :=
  let (r, s) := a ⟨store, files, []⟩
  (r, s.files, s.log)

/-- A command carried out on the store of the settings. -/
def performWith (settings : Settings) (files : Files) (c : Command) :
    Except Error String × Files × List LogEntry :=
  match settings.store with
  | .memory =>
    within {} files (c.perform (MemoryStore.create settings.snapshot) memoryStore settings)
  | .service =>
    let e := settings.endpoint
    within () files
      (c.perform (pure ()) (serviceStore (Connection.unavailable e) e.address) settings)

end Command

/-! ## Runs -/

/-- A failure that ends a run, as the log tells it. -/
def failureRecord (message : String) (failure : Option String) : LogRecord :=
  { severity := .error, source := "main", message, failure }

/-- **A command run with its settings.**  A failure is told in the log and makes the status one. -/
def Invocation.respondWith (around : Surroundings) (i : Invocation) (settings : Settings) :
    Except Cause Response := do
  let (log, files) ← (settings.logOutput i.logLevel).opened around.files
  let (r, files, entries) := i.command.performWith settings files
  let records := entries.map (LogEntry.toRecord around.run i.command.phase)
  match r with
  | .ok output =>
    let (lines, files) := log.writeAll around.now files records
    .ok ⟨0, output, lines, files⟩
  | .error e =>
    let failure := if 2 ≤ i.verbosity then some (around.describe e) else none
    let last := failureRecord ("Fatal error: " ++ e.message Cause.text) failure
    let (lines, files) := log.writeAll around.now files (records ++ [last])
    .ok ⟨1, "", lines, files⟩

/-- **A command run with the settings that it finds.**  Settings that contradict each other are told
on the console. -/
def Invocation.respond (around : Surroundings) (i : Invocation) : Except Error Response :=
  match Settings.load around.files around.environment i.overrides with
  | .ok settings => (i.respondWith around settings).mapError .plain
  | .error (.plain cause) => .error (.plain cause)
  | .error e =>
    let record := failureRecord ("Invalid configuration: " ++ e.message Cause.text) none
    .ok ⟨1, "", LogFormat.text.lineOf around.now record ++ "\n", around.files⟩

/-- **The response to a command line.** -/
def respond (around : Surroundings) (arguments : List String) : Except Error Response :=
  match Invocation.ofArguments arguments with
  | .ok i => i.respond around
  | .error ending => .ok ⟨ending.status, ending.output, ending.complaint, around.files⟩

end Crosswalk
