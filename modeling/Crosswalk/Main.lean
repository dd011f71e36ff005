import Crosswalk.Command.Run
import Std.Time.DateTime.Timestamp

/-!
# The program

A run is a value of its surroundings.  The program reads the files that a run may look into, lets
it respond, and writes the files that it has changed.  Home directories are those that the
environment and the file of users name: users that only another service knows have none here, and
the own one is only known from the environment.

* `Outside.look` — what stands at a path outside.
* `Outside.homes` — the home directories.
* `Outside.gather` — **the files that an invocation may look into.**
* `main` — **the program.**
-/

namespace Crosswalk.Outside

/-- What stands at a path outside, if anything does. -/
def look (p : Path) : IO (List (String × Entry)) := do
  try
    let bytes ← IO.FS.readBinFile p.text
    return [(p.text, .file (.bytes bytes.toList))]
  catch
    | .inappropriateType _ 21 _ => return [(p.text, .directory)]
    | _ => return []

/-- The paths that lead to a path, one name after the other. -/
def waysTo (p : Path) : List Path :=
  (List.range p.names.length).map fun n => ⟨p.root, p.names.take (n + 1)⟩

/-- The file of users, a line for each of them with fields between colons. -/
def usersFile : String := "/etc/passwd"

/-- The user of a line with the home directory. -/
def homeOfLine (line : String) : Option (String × String) :=
  match splitAll ':' line.toList with
  | user :: _ :: _ :: _ :: _ :: home :: _ => some (String.ofList user, String.ofList home)
  | _ => none

/-- **The home directories** by the names of users, the own one by the empty name. -/
def homes : IO (List (String × String)) := do
  let users ← try IO.FS.lines usersFile catch _ => pure #[]
  let known := users.toList.filterMap homeOfLine
  let own ← IO.getEnv "HOME"
  return (own.map fun home => ("", home)).toList ++ known

/-- What stands at some paths and on the ways to them. -/
def lookAll (paths : List Path) : IO Files := do
  let found ← (paths.flatMap waysTo).mapM look
  return { Files.ofList found.flatten with homes := ← homes }

/-- The files that settings speak of. -/
def pathsOf (files : Files) (s : Settings) : List Path :=
  let log := (s.logOutput none).file.bind fun f => (f.expanded files).toOption.map fun f =>
    f.path :: (List.range f.kept.toNat).map fun n => f.aside (n + 1)
  (s.snapshot.bind fun p => (files.expanded p).toOption).toList ++ log.getD []

/-- The files that a command speaks of; those of a catalog are known when it has been read. -/
def pathsIn (c : Command) : IO (List Path) := do
  match c with
  | .load document _ => return [document]
  | .query catalog document _ =>
    let files ← lookAll [catalog]
    let sources := match (Catalog.load files catalog).result with
      | .ok c => c.sources
      | .error _ => []
    let location : Source → Option Path
      | .csv f _ _ | .xml f | .excel f _ _ => (f.location files).toOption
      | .db _ => none
    return catalog :: document :: sources.filterMap location

/-- The names with values around, as far as settings may have them. -/
def environment : IO (List (String × String)) := do
  let found ← Settings.fields.mapM fun field => do
    let upper ← IO.getEnv (upperText field)
    let lower ← IO.getEnv field
    return (upper.orElse fun _ => lower).map fun v => (field, v)
  return found.filterMap id

/-- **The files that an invocation may look into**, and the ones of them that it may change. -/
def gather (environment : List (String × String)) (i : Invocation) : IO (Files × List Path) := do
  let files ← lookAll [Settings.assignmentFile]
  let changing := match Settings.load files environment i.overrides with
    | .ok s => pathsOf files s
    | .error _ => []
  let reading ← pathsIn i.command
  return (← lookAll (Settings.assignmentFile :: changing ++ reading), changing)

/-- A file outside brought to where a run has left it. -/
def settle (before after : Files) (p : Path) : IO Unit := do
  match before.readBytes p, after.readBytes p with
  | .ok old, .ok new =>
    if old != new then IO.FS.writeBinFile p.text ⟨new.toArray⟩
  | .error _, .ok new =>
    IO.FS.createDirAll p.parent.text
    IO.FS.writeBinFile p.text ⟨new.toArray⟩
  | .ok _, .error _ => IO.FS.removeFile p.text
  | .error _, .error _ => pure ()

/-- The moment that it is. -/
def now : IO Moment := do
  let t ← Std.Time.Timestamp.now
  let nanoseconds := t.toNanosecondsSinceUnixEpoch.val.toNat
  return ⟨nanoseconds / 1000000000, nanoseconds / 1000 % 1000000⟩

/-- A name for a run. -/
def runName : IO String := do
  return String.ofList (hexDigits 12 (← IO.rand 0 (Nat.pow 2 48 - 1)))

/-- What a run has written, and its status. -/
def report (r : Response) : IO UInt32 := do
  (← IO.getStderr).putStr r.log
  (← IO.getStdout).putStr r.output
  return r.status.toUInt32

end Crosswalk.Outside

open Crosswalk Crosswalk.Outside in
/-- **The program.** -/
def main (arguments : List String) : IO UInt32 := do
  let environment ← environment
  let (files, changing) ← match Invocation.ofArguments arguments with
    | .ok i => gather environment i
    | .error _ => pure (.none, [])
  let around : Surroundings := { files, environment, now := ← now, run := ← runName }
  match respond around arguments with
  | .ok r =>
    changing.forM (settle files r.files)
    report r
  | .error e => report ⟨1, "", e.message Cause.text ++ "\n", files⟩
