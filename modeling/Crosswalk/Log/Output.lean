import Crosswalk.Files
import Crosswalk.Log.Record
import Crosswalk.Text.Case

/-!
# Where the log goes

Records that matter enough go to the console, and to a file if there is one.  A file that would grow
too long is put aside, and a new one is started; of the files that are put aside only the latest are
kept.

* `Severity.ofName` — a severity by its name.
* `RotatedFile` — **a file that is put aside** before it grows too long.
* `RotatedFile.append` — the files with one more line in it.
* `LogOutput` — **what is done with records.**
* `LogOutput.write` — what a record adds to the console and to the files.
-/

namespace Crosswalk

/-- The names of severities. -/
def Severity.names : List (String × Severity) :=
  [("TRACE", .trace), ("DEBUG", .debug), ("INFO", .info), ("WARNING", .warning), ("WARN", .warning),
   ("ERROR", .error), ("CRITICAL", .critical), ("FATAL", .critical), ("NOTSET", ⟨0⟩)]

/-- **The severity with a name** in any case; a name that is unknown stands for failures. -/
def Severity.ofName (name : String) : Severity := (names.lookup (upperText name)).getD .error

/-- The severity that counts when more words were asked for a number of times. -/
def Severity.ofVerbosity : Nat → Severity
  | 0 => .error
  | 1 => .info
  | 2 => .debug
  | _ => .trace

/-! ## Files -/

/-- **A file that is put aside before it grows too long.** -/
structure RotatedFile where
  path : Path
  /-- The length in bytes that is too long; zero or less for none. -/
  tooLong : Int := 10 * 1024 * 1024
  /-- How many files that are put aside are kept. -/
  kept : Int := 5
  deriving DecidableEq, Repr

namespace RotatedFile

/-- The path of a file that is put aside; the latest has the number one. -/
def aside (f : RotatedFile) (n : Nat) : Path := .ofText (f.path.text ++ "." ++ toString n)

/-- The files with those up to a number moved to the next number. -/
def shift (f : RotatedFile) (files : Files) : Nat → Files
  | 0 => files
  | n + 1 => f.shift (files.rename (f.aside (n + 1)) (f.aside (n + 2))) n

/-- **The files with the file put aside.**  If none are kept, it stays where it is. -/
def putAside (f : RotatedFile) (files : Files) : Files :=
  if 0 < f.kept then (f.shift files (f.kept.toNat - 1)).rename f.path (f.aside 1) else files

/-- The bytes in the file. -/
def bytesIn (f : RotatedFile) (files : Files) : List UInt8 :=
  match files.readBytes f.path with
  | .ok bytes => bytes
  | .error _ => []

/-- Whether a line would make the file too long, even if it is the first one. -/
def isFull (f : RotatedFile) (files : Files) (line : String) : Bool :=
  decide (0 < f.tooLong) && decide (f.tooLong ≤ ((f.bytesIn files).length + line.length : Nat))

/-- **The files with one more line**, in a new file if the old one is full. -/
def append (f : RotatedFile) (files : Files) (line : String) : Files :=
  let files := if f.isFull files line then f.putAside files else files
  match files.write f.path (f.bytesIn files ++ line.toUTF8.toList) with
  | .ok files => files
  | .error _ => files

/-- The file with its home directory written out. -/
def expanded (f : RotatedFile) (files : Files) : Except Cause RotatedFile := do
  .ok { f with path := ← files.expanded f.path }

/-- The files with the file in them, whether it was there or not. -/
def opened (f : RotatedFile) (files : Files) : Except Cause Files :=
  match files.read f.path with
  | .ok _ => .ok files
  | .error _ => files.write f.path []

end RotatedFile

/-! ## The whole -/

/-- **What is done with records.**  Until anything else is said, what should be looked at is told by
its message alone. -/
structure LogOutput where
  threshold : Severity := .warning
  format : LogFormat := .bare
  file : Option RotatedFile := none
  deriving DecidableEq, Repr

namespace LogOutput

/-- Whether a record matters enough.  Without a threshold of its own the usual one counts, and what
has no severity never matters. -/
def isEnabled (o : LogOutput) (s : Severity) : Bool :=
  let least := if o.threshold.rank = 0 then Severity.warning else o.threshold
  0 < s.rank && least.rank ≤ s.rank

/-- **What a record adds to the console, and the files with it.** -/
def write (o : LogOutput) (now : Moment) (files : Files) (r : LogRecord) : String × Files :=
  if o.isEnabled r.severity then
    let line := o.format.lineOf now r ++ "\n"
    (line, match o.file with
      | some f => f.append files line
      | none => files)
  else ("", files)

/-- What records add to the console, and the files with them. -/
def writeAll (o : LogOutput) (now : Moment) (files : Files) : List LogRecord → String × Files
  | [] => ("", files)
  | r :: rs =>
    let (line, files) := o.write now files r
    let (lines, files) := o.writeAll now files rs
    (line ++ lines, files)

/-- The output with its file ready, and the files with it. -/
def opened (o : LogOutput) (files : Files) : Except Cause (LogOutput × Files) :=
  match o.file with
  | some f => do
    let f ← f.expanded files
    .ok ({ o with file := some f }, ← f.opened files)
  | none => .ok (o, files)

end LogOutput

end Crosswalk
