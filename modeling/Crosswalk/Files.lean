import Crosswalk.Error
import Crosswalk.Path

/-!
# Files

The files that a computation may read and write are a value.  A path is followed name by name from
the working directory, or from the root; a double dot leads back to the directory around.  A path
may also start from the home directory of a user, but only where that is asked for.

* `Cell`, `Sheet` — the cells of a workbook.
* `Content` — **what a file holds**: bytes, or the sheets of a workbook.
* `Files` — files and directories by their paths, and the home directories.
* `Files.expanded` — **a path with its home directory written out.**
* `Files.read` — **the content behind a path**, or why there is none.
* `Files.write` — the files with new content behind a path.
-/

namespace Crosswalk

/-- A cell of a worksheet. -/
inductive Cell where
  /-- A cell without a value. -/
  | empty
  | bool (b : Bool)
  | int (i : Int)
  | float (x : Binary64)
  | text (s : String)
  /-- A moment, by the text of its date and time. -/
  | moment (iso : String)
  deriving DecidableEq

/-- A worksheet: its name and the rows of its cells. -/
structure Sheet where
  name : String
  rows : List (List Cell)

/-- **What a file holds.** -/
inductive Content where
  | bytes (bs : List UInt8)
  | workbook (sheets : List Sheet)

/-- A file or a directory. -/
inductive Entry where
  | file (content : Content)
  | directory

/-- **Files and directories**, by the names that lead to them.  Behind the root the first name is
that of the root. -/
structure Files where
  entries : List (List String × Entry)
  /-- The texts of home directories by the names of users; the own one has the empty name. -/
  homes : List (String × String) := []

namespace Files

/-- No files. -/
def none : Files := { entries := [] }

/-! ## Home directories -/

/-- The path of the text of a home directory; slashes at its end do not count. -/
def homeOfText (s : String) : Path :=
  match (s.toList.reverse.dropWhile (· == '/')).reverse with
  | [] => ⟨"/", []⟩
  | cs => .ofText (String.ofList cs)

/-- The home directory of a user; a text that starts with a tilde itself is none. -/
def home? (fs : Files) (user : String) : Option Path :=
  (fs.homes.lookup user).bind fun s =>
    if s.toList.head? = some '~' then Option.none else some (homeOfText s)

/-- **A path with its home directory written out**, if it starts from one. -/
def expanded (fs : Files) (p : Path) : Except Cause Path :=
  match p.user? with
  | some user =>
    match fs.home? user with
    | some home => .ok ⟨home.root, home.names ++ p.names.tail⟩
    | Option.none => .error .unknownHome
  | Option.none => .ok p

/-! ## Reading -/

/-- The place of the root. -/
def root : List String := ["/"]

/-- The place that a path starts from. -/
def startOf (p : Path) : List String := if p.isAbsolute then root else []

/-- The place that a name leads to. -/
def step (place : List String) (name : String) : List String :=
  if name != ".." then place ++ [name] else if place = root then root else place.dropLast

/-- What stands at a place.  A directory is there as soon as anything is inside of it. -/
def entryAt (fs : Files) (place : List String) : Option Entry :=
  match fs.entries.lookup place with
  | some e => some e
  | Option.none =>
    if place.isEmpty || place = root || fs.entries.any (fun (p, _) => place.isPrefixOf p) then
      some .directory
    else Option.none

/-- **Where names lead to from a place**, or why they lead nowhere. -/
def follow (fs : Files) (text : String) : List String → List String → Except Cause (List String)
  | place, [] => .ok place
  | place, name :: names =>
    match fs.entryAt place with
    | some .directory => fs.follow text (step place name) names
    | some (.file _) => .error (.throughFile text)
    | Option.none => .error (.missingFile text)

/-- Where a path leads to. -/
def placeOf (fs : Files) (p : Path) : Except Cause (List String) :=
  fs.follow p.text (startOf p) p.names

/-- **The content behind a path.** -/
def read (fs : Files) (p : Path) : Except Cause Content := do
  match fs.entryAt (← fs.placeOf p) with
  | some (.file c) => .ok c
  | some .directory => .error (.directory p.text)
  | Option.none => .error (.missingFile p.text)

/-- The bytes that stand for a workbook where bytes are wanted: the mark of an archive and a byte
that is part of no text. -/
def archiveBytes : List UInt8 := [0x50, 0x4B, 0x03, 0x04, 0xFF]

/-- The bytes behind a path; those of a workbook are no text and no document. -/
def readBytes (fs : Files) (p : Path) : Except Cause (List UInt8) := do
  match ← fs.read p with
  | .bytes bs => .ok bs
  | .workbook _ => .ok archiveBytes

/-- Whether anything stands behind a path. -/
def has (fs : Files) (p : Path) : Bool :=
  match fs.placeOf p with
  | .ok place => (fs.entryAt place).isSome
  | .error _ => false

/-! ## Writing -/

/-- The entries with one replaced or added. -/
def put (place : List String) (e : Entry) :
    List (List String × Entry) → List (List String × Entry)
  | [] => [(place, e)]
  | (p, d) :: rest => if p = place then (place, e) :: rest else (p, d) :: put place e rest

/-- The files with something else at a place. -/
def set (fs : Files) (place : List String) (e : Entry) : Files :=
  { fs with entries := put place e fs.entries }

/-- Where names lead to from a place when all directories on the way are there. -/
def placeFrom (place : List String) (names : List String) : List String := names.foldl step place

/-- The files with a directory behind a path.  The directory around it must be there. -/
def makeDirectory (fs : Files) (p : Path) : Except Cause Files := do
  let place ← fs.placeOf p
  match fs.entryAt place with
  | some .directory => .ok fs
  | some (.file _) => .error (.occupied p.text)
  | Option.none => .ok (fs.set place .directory)

/-- The files with a directory and all directories around it, by its names from the last one on.
Those around it are made only if it cannot be made at once. -/
def makeDirectories (fs : Files) (root : String) : List String → Except Cause Files
  | [] => .ok fs
  | name :: names =>
    let p : Path := ⟨root, (name :: names).reverse⟩
    match fs.makeDirectory p with
    | .error (.missingFile _) => do
      let fs ← fs.makeDirectories root names
      fs.makeDirectory p
    | made => made

/-- **The files with new bytes behind a path.**  Directories on the way to it are made, where no
files stand in their places. -/
def write (fs : Files) (p : Path) (bytes : List UInt8) : Except Cause Files := do
  let fs ← fs.makeDirectories p.root p.parent.names.reverse
  let place ← fs.placeOf p
  match fs.entryAt place with
  | some .directory => .error (.directory p.text)
  | _ => .ok (fs.set place (.file (.bytes bytes)))

/-- The files without what stands behind a path. -/
def erase (fs : Files) (p : Path) : Files :=
  { fs with entries := fs.entries.filter fun (place, _) => place ≠ placeFrom (startOf p) p.names }

/-- The files with a file under another path instead of its own.  Without the file nothing
changes. -/
def rename (fs : Files) (p q : Path) : Files :=
  match fs.read p with
  | .ok c => (fs.erase p).set (placeFrom (startOf q) q.names) (.file c)
  | .error _ => fs

/-- Files from their paths and what stands there, without home directories. -/
def ofList (entries : List (String × Entry)) : Files where
  entries := entries.map fun (p, e) => let p := Path.ofText p; (startOf p ++ p.names, e)

end Files

end Crosswalk
