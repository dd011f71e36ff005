/-!
# Paths

A path is a list of names behind an optional root.  Empty names and single dots do not count; double
dots are kept, because what they lead to depends on the files that there are.

* `Path.ofText`, `Path.text` — **a path and its plain text**, which is a dot for no names at all.
* `Path.join` — a path seen from another.
* `Path.parent` — the path without its last name.
* `Path.user?` — the user whose home directory a path starts from.
-/

namespace Crosswalk

/-- **A path.** -/
structure Path where
  /-- The root that the path starts from: nothing, one slash or two. -/
  root : String
  /-- The names, without empty ones and single dots. -/
  names : List String
  deriving DecidableEq, Repr

namespace Path

/-- The names between slashes. -/
def namesBetween (current : List Char) : List Char → List String
  | [] => [String.ofList current.reverse]
  | c :: cs =>
    if c = '/' then String.ofList current.reverse :: namesBetween [] cs
    else namesBetween (c :: current) cs

/-- The root of a text: two slashes are a root of their own, more than two count as one. -/
def rootOf (cs : List Char) : String :=
  match (cs.takeWhile (· == '/')).length with
  | 0 => ""
  | 2 => "//"
  | _ => "/"

/-- **The path of a text.** -/
def ofText (s : String) : Path :=
  ⟨rootOf s.toList, (namesBetween [] s.toList).filter fun n => n != "" && n != "."⟩

/-- **The plain text of a path.** -/
def text (p : Path) : String :=
  if p.root.isEmpty && p.names.isEmpty then "." else p.root ++ "/".intercalate p.names

/-- Whether a path starts from a root. -/
def isAbsolute (p : Path) : Bool := !p.root.isEmpty

/-- **The second path as seen from the first.** -/
def join (p q : Path) : Path := if q.isAbsolute then q else ⟨p.root, p.names ++ q.names⟩

/-- The user whose home directory a path starts from: the name behind a tilde in front of
everything, an empty one for the own directory. -/
def user? (p : Path) : Option String :=
  if p.isAbsolute then none
  else
    match p.names.head?.map String.toList with
    | some ('~' :: user) => some (String.ofList user)
    | _ => none

/-- The path without its last name. -/
def parent (p : Path) : Path := ⟨p.root, p.names.dropLast⟩

/-- The last name of a path. -/
def name (p : Path) : String := p.names.getLastD ""

/-- The ending of the last name in lower case, with its dot; dots in front do not start one. -/
def extension (p : Path) : String :=
  let cs := p.name.toList.reverse
  match cs.takeWhile (· != '.'), cs.dropWhile (· != '.') with
  | ending, _ :: stem =>
    if stem.all (· == '.') then "" else (String.ofList ('.' :: ending.reverse)).map Char.toLower
  | _, [] => ""

end Path

end Crosswalk
