import Crosswalk.Text.Blank
import Crosswalk.Text.Lines

/-!
# Files of assignments

A file of assignments gives values to names, one on a line.  A value stands as it is up to a
comment, or in quotes, and in quotes it may go over several lines.  A name alone has no value.  A
line that is no assignment is passed over.

* `quotation?` — a text up to its closing quote.
* `assignment` — **the assignment that a text starts with**, and what comes after its line.
* `assignments` — all assignments of a text.
* `expand` — a value whose references to other names are replaced.
* `readAssignments` — **the names of a text with their final values.**
-/

namespace Crosswalk.Assignments

/-- **A name with its value**, if it has one. -/
structure Assignment where
  name : List Char
  value : Option (List Char)

/-! ## Lines -/

/-- A blank inside of a line. -/
def isGap (c : Char) : Bool := isBlank c && c != '\n'

/-- A text without the gap that it starts with. -/
def skipGap (cs : List Char) : List Char := cs.dropWhile isGap

/-- What comes after the first line. -/
def nextLine (cs : List Char) : List Char := (cs.dropWhile (· != '\n')).drop 1

/-- What comes after the line, if nothing but a comment is left on it. -/
def lineEnd? (cs : List Char) : Option (List Char) :=
  match skipGap cs with
  | [] => some []
  | '\n' :: rest => some rest
  | '#' :: rest => some (nextLine rest)
  | _ => none

/-! ## Quotations -/

/-- **A text up to its closing quote**, and what comes after it.  A quote behind a backslash does
not close the text, unless there is no other. -/
def quotation? (quote : Char) : List Char → Option (List Char × List Char)
  | [] => none
  | '\\' :: c :: rest =>
    if c = quote then
      match quotation? quote rest with
      | some (body, after) => some ('\\' :: c :: body, after)
      | none => some (['\\'], rest)
    else (quotation? quote (c :: rest)).map fun (body, after) => ('\\' :: body, after)
  | c :: rest =>
    if c = quote then some ([], rest)
    else (quotation? quote rest).map fun (body, after) => (c :: body, after)

/-- The characters that a backslash stands in front of, in double quotes. -/
def escapes : List (Char × Char) :=
  [('\\', '\\'), ('\'', '\''), ('"', '"'), ('a', '\x07'), ('b', '\x08'), ('f', '\x0c'), ('n', '\n'),
   ('r', '\r'), ('t', '\t'), ('v', '\x0b')]

/-- The same in single quotes. -/
def plainEscapes : List (Char × Char) := [('\\', '\\'), ('\'', '\'')]

/-- A text with its escapes replaced. -/
def unescape (known : List (Char × Char)) : List Char → List Char
  | [] => []
  | '\\' :: c :: rest =>
    match known.lookup c with
    | some d => d :: unescape known rest
    | none => '\\' :: unescape known (c :: rest)
  | c :: rest => c :: unescape known rest

/-! ## Assignments -/

/-- A text up to the blanks in front of its comment. -/
def withoutComment : List Char → List Char
  | [] => []
  | c :: cs =>
    if isBlank c && (cs.dropWhile isBlank).head? = some '#' then [] else c :: withoutComment cs

/-- A value at the start of a text, and what comes after it. -/
def value? : List Char → Option (List Char × List Char)
  | '\'' :: rest => (quotation? '\'' rest).map fun (body, after) =>
      (unescape plainEscapes body, after)
  | '"' :: rest => (quotation? '"' rest).map fun (body, after) => (unescape escapes body, after)
  | cs =>
    let line := withoutComment (cs.takeWhile (· != '\n'))
    some ((line.reverse.dropWhile isBlank).reverse, cs.dropWhile (· != '\n'))

/-- A value behind an equals sign, or none. -/
def assigned? : List Char → Option (Option (List Char) × List Char)
  | '=' :: rest => (value? (skipGap rest)).map fun (v, after) => (some v, after)
  | cs => some (none, cs)

/-- A text without the word that names to be handed on have in front of them. -/
def withoutExport (cs : List Char) : List Char :=
  let rest := cs.drop 6
  if "export".toList.isPrefixOf cs && (rest.head?.map isGap).getD false then skipGap rest else cs

/-- A character of a name without quotes. -/
def isNameChar (c : Char) : Bool := c != '=' && c != '#' && !isBlank c

/-- A name at the start of a text, and what comes after it. -/
def name? : List Char → Option (List Char × List Char)
  | '\'' :: rest =>
    match rest.takeWhile (· != '\''), rest.dropWhile (· != '\'') with
    | c :: cs, _ :: after => some (c :: cs, after)
    | _, _ => none
  | cs =>
    match cs.takeWhile isNameChar with
    | [] => none
    | name => some (name, cs.dropWhile isNameChar)

/-- **The assignment that a text starts with**, if there is one, and what comes after its line. -/
def assignment (cs : List Char) : Option Assignment × List Char :=
  match name? (withoutExport cs) with
  | none => (none, nextLine cs)
  | some (name, rest) =>
    match assigned? (skipGap rest) with
    | none => (none, nextLine rest)
    | some (value, rest) =>
      match lineEnd? rest with
      | none => (none, nextLine rest)
      | some after => (some ⟨name, value⟩, after)

/-- The assignments of a text, by a bound on its lines. -/
def assignmentsUpTo : Nat → List Char → List Assignment
  | 0, _ => []
  | fuel + 1, cs =>
    match cs.dropWhile isBlank with
    | [] => []
    | cs =>
      let (a, rest) := assignment cs
      a.toList ++ assignmentsUpTo fuel rest

/-- **All assignments of a text**, line by line. -/
def assignments (cs : List Char) : List Assignment := assignmentsUpTo cs.length cs

/-! ## References -/

/-- A reference behind its opening brace: the name, the value if there is no such name, and what
comes after the closing brace. -/
def reference? (cs : List Char) : Option (List Char × List Char × List Char) :=
  let isEnd (c : Char) : Bool := c = '\x7d' || c = ':'
  let name := cs.takeWhile fun c => !isEnd c
  match cs.dropWhile fun c => !isEnd c with
  | '\x7d' :: after => some (name, [], after)
  | ':' :: '-' :: rest =>
    match rest.dropWhile (· != '\x7d') with
    | _ :: after => some (name, rest.takeWhile (· != '\x7d'), after)
    | [] => none
  | _ => none

/-- **Values of names**, in the order in which the names came up; a name may have none. -/
abbrev Names := List (String × Option String)

/-- A name with a new value, in its old place if it has one. -/
def put (name : String) (value : Option String) : Names → Names
  | [] => [(name, value)]
  | (n, v) :: rest => if n = name then (n, value) :: rest else (n, v) :: put name value rest

/-- A value whose references are replaced, by a bound on its length. -/
def expandUpTo (known : String → Option (Option String)) : Nat → List Char → List Char
  | 0, cs => cs
  | _ + 1, [] => []
  | fuel + 1, '$' :: '\x7b' :: cs =>
    match reference? cs with
    | some (name, usual, after) =>
      let value := match known (String.ofList name) with
        | some v => (v.getD "").toList
        | none => usual
      value ++ expandUpTo known fuel after
    | none => '$' :: expandUpTo known fuel ('\x7b' :: cs)
  | fuel + 1, c :: cs => c :: expandUpTo known fuel cs

/-- **A value whose references to other names are replaced.** -/
def expand (known : String → Option (Option String)) (cs : List Char) : String :=
  String.ofList (expandUpTo known cs.length cs)

/-- The names with those of further assignments.  A value may refer to the names in front of it, and
to the names around. -/
def assignAll (around : List (String × String)) (names : Names) : List Assignment → Names
  | [] => names
  | a :: rest =>
    let known (name : String) : Option (Option String) :=
      (names.lookup name).orElse fun _ => (around.lookup name).map some
    assignAll around (put (String.ofList a.name) (a.value.map (expand known)) names) rest

/-- **The names of a text with their final values.** -/
def readAssignments (around : List (String × String)) (cs : List Char) : Names :=
  assignAll around [] (assignments (unifyLineEnds cs))

end Crosswalk.Assignments
