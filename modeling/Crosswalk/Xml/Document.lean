import Crosswalk.Text.Lines
import Crosswalk.Xml.Declarations
import Crosswalk.Xml.Node

/-!
# Reading documents

A document is read from its start until it ends or breaks a rule.  What was read until then is kept,
so that a long document can be used while it is read.

Two kinds of rules are told apart.  Where a document is not well formed, reading stops.  Where only
a prefix is not declared, or an entity that is to be replaced may be declared elsewhere, reading
goes on, and the document as a whole is no good.

* `Reading` — **the walk through a document as far as it could be read**, and whether all is well.
* `Expansion` — whether references to entities are replaced or left.
* `piece`, `content` — one piece of what an element holds, and all of it.
* `Reading.ofChars`, `Reading.ofBytes` — **reading a document.**
-/

namespace Crosswalk.Xml

/-- **The walk through a document as far as it could be read.** -/
structure Reading where
  /-- The steps of the walk. -/
  events : List Event
  /-- The document is well formed, all of its prefixes are declared, and no reference is left that
  was to be replaced. -/
  isSound : Bool

/-- What becomes of references to entities. -/
inductive Expansion where
  /-- The text of the entity takes the place of the reference. -/
  | replace
  /-- The reference stays. -/
  | keep
  deriving DecidableEq

/-! ## Prefixes -/

/-- The address of the prefix `xml`. -/
def markupAddress : String := "http://www.w3.org/XML/1998/namespace"

/-- The address of the prefix `xmlns`. -/
def prefixAddress : String := "http://www.w3.org/2000/xmlns/"

/-- The prefixes that are declared, with their addresses; the last one comes first. -/
abbrev Scope := List (String × String)

/-- The scope at the start of a document. -/
def Scope.initial : Scope := [("xml", markupAddress)]

/-- Whether a character may stand in an address, apart from escapes. -/
def isAddressChar (c : Char) : Bool := c.isAlphanum || "-._~:/?#[]@!$&'()*+,;=".toList.contains c

/-- Whether a text may be an address. -/
def isAddress : List Char → Bool
  | [] => true
  | '%' :: a :: b :: rest => (digitOf? 16 a).isSome && (digitOf? 16 b).isSome && isAddress rest
  | c :: rest => isAddressChar c && isAddress rest

/-- The scope with the prefixes that an element declares, and whether it declares them well. -/
def declarePrefixes (scope : Scope) : List (String × String) → Scope × Bool
  | [] => (scope, true)
  | (name, address) :: rest =>
    match QualifiedName.ofName? name with
    | some ⟨none, "xmlns"⟩ =>
      let good := isAddress address.toList && address != markupAddress && address != prefixAddress
      let (scope, others) := declarePrefixes scope rest
      (scope, good && others)
    | some ⟨some "xmlns", "xml"⟩ =>
      let (scope, others) := declarePrefixes scope rest
      (scope, address == markupAddress && others)
    | some ⟨some "xmlns", p⟩ =>
      let good := p != "xmlns" && !address.isEmpty && address != markupAddress
        && address != prefixAddress
      let scope := if good then (p, address) :: scope else scope
      let (scope, others) := declarePrefixes scope rest
      (scope, good && isAddress address.toList && others)
    | _ => declarePrefixes scope rest

/-- The local name of an element, and whether its prefix is declared. -/
def localName (scope : Scope) (name : String) : String × Bool :=
  match QualifiedName.ofName? name with
  | some ⟨none, p⟩ => (p, true)
  | some ⟨some q, p⟩ => if (scope.lookup q).isSome then (p, true) else (name, false)
  | none => (name, false)

/-- Whether the attributes of an element have declared prefixes and differ from each other. -/
def attributesQualified (scope : Scope) (names : List String) : Bool :=
  let resolved := names.map fun name =>
    match QualifiedName.ofName? name with
    | some ⟨some "xmlns", _⟩ => some (name, "")
    | some ⟨some q, p⟩ => (scope.lookup q).map fun address => (address, p)
    | some ⟨none, p⟩ => some ("", p)
    | none => none
  resolved.all Option.isSome && resolved.Pairwise (· ≠ ·)

/-! ## Tags -/

/-- The attributes of a start tag, whether it is also an end tag, and what comes after it. -/
def attributes? (d : Declarations) : Nat → List Char →
    Option (List (String × String) × Bool × List Char)
  | 0, _ => none
  | fuel + 1, cs =>
    match skipSpace cs with
    | '>' :: rest => some ([], false, rest)
    | '/' :: '>' :: rest => some ([], true, rest)
    | _ => do
      let (name, rest) ← takeName (← space? cs)
      match skipSpace rest with
      | '=' :: rest => do
        let (value, rest) ← attributeValue? d (skipSpace rest)
        let (others, closed, rest) ← attributes? d fuel rest
        if others.any (·.1 = name) then none else some ((name, value) :: others, closed, rest)
      | _ => none

/-- The attributes of an element with the default values of those that it does not give. -/
def withDefaults (d : Declarations) (element : String) (given : List (String × String)) :
    List (String × String) :=
  d.defaults.foldl (fun attributes (e, name, value) =>
    if e = element && !attributes.any (·.1 = name) then attributes ++ [(name, value)]
    else attributes) given

/-! ## Content -/

/-- The most elements that may be open at once. -/
def maxOpen : Nat := 256

/-- The most characters that entities may bring. -/
def maxExpansion : Nat := 1000000

/-- An element that is open: its name, and the prefixes in front of it. -/
structure OpenTag where
  name : String
  scope : Scope

/-- What reading has brought so far. -/
structure Progress where
  /-- The steps of the walk, latest first. -/
  events : List Event := []
  /-- All prefixes are declared, and the entities that are to be replaced are known. -/
  qualified : Bool := true
  /-- How many characters entities have brought. -/
  expanded : Nat := 0

/-- The progress with one more step. -/
def Progress.add (p : Progress) (e : Event) : Progress := { p with events := e :: p.events }

/-- Whether a run of text holds only what it may. -/
def isRun : List Char → Bool
  | ']' :: ']' :: '>' :: _ => false
  | c :: rest => isLegal c && isRun rest
  | [] => true

/-- The text of a literal section, and what comes after it. -/
def section? : List Char → Option (List Char × List Char)
  | ']' :: ']' :: '>' :: rest => some ([], rest)
  | c :: rest =>
    if isLegal c then (section? rest).map fun (cs, after) => (c :: cs, after) else none
  | [] => none

/-- The progress with a run of text; an empty one is no step. -/
def Progress.addText (p : Progress) (cs : List Char) : Progress :=
  if cs.isEmpty then p else p.add (.text (String.ofList cs))

/-- A start tag, behind its opening: the progress, the elements open after it, and the rest.  As
much fuel as there are characters is enough. -/
def startTag? (d : Declarations) (fuel : Nat) (scope : Scope) (opened : List OpenTag)
    (p : Progress) (cs : List Char) : Option (Progress × List OpenTag × Scope × List Char) := do
  let (name, rest) ← takeName cs
  let (given, closed, rest) ← attributes? d fuel rest
  if maxOpen ≤ opened.length then none
  else
    let attributes := withDefaults d name given
    let (inner, declared) := declarePrefixes scope attributes
    let (tag, known) := localName inner name
    let good := declared && known && attributesQualified inner (attributes.map Prod.fst)
    let p := { p.add (.start tag attributes) with qualified := p.qualified && good }
    if closed then some (p.add .stop, opened, scope, rest)
    else some (p, ⟨name, scope⟩ :: opened, inner, rest)

/-- What a piece of content comes to. -/
inductive Piece where
  /-- A rule is broken. -/
  | broken
  /-- The root is closed. -/
  | whole (p : Progress) (rest : List Char)
  /-- Content goes on. -/
  | onward (scope : Scope) (opened : List OpenTag) (p : Progress) (rest : List Char)
  /-- The text of an entity stands here. -/
  | entity (name : String) (text rest : List Char)

/-- An end tag, behind its opening. -/
def endTag (base : Nat) (opened : List OpenTag) (p : Progress) (cs : List Char) : Piece :=
  match opened, takeName cs with
  | o :: others, some (name, after) =>
    match declarationEnd? after with
    | some after =>
      if name = o.name ∧ base < opened.length then
        if others.isEmpty then .whole (p.add .stop) after
        else .onward o.scope others (p.add .stop) after
      else .broken
    | none => .broken
  | _, _ => .broken

/-- A comment or a literal section, behind its opening. -/
def commentOrSection (scope : Scope) (opened : List OpenTag) (p : Progress) (cs : List Char) :
    Piece :=
  match after? "--" cs, after? "[CDATA[" cs with
  | some rest, _ =>
    match comment? rest with
    | some rest => .onward scope opened p rest
    | none => .broken
  | none, some rest =>
    match section? rest with
    | some (text, rest) => .onward scope opened (p.addText text) rest
    | none => .broken
  | none, none => .broken

/-- A reference, behind its opening. -/
def referencePiece (d : Declarations) (expansion : Expansion) (scope : Scope)
    (opened : List OpenTag) (p : Progress) (cs : List Char) : Piece :=
  match reference? cs with
  | none => .broken
  | some (.char c, rest) => .onward scope opened (p.addText [c]) rest
  | some (.entity name, rest) =>
    match d.entities.lookup name with
    | none =>
      if d.isOpen then
        .onward scope opened
          { p.add (.reference name) with qualified := p.qualified && expansion = .keep } rest
      else .broken
    | some .unparsed => .broken
    | some .external =>
      if expansion = .replace then .broken
      else .onward scope opened (p.add (.reference name)) rest
    | some (.internal text) => .entity name text rest

/-- **A piece of content**: a tag, a comment, a literal section, an instruction, a reference, or
text up to the next of these. -/
def piece (d : Declarations) (expansion : Expansion) (fuel base : Nat) (scope : Scope)
    (opened : List OpenTag) (p : Progress) : List Char → Piece
  | '<' :: '/' :: rest => endTag base opened p rest
  | '<' :: '!' :: rest => commentOrSection scope opened p rest
  | '<' :: '?' :: rest =>
    match instruction? rest with
    | some (plain, rest) => .onward scope opened { p with qualified := p.qualified && plain } rest
    | none => .broken
  | '<' :: rest =>
    match startTag? d fuel scope opened p rest with
    | none => .broken
    | some (p, opened, scope, rest) =>
      if opened.isEmpty then .whole p rest else .onward scope opened p rest
  | '&' :: rest => referencePiece d expansion scope opened p rest
  | cs =>
    let run := cs.takeWhile fun c => c != '<' && c != '&'
    let after := cs.dropWhile fun c => c != '<' && c != '&'
    if isRun run then .onward scope opened (p.addText run) after else .broken

/-- **Content, read until the elements above `base` are closed.**  With `base = 0` that is the end
of the root; the text of an entity ends with as many elements open as it began with.  The rest is
missing if a rule is broken. -/
def content (d : Declarations) (expansion : Expansion) :
    Nat → (base : Nat) → (active : List String) → Scope → List OpenTag → Progress →
      List Char →
    Progress × Option (List Char)
  | 0, _, _, _, _, p, _ => (p, none)
  | fuel + 1, base, active, scope, opened, p, cs =>
    if cs.isEmpty then (p, if opened.length = base ∧ base ≠ 0 then some [] else none)
    else
      match piece d expansion fuel base scope opened p cs with
      | .broken => (p, none)
      | .whole p rest => (p, some rest)
      | .onward scope opened p rest => content d expansion fuel base active scope opened p rest
      | .entity name text rest =>
        let expanded := p.expanded + text.length
        if active.contains name || maxExpansion < expanded then (p, none)
        else
          let inside := content d expansion fuel opened.length (name :: active) scope opened
            { p with expanded } text
          match inside with
          | (q, none) => (if expansion = .replace then q else p, none)
          | (q, some _) =>
            let p := if expansion = .replace then q
              else { p.add (.reference name) with qualified := q.qualified }
            content d expansion fuel base active scope opened p rest

/-! ## Documents -/

/-- What comes after the equals sign and the value of a declaration, and the value. -/
def assigned? (cs : List Char) : Option (String × List Char) :=
  match skipSpace cs with
  | '=' :: rest => (literal? (skipSpace rest)).map fun (v, after) => (String.ofList v, after)
  | _ => none

/-- Whether a text is a version that is known. -/
def isVersion (v : String) : Bool :=
  match v.toList with
  | '1' :: '.' :: digits => !digits.isEmpty && digits.all Char.isDigit
  | _ => false

/-- Whether a text may be the name of an encoding. -/
def isEncodingName (v : String) : Bool :=
  match v.toList with
  | c :: rest => c.isAlpha && rest.all fun c => c.isAlphanum || c = '.' || c = '_' || c = '-'
  | [] => false

/-- What comes after the declaration of a document, and whether the document stands alone. -/
def header? (cs : List Char) : Option (Bool × List Char) := do
  let (version, cs) ← assigned? (← after? "version" (← space? cs))
  if !isVersion version then none
  else
    let cs ← match (space? cs).bind (after? "encoding") with
      | some rest => do
        let (name, rest) ← assigned? rest
        if isEncodingName name then some rest else none
      | none => some cs
    let (alone, cs) ← match (space? cs).bind (after? "standalone") with
      | some rest => do
        let (value, rest) ← assigned? rest
        if value = "yes" || value = "no" then some (decide (value = "yes"), rest) else none
      | none => some (false, cs)
    some (alone, ← after? "?>" (skipSpace cs))

/-- What comes after blanks, comments and instructions, and whether their names are plain. -/
def miscellany? : Nat → Bool → List Char → Option (Bool × List Char)
  | 0, _, _ => none
  | fuel + 1, plain, cs =>
    let cs := skipSpace cs
    match after? "<!--" cs, after? "<?" cs with
    | some rest, _ => do miscellany? fuel plain (← comment? rest)
    | none, some rest => do
      let (p, rest) ← instruction? rest
      miscellany? fuel (plain && p) rest
    | none, none => some (plain, cs)

/-- What stands in front of the root: the declarations, and the root with what comes after it. -/
def prolog? (cs : List Char) : Option (Declarations × List Char) := do
  let (alone, cs) ← match after? "<?xml" cs with
    | some (c :: rest) => if isSpace c then header? (c :: rest) else some (false, cs)
    | _ => some (false, cs)
  let (plain, cs) ← miscellany? (cs.length + 1) true cs
  let (d, cs) ← match after? "<!DOCTYPE" cs with
    | some rest => doctype? rest
    | none => some ({}, cs)
  let (plain, cs) ← miscellany? (cs.length + 1) plain cs
  some ({ d with qualified := d.qualified && plain, isOpen := d.isOpen && !alone }, cs)

/-- The number of characters that the entities of a document have. -/
def Declarations.size (d : Declarations) : Nat :=
  d.entities.foldl (fun n (_, e) => match e with
    | .internal text => n + text.length
    | _ => n) 0

/-- **Reading the characters of a document.** -/
def Reading.ofChars (expansion : Expansion) (cs : List Char) : Reading :=
  match prolog? (unifyLineEnds cs) with
  | some (d, '<' :: root) =>
    match startTag? d root.length .initial [] { qualified := d.qualified } root with
    | none => ⟨[], false⟩
    | some (p, opened, scope, rest) =>
      let (p, after) := if opened.isEmpty then (p, some rest)
        else content d expansion (rest.length + d.size + maxExpansion) 0 [] scope opened p rest
      let complete := match after.bind fun rest => miscellany? (rest.length + 1) true rest with
        | some (plain, []) => plain
        | _ => false
      ⟨p.events.reverse, p.qualified && complete⟩
  | _ => ⟨[], false⟩

/-- **Reading the bytes of a document.** -/
def Reading.ofBytes (expansion : Expansion) (bytes : List UInt8) : Reading :=
  match charsOfBytes bytes with
  | some cs => ofChars expansion cs
  | none => ⟨[], false⟩

/-- The root of a document whose reading found nothing wrong. -/
def Reading.root? (r : Reading) : Option Node :=
  if r.isSound then (nodesOf [] [] r.events).head? else none

end Crosswalk.Xml
