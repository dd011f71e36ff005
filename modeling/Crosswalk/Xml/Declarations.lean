import Crosswalk.Xml.Encoding
import Crosswalk.Xml.Name

/-!
# What a document declares

In front of its root a document may declare entities and default values of attributes.

* `Reference` — a character by its code, or an entity by its name.
* `Entity` — the text of an entity, or that it lies outside of the document.
* `Declarations` — **what is declared.**
* `attributeValue?` — the value of an attribute, references replaced and blanks made spaces.
* `doctype?` — the declarations of a document.
-/

namespace Crosswalk.Xml

/-! ## References -/

/-- What stands between an ampersand and a semicolon. -/
inductive Reference where
  /-- A character by its code. -/
  | char (c : Char)
  /-- An entity by its name. -/
  | entity (name : String)

/-- The entities that every document has. -/
def predefined : List (String × Char) :=
  [("lt", '<'), ("gt", '>'), ("amp", '&'), ("quot", '"'), ("apos", '\'')]

/-- The value of a digit. -/
def digitOf? (base : Nat) (c : Char) : Option Nat :=
  let n :=
    if '0' ≤ c ∧ c ≤ '9' then c.toNat - '0'.toNat
    else if 'a' ≤ c ∧ c ≤ 'f' then c.toNat - 'a'.toNat + 10
    else if 'A' ≤ c ∧ c ≤ 'F' then c.toNat - 'A'.toNat + 10
    else base
  if n < base then some n else none

/-- The code that digits up to a semicolon give. -/
def codeUpTo (base : Nat) (digits : List Char) : Option Nat :=
  if digits.isEmpty then none
  else digits.foldlM (fun n c => (digitOf? base c).map fun d => min (n * base + d) 0x110000) 0

/-- **A reference behind its ampersand**, and what comes after its semicolon. -/
def reference? (cs : List Char) : Option (Reference × List Char) :=
  match cs with
  | '#' :: rest =>
    let (base, digits) := match rest with
      | 'x' :: rest => (16, rest)
      | _ => (10, rest)
    match codeUpTo base (digits.takeWhile (· != ';')), digits.dropWhile (· != ';') with
    | some n, _ :: after =>
      let c := Char.ofNat n
      if n < 0x110000 && c.toNat = n && isLegal c && n != 0 then some (.char c, after) else none
    | _, _ => none
  | _ =>
    match takeName cs with
    | some (name, ';' :: after) =>
      match predefined.lookup name with
      | some c => some (.char c, after)
      | none => some (.entity name, after)
    | _ => none

/-! ## Declarations -/

/-- **An entity.** -/
inductive Entity where
  /-- An entity with its text. -/
  | internal (text : List Char)
  /-- An entity that lies outside of the document. -/
  | external
  /-- An entity that is no markup. -/
  | unparsed

/-- **What a document declares.** -/
structure Declarations where
  /-- The entities of the content. -/
  entities : List (String × Entity) := []
  /-- The entities of the declarations. -/
  parameters : List (String × Entity) := []
  /-- The default values of attributes: element, attribute and value. -/
  defaults : List (String × String × String) := []
  /-- Further declarations may stand outside of the document. -/
  isOpen : Bool := false
  /-- No name breaks the rules for prefixes. -/
  qualified : Bool := true

/-- The declarations with one more entity, unless one of its name is there. -/
def Declarations.addEntity (d : Declarations) (name : String) (e : Entity) : Declarations :=
  if (d.entities.lookup name).isSome then d else { d with entities := d.entities ++ [(name, e)] }

/-- The declarations with one more parameter entity, unless one of its name is there. -/
def Declarations.addParameter (d : Declarations) (name : String) (e : Entity) : Declarations :=
  if (d.parameters.lookup name).isSome then d
  else { d with parameters := d.parameters ++ [(name, e)] }

/-! ## Attribute values -/

/-- The characters of an attribute value: references replaced and blanks made spaces.  An entity
must not hold the start of a tag, nor itself. -/
def normalized (d : Declarations) : Nat → List String → List Char → Option (List Char)
  | 0, _, _ => none
  | _ + 1, _, [] => some []
  | fuel + 1, active, c :: cs =>
    if c = '<' || !isLegal c then none
    else if c = '&' then
      match reference? cs with
      | none => none
      | some (.char r, rest) => (normalized d fuel active rest).map (r :: ·)
      | some (.entity name, rest) =>
        if active.contains name then none
        else match d.entities.lookup name with
          | some (.internal text) => do
            let replaced ← normalized d fuel (name :: active) text
            let others ← normalized d fuel active rest
            some (replaced ++ others)
          | some _ => none
          | none => if d.isOpen then normalized d fuel active rest else none
    else (normalized d fuel active cs).map ((if isSpace c then ' ' else c) :: ·)

/-- The characters between quotes, and what comes after them. -/
def literal? : List Char → Option (List Char × List Char)
  | q :: rest =>
    if q = '"' || q = '\'' then
      match rest.dropWhile (· != q) with
      | _ :: after => some (rest.takeWhile (· != q), after)
      | [] => none
    else none
  | [] => none

/-- **The value of an attribute** between its quotes, and what comes after it. -/
def attributeValue? (d : Declarations) (cs : List Char) : Option (String × List Char) := do
  let (raw, rest) ← literal? cs
  let size := d.entities.foldl (fun n (_, e) => match e with
    | .internal text => n + text.length + 1
    | _ => n + 1) (raw.length + 1)
  let value ← normalized d size [] raw
  some (String.ofList value, rest)

/-! ## Comments and instructions -/

/-- What comes after a comment, behind its start.  Two hyphens only stand at its end. -/
def comment? : List Char → Option (List Char)
  | '-' :: '-' :: '>' :: rest => some rest
  | '-' :: '-' :: _ => none
  | c :: rest => if isLegal c then comment? rest else none
  | [] => none

/-- What comes after the end of an instruction. -/
def instructionEnd? : List Char → Option (List Char)
  | '?' :: '>' :: rest => some rest
  | c :: rest => if isLegal c then instructionEnd? rest else none
  | [] => none

/-- What comes after an instruction, behind its start, and whether its name has no colon. -/
def instruction? (cs : List Char) : Option (Bool × List Char) := do
  let (name, rest) ← takeName cs
  if name.toLower = "xml" then none
  else
    let rest ← match rest with
      | '?' :: '>' :: after => some after
      | _ => (space? rest).bind instructionEnd?
    some (!name.toList.contains ':', rest)

/-! ## The declarations in front of the root -/

/-- Whether a character may stand in a public identifier. -/
def isPublicChar (c : Char) : Bool :=
  c.isAlphanum || " \r\n-'()+,./:=?;!*#@$_%".toList.contains c

/-- What comes after a public identifier between quotes. -/
def publicId? (cs : List Char) : Option (List Char) := do
  let (raw, rest) ← literal? cs
  if raw.all isPublicChar then some rest else none

/-- What comes after a system identifier between quotes. -/
def systemId? (cs : List Char) : Option (List Char) := do
  let (raw, rest) ← literal? cs
  if raw.all isLegal then some rest else none

/-- What comes after a name of something that lies outside of the document. -/
def externalId? (cs : List Char) : Option (List Char) :=
  match after? "SYSTEM" cs, after? "PUBLIC" cs with
  | some rest, _ => do systemId? (← space? rest)
  | none, some rest => do systemId? (← space? (← publicId? (← space? rest)))
  | none, none => none

/-- The text of an entity: characters by their codes are replaced, entities are left. -/
def entityText? : Nat → List Char → Option (List Char)
  | 0, _ => none
  | _ + 1, [] => some []
  | fuel + 1, c :: cs =>
    if c = '%' || !isLegal c then none
    else if c = '&' then
      match cs with
      | '#' :: _ =>
        match reference? cs with
        | some (.char r, rest) => (entityText? fuel rest).map (r :: ·)
        | _ => none
      | _ =>
        match takeName cs with
        | some (name, ';' :: rest) =>
          (entityText? fuel rest).map fun out => '&' :: (name.toList ++ ';' :: out)
        | _ => none
    else (entityText? fuel cs).map (c :: ·)

/-- What comes after the end of a declaration. -/
def declarationEnd? (cs : List Char) : Option (List Char) :=
  match skipSpace cs with
  | '>' :: rest => some rest
  | _ => none

/-- The declaration of an entity, behind its first word. -/
def entityDeclaration? (d : Declarations) (cs : List Char) :
    Option (Declarations × List Char) := do
  let cs ← space? cs
  let (isParameter, cs) ← match cs with
    | '%' :: rest => (space? rest).map fun rest => (true, rest)
    | _ => some (false, cs)
  let (name, cs) ← takeName cs
  let d := if name.toList.contains ':' then { d with qualified := false } else d
  let cs ← space? cs
  match literal? cs with
  | some (raw, rest) => do
    let text ← entityText? (raw.length + 1) raw
    let rest ← declarationEnd? rest
    let e := Entity.internal text
    some (if isParameter then d.addParameter name e else d.addEntity name e, rest)
  | none => do
    let rest ← externalId? cs
    let marked := (space? rest).bind (after? "NDATA")
    match marked with
    | some rest => do
      let (_, rest) ← takeName (← space? rest)
      let rest ← declarationEnd? rest
      if isParameter then none else some (d.addEntity name .unparsed, rest)
    | none => do
      let rest ← declarationEnd? rest
      some (if isParameter then d.addParameter name .external else d.addEntity name .external, rest)

/-- **What comes after names between brackets**, behind their opening bracket: one or more, with
bars between them.  `take` takes a name. -/
def choicesEnd? (take : List Char → Option (String × List Char)) : Nat → List Char →
    Option (List Char)
  | 0, _ => none
  | fuel + 1, cs => do
    let (_, rest) ← take (skipSpace cs)
    match skipSpace rest with
    | ')' :: rest => some rest
    | '|' :: rest => choicesEnd? take fuel rest
    | _ => none

/-- What comes after the kind of an attribute. -/
def attributeKind? (cs : List Char) : Option (List Char) :=
  match cs with
  | '(' :: rest => choicesEnd? takeWord rest.length rest
  | _ =>
    match after? "NOTATION" cs with
    | some rest =>
      match space? rest with
      | some ('(' :: rest) => choicesEnd? takeName rest.length rest
      | _ => none
    | none =>
      ["CDATA", "IDREFS", "IDREF", "ID", "ENTITIES", "ENTITY", "NMTOKENS", "NMTOKEN"].findSome?
        fun word => after? word cs

/-- The attributes of an element with their default values, up to the end of the declaration. -/
def attributeDeclarations? (element : String) : Nat → Declarations → List Char →
    Option (Declarations × List Char)
  | 0, _, _ => none
  | fuel + 1, d, cs =>
    match declarationEnd? cs with
    | some rest => some (d, rest)
    | none => do
      let (name, cs) ← takeName (← space? cs)
      let cs ← attributeKind? (← space? cs)
      let cs ← space? cs
      match (after? "#REQUIRED" cs).orElse fun _ => after? "#IMPLIED" cs with
      | some rest => attributeDeclarations? element fuel d rest
      | none => do
        let cs ← match after? "#FIXED" cs with
          | some rest => space? rest
          | none => some cs
        let (value, rest) ← attributeValue? d cs
        attributeDeclarations? element fuel
          { d with defaults := d.defaults ++ [(element, name, value)] } rest

/-- What comes after a sign of how often something may stand. -/
def afterOccurrence : List Char → List Char
  | '*' :: rest | '+' :: rest | '?' :: rest => rest
  | cs => cs

/-- **What comes after a group of elements**, behind its opening bracket.  A group holds names and
groups with one sign between all of them: a comma if they follow each other, a bar if one of them
is to stand. -/
def groupEnd? : Nat → (sign : Option Char) → List Char → Option (List Char)
  | 0, _, _ => none
  | fuel + 1, sign, cs => do
    let rest ← match skipSpace cs with
      | '(' :: rest => groupEnd? fuel none rest
      | cs => (takeName cs).map Prod.snd
    match skipSpace (afterOccurrence rest) with
    | ')' :: rest => some rest
    | c :: rest =>
      if (c = ',' || c = '|') && sign.all (· = c) then groupEnd? fuel (some c) rest else none
    | [] => none

/-- What comes after text mixed with elements, behind the word for text. -/
def mixedEnd? (cs : List Char) : Option (List Char) :=
  match skipSpace cs with
  | ')' :: '*' :: rest => some rest
  | ')' :: rest => some rest
  | '|' :: rest => do after? "*" (← choicesEnd? takeName rest.length rest)
  | _ => none

/-- What comes after the declaration of an element, behind its first word. -/
def elementDeclaration? (cs : List Char) : Option (List Char) := do
  let (_, cs) ← takeName (← space? cs)
  let cs ← space? cs
  match cs with
  | '(' :: rest => do
    let rest ← match after? "#PCDATA" (skipSpace rest) with
      | some rest => mixedEnd? rest
      | none => (groupEnd? rest.length none rest).map afterOccurrence
    declarationEnd? rest
  | _ => do
    let rest ← (after? "EMPTY" cs).orElse fun _ => after? "ANY" cs
    declarationEnd? rest

/-- What comes after the declaration of a notation, behind its first word. -/
def notationDeclaration? (cs : List Char) : Option (List Char) := do
  let (_, cs) ← takeName (← space? cs)
  let cs ← space? cs
  match externalId? cs with
  | some rest => declarationEnd? rest
  | none => do
    declarationEnd? (← publicId? (← space? (← after? "PUBLIC" cs)))

/-- **The declarations up to a closing bracket**, and what comes after it. -/
def declarations? : Nat → Declarations → List Char → Option (Declarations × List Char)
  | 0, _, _ => none
  | fuel + 1, d, cs =>
    match cs with
    | [] => none
    | ']' :: rest => some (d, rest)
    | '%' :: rest =>
      match takeName rest with
      | some (name, ';' :: rest) =>
        let d := { d with isOpen := true }
        match d.parameters.lookup name with
        | some (.internal text) => declarations? fuel d (' ' :: (text ++ ' ' :: rest))
        | _ => declarations? fuel d rest
      | _ => none
    | c :: rest =>
      if isSpace c then declarations? fuel d rest
      else
        match after? "<!--" cs, after? "<?" cs with
        | some rest, _ => do declarations? fuel d (← comment? rest)
        | none, some rest => do
          let (plain, rest) ← instruction? rest
          declarations? fuel { d with qualified := d.qualified && plain } rest
        | none, none =>
          match after? "<!ENTITY" cs, after? "<!ATTLIST" cs, after? "<!ELEMENT" cs,
              after? "<!NOTATION" cs with
          | some rest, _, _, _ => do
            let (d, rest) ← entityDeclaration? d rest
            declarations? fuel d rest
          | _, some rest, _, _ => do
            let (element, rest) ← takeName (← space? rest)
            let (d, rest) ← attributeDeclarations? element rest.length d rest
            declarations? fuel d rest
          | _, _, some rest, _ => do declarations? fuel d (← elementDeclaration? rest)
          | _, _, _, some rest => do declarations? fuel d (← notationDeclaration? rest)
          | _, _, _, _ => none

/-- **The declarations of a document**, behind the first word of its document type. -/
def doctype? (cs : List Char) : Option (Declarations × List Char) := do
  let (name, cs) ← takeName (← space? cs)
  let d : Declarations := { qualified := (QualifiedName.ofName? name).isSome }
  let (d, cs) ← match space? cs with
    | none => some (d, cs)
    | some cs =>
      match externalId? cs with
      | some rest => some ({ d with isOpen := true }, skipSpace rest)
      | none => some (d, cs)
  match cs with
  | '[' :: rest => do
    let (d, rest) ← declarations? (rest.length * 2 + 1) d rest
    let rest ← declarationEnd? rest
    some (d, rest)
  | _ => do
    let rest ← declarationEnd? cs
    some (d, rest)

end Crosswalk.Xml
