import Crosswalk.Json.Equality
import Crosswalk.Mapping.Statement
import Crosswalk.Mapping.Store
import Crosswalk.Text.Split

/-!
# Stores behind a service

A store may be a service elsewhere that answers statements with rows.  How statements get there and
how rows come back is left open.

* `Connection` — **what can be done with a service.**
* `Connection.throughSessions` — what becomes of statements on their way.
* `Endpoint.checkAddress` — the addresses that a service can have.
* `serviceStore` — **the store behind a connection.**
-/

namespace Crosswalk

/-- A row of an answer: values by name. -/
abbrev Answer := List (String × Json)

/-- **What can be done with a service.** -/
structure Connection (σ : Type) where
  /-- Makes sure that the service is there. -/
  reach : Action σ Unit
  /-- Sends a statement. -/
  ask : Statement → Action σ (List Answer)
  /-- Ends the connection. -/
  close : Action σ Unit

/-- **Where a service is, and who uses it.** -/
structure Endpoint where
  address : String := "bolt://localhost:7687"
  user : String := "neo4j"
  password : String := "12345678"
  database : String := "neo4j"
  deriving DecidableEq, Repr

namespace Endpoint

/-- Whether a character may stand in the kind of an address. -/
def isSchemeChar (c : Char) : Bool := c.isAlphanum || c == '+' || c == '-' || c == '.'

/-- An address without blanks in front, tabs and line ends. -/
def tidy (address : String) : List Char :=
  (address.toList.dropWhile fun c => c.toNat ≤ 0x20).filter fun c =>
    c != '\t' && c != '\r' && c != '\n'

/-- The kind of an address, and what comes after it. -/
def schemeOf (cs : List Char) : String × List Char :=
  match cs.takeWhile (· != ':'), cs.dropWhile (· != ':') with
  | c :: name, _ :: rest =>
    if c.isAlpha && name.all isSchemeChar then
      ((String.ofList (c :: name)).map Char.toLower, rest)
    else ("", cs)
  | _, _ => ("", cs)

/-- The part of an address that names a host. -/
def hostPart : List Char → List Char
  | '/' :: '/' :: rest => rest.takeWhile fun c => c != '/' && c != '?' && c != '#'
  | _ => []

/-- What stands in front of the host: the name of a user, and a password behind a colon. -/
def userPart (host : List Char) : List Char × List Char :=
  match host.reverse.dropWhile (· != '@') with
  | _ :: front =>
    let (user, password) := splitFirst ':' front.reverse
    (user, password.getD [])
  | [] => ([], [])

/-- **Whether a service can have an address**: its kind is known, and it tells no user. -/
def checkAddress (address : String) : Except Cause Unit :=
  let (scheme, rest) := schemeOf (tidy address)
  let host := hostPart rest
  let (user, password) := userPart host
  if host.contains '[' != host.contains ']' then .error (.fault .wrongValue)
  else if !user.isEmpty then .error (.malformedAddress .user)
  else if !password.isEmpty then .error (.malformedAddress .password)
  else if scheme = "bolt+routing" then .error (.malformedAddress (.renamed scheme))
  else if scheme ∈ addressSchemes then .ok ()
  else .error (.malformedAddress (.unknownScheme scheme))

/-- An endpoint with an address that a service can have. -/
def checked (e : Endpoint) : Except Error Endpoint :=
  match checkAddress e.address with
  | .ok () => .ok e
  | .error cause => .error (.connection (.endpoint e.address cause))

/-- Who is named to the service; nobody, if the user has no name. -/
def credentials (e : Endpoint) : Option (String × String) :=
  if e.user.isEmpty then none else some (e.user, e.password)

end Endpoint

/-! ## Answers -/

namespace Answer

/-- A value that a row must have. -/
def required (row : Answer) (name : String) : Except Error Json :=
  match row.lookup name with
  | some j => .ok j
  | none => .error (.plain (.missingMember name))

/-- A value of a row, where an empty one is as good as none. -/
def orEmpty (row : Answer) (name : String) : Json :=
  match row.lookup name with
  | some j => if j.isTrue then j else .text ""
  | none => .text ""

/-- Whether a value is above zero, which only numbers can be. -/
def isPositive (j : Json) : Except Error Bool :=
  match j.number? with
  | some v => .ok (Value.compareReals? v (.int 0) == some .gt)
  | none => .error (.plain (.fault .wrongType))

/-- The text of a value. -/
def shown : Json → String
  | .text s => s
  | .int i => toString i
  | .float x => x.text .number
  | .bool b => if b then "True" else "False"
  | .null => "None"
  | j => j.compact

/-- What is wrong with values that should be texts. -/
def notTexts (fields : List (String × Json)) : Error :=
  .fields (fields.filterMap fun (name, j) => if j.isText then none else some (.notText name))

/-- The attribute of a row. -/
def toAttribute (row : Answer) : Except Error Attribute := do
  let name ← row.required "name"
  let description := row.orEmpty "description"
  let primary := ((row.lookup "primary").map Json.isTrue).getD false
  match name, description with
  | .text n, .text d => .ok ⟨n, d, primary⟩
  | _, _ => .error (notTexts [("name", name), ("description", description)])

/-- The join of a row. -/
def toJoin (head tail : String) (row : Answer) : Except Error JoinEdge := do
  let datasource ← row.required "datasource"
  let query := row.orEmpty "query"
  let key ← row.required "key"
  let value ← row.required "value"
  let selected := (row.lookup "selected").getD .null
  let isSelected := selected.equals (.bool true) || selected.equals (.text "true")
  match datasource, query with
  | .text d, .text q => .ok ⟨⟨d, q, shown key, shown value⟩, head, tail, isSelected⟩
  | _, _ => .error (notTexts [("datasource", datasource), ("query", query)])

/-- The number that a counting statement is answered with. -/
def count (rows : List Answer) : Except Error Nat :=
  match rows with
  | [] => .ok 0
  | row :: _ => do
    match ← row.required "cnt" with
    | .int n => .ok n.toNat
    | _ => .error (.plain (.fault .wrongType))

end Answer

/-! ## Sessions -/

/-- The name under which a session takes the text of a statement. -/
def sessionWord : String := "query"

/-- **A connection whose statements go through sessions.**  A session takes the text of a statement
and its parameters by their names, so no parameter may be named as the text is. -/
def Connection.throughSessions {σ : Type} (c : Connection σ) : Connection σ where
  reach := c.reach
  ask s :=
    if s.parameters.any fun (name, _) => name = sessionWord then
      Action.of (.error (.plain (.fault .wrongType)))
    else c.ask s
  close := c.close

/-! ## The store -/

namespace Connection

variable {σ : Type}

/-- Whether there is an attribute with a name. -/
def hasAttribute (c : Connection σ) (name : String) : Action σ Bool := do
  return !(← c.ask (.findName name)).isEmpty

/-- A round trip, and the names made unique. -/
def greet (c : Connection σ) : Action σ (List Answer) := do
  c.reach
  let rows ← c.ask .ping
  let _ ← c.ask .requireUniqueNames
  return rows

/-- **The service is there and answers as it should.** -/
def verify (c : Connection σ) (address : String) : Action σ Unit := do
  match ← c.greet.outcome with
  | .error (.plain cause) => Action.of (.error (.connection (.unreachable address cause)))
  | .error e => Action.of (.error e)
  | .ok rows =>
    match rows.head?.bind fun row => row.lookup "ok" with
    | some answer =>
      if answer.equals (.int 1) then
        Action.note .debug "graph_store.neo4j_store" ("Connected to Neo4j at " ++ address)
      else Action.of (.error (.connection (.unexpectedAnswer address)))
    | none => Action.of (.error (.connection (.unexpectedAnswer address)))

/-- An attribute added, unless it is there. -/
def upsert (c : Connection σ) (name description : String) : Action σ Bool := do
  if ← c.hasAttribute name then return false
  else
    let _ ← c.ask (.mergeAttribute name description)
    return true

/-- The attribute with a name. -/
def attribute? (c : Connection σ) (name : String) : Action σ (Option Attribute) := do
  match ← c.ask (.getAttribute name) with
  | [] => return none
  | row :: _ => return some (← Action.of row.toAttribute)

/-- The primary flag of an attribute found out anew. -/
def recomputePrimary (c : Connection σ) (name : String) : Action σ Bool := do
  match ← c.ask (.recomputePrimary name) with
  | [] => return false
  | row :: _ => return (← Action.of (row.required "primary")).isTrue

/-- A join added.  If nothing is counted, an attribute is missing. -/
def join (c : Connection σ) (head tail : String) (j : Joining) : Action σ Unit := do
  let isThere ← match ← c.ask (.mergeJoin head tail j) with
    | [] => pure false
    | row :: _ => Action.of (do Answer.isPositive (← row.required "cnt"))
  if isThere then pure ()
  else
    let missing := if ← c.hasAttribute head then tail else head
    Action.of (.error (.missingAttribute missing (edgeText head tail)))

/-- The joins between two attributes. -/
def joinsBetween (c : Connection σ) (head tail : String) : Action σ (List JoinEdge) := do
  let rows ← c.ask (.findJoins head tail)
  Action.of (rows.mapM (Answer.toJoin head tail))

/-- Everything removed. -/
def reset (c : Connection σ) : Action σ Unit := do
  let _ ← c.ask .clear
  Action.note .debug "graph_store.neo4j_store" "Cleared the graph"

/-- How many rows a counting statement counts. -/
def count (c : Connection σ) (s : Statement) : Action σ Nat := do
  Action.of (Answer.count (← c.ask s))

end Connection

/-- **The store behind a connection** to a service at an address. -/
def serviceStore {σ : Type} (c : Connection σ) (address : String) : Store σ where
  provider := "neo4j"
  verify := c.verify address
  close := c.close
  hasAttribute := c.hasAttribute
  upsert := c.upsert
  attribute? := c.attribute?
  recomputePrimary := c.recomputePrimary
  join := c.join
  joinsBetween := c.joinsBetween
  reset := c.reset
  attributeCount := c.count .countAttributes
  edgeCount := c.count .countJoins

end Crosswalk
