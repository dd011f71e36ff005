import Crosswalk.Mapping.Service

/-!
# Queries of property graphs

The service behind a store keeps a property graph: nodes with labels, links with a type, and
properties of both.  What it is sent is written in a language of patterns.  A query goes through its
clauses with a list of rows, in which letters stand for nodes, links and values.  A pattern finds
more rows, or creates what it does not find; an aggregation puts rows together.

* `PropertyGraph` — **nodes and links.**
* `Cypher.Choices` — what the service is free to choose: the order in which it comes across nodes
  and links, and the numbers of new ones, where those of links grow.
* `Cypher.Pattern`, `Cypher.Clause`, `Cypher.Query` — **the queries**, as far as a store needs
  them.
* `Cypher.Query.text` — how they are written.
* `Cypher.Query.run` — **what they do.**
-/

namespace Crosswalk

/-! ## Property graphs -/

/-- **A value of a property.** -/
inductive Scalar where
  | null
  | bool (b : Bool)
  | int (i : Int)
  | text (s : String)
  deriving DecidableEq

/-- The value in an answer. -/
def Scalar.toJson : Scalar → Json
  | null => .null
  | bool b => .bool b
  | int i => .int i
  | text s => .text s

/-- Properties by their names. -/
abbrev Properties := List (String × Scalar)

/-- The value of a property; nothing, if it is not there. -/
def Properties.valueOf (ps : Properties) (name : String) : Scalar := (ps.lookup name).getD .null

/-- **A node**, known by its number. -/
structure GraphNode where
  id : Nat
  labels : List String
  properties : Properties

/-- The node with other labels, if it has a certain number. -/
def GraphNode.relabel (f : List String → List String) (id : Nat) (n : GraphNode) : GraphNode :=
  if n.id = id then { n with labels := f n.labels } else n

/-- **A link** from one node to another. -/
structure GraphLink where
  id : Nat
  type : String
  head : Nat
  tail : Nat
  properties : Properties

/-- **A property graph**, with its nodes and links in the order in which they were created. -/
structure PropertyGraph where
  nodes : List GraphNode := []
  links : List GraphLink := []

namespace PropertyGraph

/-- The graph without nodes. -/
def empty : PropertyGraph := {}

/-- The node with a number. -/
def node? (g : PropertyGraph) (id : Nat) : Option GraphNode := g.nodes.find? fun n => n.id = id

/-- The link with a number. -/
def link? (g : PropertyGraph) (id : Nat) : Option GraphLink := g.links.find? fun l => l.id = id

/-- The graph with other labels of a node. -/
def relabel (f : List String → List String) (id : Nat) (g : PropertyGraph) : PropertyGraph :=
  { g with nodes := g.nodes.map (GraphNode.relabel f id) }

/-- The graph without a node and its links. -/
def detach (id : Nat) (g : PropertyGraph) : PropertyGraph where
  nodes := g.nodes.filter fun n => n.id ≠ id
  links := g.links.filter fun l => l.head ≠ id ∧ l.tail ≠ id

end PropertyGraph

namespace Cypher

/-- **What the service is free to choose.** -/
structure Choices where
  /-- The order in which nodes are come across. -/
  nodes : PropertyGraph → List GraphNode
  nodes_perm : ∀ g, (nodes g).Perm g.nodes
  /-- The order in which links are come across. -/
  links : PropertyGraph → List GraphLink
  links_perm : ∀ g, (links g).Perm g.links
  /-- The number of a new node. -/
  newNode : PropertyGraph → Nat
  newNode_ne : ∀ g, ∀ n ∈ g.nodes, n.id ≠ newNode g
  /-- The number of a new link. -/
  newLink : PropertyGraph → Nat
  lt_newLink : ∀ g, ∀ l ∈ g.links, l.id < newLink g

/-- The choices of a service that comes across everything in the order in which it was created, and
counts the numbers up. -/
def Choices.inOrder : Choices where
  nodes := PropertyGraph.nodes
  nodes_perm _ := .refl _
  links := PropertyGraph.links
  links_perm _ := .refl _
  newNode g := (g.nodes.map GraphNode.id).max?.getD 0 + 1
  newNode_ne _ _ hn := Nat.ne_of_lt
    (Nat.lt_succ_of_le (List.le_max?_getD_of_mem (List.mem_map_of_mem hn)))
  newLink g := (g.links.map GraphLink.id).max?.getD 0 + 1
  lt_newLink _ _ hl := Nat.lt_succ_of_le (List.le_max?_getD_of_mem (List.mem_map_of_mem hl))

/-! ## The language -/

/-- Names of properties with the parameters that hold their values. -/
abbrev Wanted := List (String × String)

/-- A pattern of a node. -/
structure NodePattern where
  letter : Option String := none
  label : Option String := none
  wanted : Wanted := []

/-- A pattern of a link. -/
structure LinkPattern where
  letter : String
  type : String
  wanted : Wanted := []

/-- **A pattern**: several nodes, or a link between two nodes. -/
inductive Pattern where
  | nodes (ps : List NodePattern)
  | step (front : NodePattern) (link : LinkPattern) (back : NodePattern)

/-- An expression. -/
inductive Expr where
  | letter (l : String)
  | property (l name : String)
  | parameter (name : String)
  | constant (v : Scalar)
  /-- Whether a node has a label. -/
  | hasLabel (label l : String)
  /-- Whether a number is above another one. -/
  | above (l : String) (n : Int)
  /-- Whether a number is at most another one. -/
  | atMost (l : String) (n : Int)

/-- A column of the rows behind a clause. -/
inductive Column where
  /-- A letter that is kept. -/
  | kept (l : String)
  | value (e : Expr) (name : String)
  /-- The number of rows in which a letter stands for something. -/
  | count (l name : String)

/-- A change of the labels of a node. -/
inductive Relabeling where
  | set (l label : String)
  | remove (l label : String)

/-- **A clause.** -/
inductive Clause where
  /-- Finding a pattern.  If it need not be there, its letters stand for nothing then. -/
  | find (optional : Bool) (pattern : Pattern)
  /-- Finding a node, or creating it with further properties. -/
  | mergeNode (pattern : NodePattern) (created : List (String × Expr))
  /-- Finding a link between two nodes, or creating it with further properties. -/
  | mergeLink (front : String) (link : LinkPattern) (back : String)
      (created : List (String × Expr))
  /-- Other columns. -/
  | columns (cs : List Column)
  /-- A change of labels under a condition. -/
  | change (condition : Expr) (relabeling : Relabeling)
  /-- Removing a node with its links. -/
  | delete (l : String)

/-- What is answered. -/
structure Result where
  columns : List Column
  /-- The letter of the nodes or links by whose numbers the rows are sorted. -/
  order : Option String := none
  limit : Option Nat := none

/-- **A query.** -/
inductive Query where
  | clauses (cs : List Clause) (result : Option Result)
  /-- A constraint: no two nodes with a label may have the same value of a property. -/
  | unique (name label property : String)

/-! ## How queries are written -/

/-- Parts with commas between them. -/
def commas (parts : List String) : String := ", ".intercalate parts

/-- Wanted properties between braces. -/
def wantedText (ws : Wanted) : String :=
  if ws.isEmpty then ""
  else " \x7b" ++ commas (ws.map fun (name, parameter) => name ++ ": $" ++ parameter) ++ "\x7d"

def NodePattern.text (p : NodePattern) : String :=
  "(" ++ p.letter.getD "" ++ p.label.elim "" (":" ++ ·) ++ wantedText p.wanted ++ ")"

def LinkPattern.text (p : LinkPattern) : String :=
  "-[" ++ p.letter ++ ":" ++ p.type ++ wantedText p.wanted ++ "]->"

def Pattern.text : Pattern → String
  | nodes ps => commas (ps.map NodePattern.text)
  | step front link back => front.text ++ link.text ++ back.text

/-- A value as it is written; of a text only the simplest ones are. -/
def scalarText : Scalar → String
  | .null => "null"
  | .bool b => if b then "true" else "false"
  | .int i => toString i
  | .text s => "'" ++ s ++ "'"

def Expr.text : Expr → String
  | letter l => l
  | property l name => l ++ "." ++ name
  | parameter name => "$" ++ name
  | constant v => scalarText v
  | hasLabel label l => "'" ++ label ++ "' IN labels(" ++ l ++ ")"
  | above l n => l ++ " > " ++ toString n
  | atMost l n => l ++ " <= " ++ toString n

def Column.text : Column → String
  | kept l => l
  | value e name => e.text ++ " AS " ++ name
  | count l name => "count(" ++ l ++ ") AS " ++ name

def Relabeling.text : Relabeling → String
  | set l label => "SET " ++ l ++ ":" ++ label
  | remove l label => "REMOVE " ++ l ++ ":" ++ label

/-- Further properties of what is created. -/
def createdText (l : String) (created : List (String × Expr)) : String :=
  " ON CREATE SET " ++ commas (created.map fun (name, e) => l ++ "." ++ name ++ " = " ++ e.text)

def Clause.text : Clause → String
  | find optional pattern => (if optional then "OPTIONAL " else "") ++ "MATCH " ++ pattern.text
  | mergeNode pattern created =>
    "MERGE " ++ pattern.text ++ createdText (pattern.letter.getD "") created
  | mergeLink front link back created =>
    "MERGE (" ++ front ++ ")" ++ link.text ++ "(" ++ back ++ ")" ++ createdText link.letter created
  | columns cs => "WITH " ++ commas (cs.map Column.text)
  | change condition relabeling =>
    "FOREACH (_ IN CASE WHEN " ++ condition.text ++ " THEN [1] ELSE [] END | " ++
      relabeling.text ++ ")"
  | delete l => "DETACH DELETE " ++ l

def Result.text (r : Result) : String :=
  "RETURN " ++ commas (r.columns.map Column.text) ++
    r.order.elim "" (fun l => " ORDER BY id(" ++ l ++ ")") ++
    r.limit.elim "" (fun n => " LIMIT " ++ toString n)

/-- **The text of a query.** -/
def Query.text : Query → String
  | clauses cs result => " ".intercalate (cs.map Clause.text ++ (result.map Result.text).toList)
  | unique name label property =>
    "CREATE CONSTRAINT " ++ name ++ " IF NOT EXISTS FOR (n:" ++ label ++ ") REQUIRE n." ++
      property ++ " IS UNIQUE"

/-! ## What queries do -/

/-- What a letter stands for. -/
inductive Bound where
  | node (id : Nat)
  | link (id : Nat)
  | value (v : Scalar)
  deriving DecidableEq

/-- A row: what its letters stand for. -/
abbrev Binding := List (String × Bound)

/-- What a letter stands for; nothing, if the row has not got it. -/
def Binding.get (b : Binding) (l : String) : Bound := (b.lookup l).getD (.value .null)

/-- A row in which a letter stands for something, unless it stands for something else already. -/
def Binding.put (b : Binding) (l : String) (x : Bound) : Option Binding :=
  match b.lookup l with
  | none => some (b ++ [(l, x)])
  | some y => if y = x then some b else none

/-- A row in which a letter, if there is one, stands for something. -/
def Binding.putAt (b : Binding) (l : Option String) (x : Bound) : Option Binding :=
  match l with
  | none => some b
  | some l => b.put l x

section Patterns

variable (c : Choices) (parameters : List (String × String)) (g : PropertyGraph)

/-- Whether properties are as they are wanted. -/
def Wanted.holds (ws : Wanted) (ps : Properties) : Bool :=
  ws.all fun (name, parameter) =>
    match parameters.lookup parameter with
    | some s => ps.lookup name = some (.text s)
    | none => false

/-- The properties that are wanted. -/
def Wanted.properties (ws : Wanted) : Properties :=
  ws.map fun (name, parameter) => (name, (parameters.lookup parameter).elim .null .text)

/-- Whether a node is of a pattern. -/
def NodePattern.fits (p : NodePattern) (n : GraphNode) : Bool :=
  p.label.all n.labels.contains && Wanted.holds parameters p.wanted n.properties

/-- Whether a link is of a pattern. -/
def LinkPattern.fits (p : LinkPattern) (l : GraphLink) : Bool :=
  l.type = p.type && Wanted.holds parameters p.wanted l.properties

/-- The rows in which a node of a pattern is found. -/
def NodePattern.found (p : NodePattern) (b : Binding) : List Binding :=
  (c.nodes g).filterMap fun n =>
    if p.fits parameters n then b.putAt p.letter (.node n.id) else none

/-- The row in which a link is found between nodes of two patterns. -/
def stepAt (front : NodePattern) (link : LinkPattern) (back : NodePattern) (b : Binding)
    (l : GraphLink) : Option Binding := do
  let head ← g.node? l.head
  let tail ← g.node? l.tail
  if front.fits parameters head && link.fits parameters l && back.fits parameters tail then
    let b ← b.putAt front.letter (.node head.id)
    let b ← b.put link.letter (.link l.id)
    b.putAt back.letter (.node tail.id)
  else none

/-- **The rows in which a pattern is found.** -/
def Pattern.found (p : Pattern) (b : Binding) : List Binding :=
  match p with
  | nodes ps => ps.foldl (fun bs p => bs.flatMap (p.found c parameters g)) [b]
  | step front link back => (c.links g).filterMap (stepAt parameters g front link back b)

/-- The letters of a pattern. -/
def Pattern.letters : Pattern → List String
  | nodes ps => ps.filterMap NodePattern.letter
  | step front link back => front.letter.toList ++ link.letter :: back.letter.toList

/-- A row in which the letters of a pattern stand for nothing, where they stand for nothing yet. -/
def Pattern.missed (p : Pattern) (b : Binding) : Binding :=
  p.letters.foldl (fun b l => if (b.lookup l).isSome then b else b ++ [(l, .value .null)]) b

/-- **The value of an expression.** -/
def Expr.eval (b : Binding) : Expr → Bound
  | letter l => b.get l
  | property l name =>
    match b.get l with
    | .node id => .value ((g.node? id).elim .null fun n => n.properties.valueOf name)
    | .link id => .value ((g.link? id).elim .null fun l => l.properties.valueOf name)
    | .value _ => .value .null
  | parameter name => .value ((parameters.lookup name).elim .null .text)
  | constant v => .value v
  | hasLabel label l =>
    match b.get l with
    | .node id => .value ((g.node? id).elim .null fun n => .bool (n.labels.contains label))
    | _ => .value .null
  | above l n =>
    match b.get l with
    | .value (.int i) => .value (.bool (n < i))
    | _ => .value .null
  | atMost l n =>
    match b.get l with
    | .value (.int i) => .value (.bool (i ≤ n))
    | _ => .value .null

/-- The scalar that an expression has for its value. -/
def Expr.scalar (b : Binding) (e : Expr) : Scalar :=
  match e.eval parameters g b with
  | .value v => v
  | _ => .null

/-- The values of further properties. -/
def valuesOf (b : Binding) (created : List (String × Expr)) : Properties :=
  created.map fun (name, e) => (name, e.scalar parameters g b)

/-! ### Columns -/

/-- Whether a column counts rows. -/
def Column.counts : Column → Bool
  | count _ _ => true
  | _ => false

/-- A row by the columns that do not count. -/
def keyOf (cs : List Column) (b : Binding) : Binding :=
  cs.filterMap fun
    | .kept l => some (l, b.get l)
    | .value e name => some (name, e.eval parameters g b)
    | .count _ _ => none

/-- A column of a group of rows. -/
def Column.ofGroup (key : Binding) (members : List Binding) : Column → String × Bound
  | kept l => (l, key.get l)
  | value _ name => (name, key.get name)
  | count l name => (name, .value (.int (members.countP fun b => b.get l ≠ .value .null)))

/-- **Rows with other columns.**  If one of them counts, the rows that agree in all others are put
together.  All rows agree in no column, and so do none. -/
def project (cs : List Column) (bs : List Binding) : List Binding :=
  if cs.any Column.counts then
    let keys := if cs.all Column.counts then [[]] else (bs.map (keyOf parameters g cs)).eraseDups
    keys.map fun key => cs.map
      (Column.ofGroup key (bs.filter fun b => keyOf parameters g cs b = key))
  else bs.map (keyOf parameters g cs)

end Patterns

/-! ### Clauses -/

section Clauses

variable (c : Choices) (parameters : List (String × String))

/-- A node of a pattern found or created for a row. -/
def mergeNodeAt (p : NodePattern) (created : List (String × Expr)) (g : PropertyGraph)
    (b : Binding) : PropertyGraph × List Binding :=
  match p.found c parameters g b with
  | [] =>
    let n : GraphNode := ⟨c.newNode g, p.label.toList,
      Wanted.properties parameters p.wanted ++ valuesOf parameters g b created⟩
    ({ g with nodes := g.nodes ++ [n] }, (b.putAt p.letter (.node n.id)).toList)
  | found => (g, found)

/-- A link found or created for a row, between the nodes that two letters stand for. -/
def mergeLinkAt (front : String) (p : LinkPattern) (back : String) (created : List (String × Expr))
    (g : PropertyGraph) (b : Binding) : PropertyGraph × List Binding :=
  match b.get front, b.get back with
  | .node head, .node tail =>
    match (c.links g).filter fun l => l.head = head ∧ l.tail = tail ∧ p.fits parameters l with
    | [] =>
      let l : GraphLink := ⟨c.newLink g, p.type, head, tail,
        Wanted.properties parameters p.wanted ++ valuesOf parameters g b created⟩
      ({ g with links := g.links ++ [l] }, (b.put p.letter (.link l.id)).toList)
    | found => (g, found.filterMap fun l => b.put p.letter (.link l.id))
  | _, _ => (g, [])

/-- One row after the other, with the graph that the rows in front have led to. -/
def eachRow (f : PropertyGraph → Binding → PropertyGraph × List Binding) (g : PropertyGraph) :
    List Binding → PropertyGraph × List Binding
  | [] => (g, [])
  | b :: bs =>
    let (g, first) := f g b
    let (g, others) := eachRow f g bs
    (g, first ++ others)

/-- The graph with the labels of a node changed. -/
def Relabeling.apply (b : Binding) (g : PropertyGraph) : Relabeling → PropertyGraph
  | set l label =>
    match b.get l with
    | .node id => g.relabel (fun ls => if ls.contains label then ls else ls ++ [label]) id
    | _ => g
  | remove l label =>
    match b.get l with
    | .node id => g.relabel (fun ls => ls.filter (· ≠ label)) id
    | _ => g

/-- **What a clause does** to a graph and to rows. -/
def Clause.run (g : PropertyGraph) (bs : List Binding) : Clause → PropertyGraph × List Binding
  | find optional pattern =>
    (g, bs.flatMap fun b =>
      match pattern.found c parameters g b with
      | [] => if optional then [pattern.missed b] else []
      | found => found)
  | mergeNode pattern created => eachRow (mergeNodeAt c parameters pattern created) g bs
  | mergeLink front link back created =>
    eachRow (mergeLinkAt c parameters front link back created) g bs
  | columns cs => (g, project parameters g cs bs)
  | change condition relabeling =>
    (bs.foldl (fun g b =>
      if condition.scalar parameters g b = .bool true then relabeling.apply b g else g) g, bs)
  | delete l =>
    (bs.foldl (fun g b =>
      match b.get l with
      | .node id => g.detach id
      | _ => g) g, bs)

/-- What clauses do, one after the other. -/
def runAll (g : PropertyGraph) (bs : List Binding) : List Clause → PropertyGraph × List Binding
  | [] => (g, bs)
  | clause :: cs =>
    let (g, bs) := clause.run c parameters g bs
    runAll g bs cs

end Clauses

/-! ### Answers -/

/-- The number of what a letter stands for. -/
def Binding.number (b : Binding) (l : String) : Nat :=
  match b.get l with
  | .node id | .link id => id
  | .value _ => 0

/-- The properties as an object. -/
def objectOf (ps : Properties) : Json := .object (ps.map fun (name, v) => (name, v.toJson))

/-- The value in an answer; of a node or a link, its properties. -/
def Bound.toJson (g : PropertyGraph) : Bound → Json
  | node id => (g.node? id).elim .null fun n => objectOf n.properties
  | link id => (g.link? id).elim .null fun l => objectOf l.properties
  | value v => v.toJson

/-- The rows of an answer. -/
def Result.answers (parameters : List (String × String)) (g : PropertyGraph) (bs : List Binding)
    (r : Result) : List Answer :=
  let sorted := r.order.elim bs fun l => bs.mergeSort fun a b => a.number l ≤ b.number l
  let rows := project parameters g r.columns sorted
  (r.limit.elim rows fun n => rows.take n).map fun b =>
    b.map fun (name, x) => (name, x.toJson g)

/-- **What a query does**: the graph behind it, and the rows of its answer.  Graphs meet all
constraints anyway. -/
def Query.run (c : Choices) (parameters : List (String × String)) (g : PropertyGraph) :
    Query → PropertyGraph × List Answer
  | clauses cs result =>
    let (g, bs) := runAll c parameters g [[]] cs
    (g, result.elim [] (Result.answers parameters g bs))
  | unique _ _ _ => (g, [])

end Cypher

end Crosswalk
