import Crosswalk.Log.Traced
import Crosswalk.Query.Fields
import Crosswalk.Xml.File

/-!
# Query documents

A query document names the label of its root node and describes nodes, each by a label of its own
and the labels of its children.  It need not describe a tree.

* `QueryNode`, `NodeSpec`, `QueryDocument` — **the descriptions.**
* `NodeSpec.ofElement`, `QueryDocument.ofRoot` — reading them from elements.
* `QueryDocument.load` — reading them from a file.
-/

namespace Crosswalk

/-- **A node of a query**, without its children. -/
structure QueryNode where
  /-- The attribute that the node stands for. -/
  name : String
  /-- The label of the node in the query. -/
  label : String
  /-- The steps that its rows go through. -/
  steps : List Step := []
  /-- A remark, if there is one. -/
  theta : Option String := none
  /-- Whether its values are reported. -/
  output : Bool := false
  deriving DecidableEq, Repr

/-- **The description of a node**: the node and the labels of its children. -/
structure NodeSpec extends QueryNode where
  /-- The labels of its children. -/
  children : List String := []
  deriving DecidableEq, Repr

/-- **A query document.** -/
structure QueryDocument where
  /-- The label of the root node. -/
  root : String
  /-- The descriptions in the order in which they are given. -/
  nodes : List NodeSpec
  deriving DecidableEq, Repr

/-- A failure of a document that does not say where it is gets a place. -/
def Error.inPlace (place : String) : Error → Error
  | .parse problem none => .parse problem (some place)
  | e => e

/-- A field that must be given and not be empty. -/
def requiredText (tag place : String) (given : Option String) : Except Error String :=
  match given with
  | some s => if s.isEmpty then .error (.parse (.missingField tag) (some place)) else .ok s
  | none => .error (.parse (.missingField tag) (some place))

/-- **The description of a node from its element.** -/
def NodeSpec.ofElement (n : Xml.Node) (place : String) : Except Error NodeSpec := do
  let name ← Xml.childText n "onnode"
  let label ← Xml.childText n "label"
  let name ← requiredText "onnode" place name
  let label ← requiredText "label" place label
  let fields : Except Error NodeSpec := do
    let children ← Xml.childText n "children"
    let steps ← stepsOf (← Xml.childText n "transformations")
    let theta ← Xml.childText n "theta"
    let output ← outputOf (← Xml.childText n "output")
    .ok ⟨⟨name, label, steps, thetaOf theta, output⟩, childrenOf children⟩
  fields.mapError (Error.inPlace (place ++ "[" ++ label ++ "]"))

/-- The descriptions among the children of the root, behind those that are read already; no label
is described twice. -/
def nodeSpecs (source : String) (seen : List NodeSpec) :
    List Xml.Node → Except Error (List NodeSpec)
  | [] => .ok seen
  | n :: ns =>
    if n.isChild then do
      if (← n.tag) = "node" then do
        let place := source ++ ":node[" ++ toString seen.length ++ "]"
        let spec ← NodeSpec.ofElement n place
        if seen.any (·.label = spec.label) then
          .error (.schema (.duplicateLabel spec.label source))
        else nodeSpecs source (seen ++ [spec]) ns
      else nodeSpecs source seen ns
    else nodeSpecs source seen ns

/-- **A query document from its root.** -/
def QueryDocument.ofRoot (n : Xml.Node) (source : String) : Except Error QueryDocument := do
  let tag ← n.tag
  if tag ≠ "query" then .error (.parse (.otherRoot tag) (some source))
  else do
    let root ← requiredText "rootnode" source (← Xml.childText n "rootnode")
    let nodes ← nodeSpecs source [] n.children
    .ok ⟨root, nodes⟩

/-- **A query document from a file.** -/
def QueryDocument.load (fs : Files) (path : Path) : Traced QueryDocument := do
  Traced.note .info "query.query_parser" ("Loading query from " ++ path.text)
  let root ← Traced.of (Xml.readDocument fs path)
  let document ← Traced.of (QueryDocument.ofRoot root path.text)
  Traced.note .debug "query.query_parser" ("Parsed query document " ++ path.text ++ ": root " ++
    document.root ++ ", " ++ toString document.nodes.length ++ " nodes")
  return document

end Crosswalk
