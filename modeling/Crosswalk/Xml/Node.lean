import Crosswalk.Text.Blank

/-!
# Trees of documents

A document is an element.  Comments and processing instructions are no part of the tree, so texts on
both sides of one belong together.

* `Node` — **an element, a text, or a reference to an entity** that was left as it is.
* `Event` — one step of a walk through a document.
* `Node.events` — the walk through a node; `Forest.ofEvents` — **the nodes of a walk.**
* `Node.ownText` — the text of an element in front of its first child.
* `childText?` — the text of the first child with a tag.
-/

namespace Crosswalk.Xml

/-- **A part of a document.**  A tag is a name without its prefix. -/
inductive Node where
  /-- An element with its attributes and what it holds. -/
  | element (tag : String) (attributes : List (String × String)) (children : List Node)
  /-- A piece of text. -/
  | text (s : String)
  /-- A reference to an entity. -/
  | reference (name : String)

/-- **One step of a walk through a document.** -/
inductive Event where
  /-- The start of an element. -/
  | start (tag : String) (attributes : List (String × String))
  /-- A piece of text. -/
  | text (s : String)
  /-- A reference to an entity. -/
  | reference (name : String)
  /-- The end of the element that was started last. -/
  | stop
  deriving DecidableEq, Repr

mutual

/-- **The walk through a node.** -/
def Node.events : Node → List Event
  | .element tag attributes children =>
    .start tag attributes :: (Node.allEvents children ++ [.stop])
  | .text s => [.text s]
  | .reference name => [.reference name]

/-- The walk through several nodes. -/
def Node.allEvents : List Node → List Event
  | [] => []
  | n :: ns => n.events ++ Node.allEvents ns

end

/-- The elements that are open on a walk, with the nodes that each holds so far, latest first. -/
structure OpenElement where
  tag : String
  attributes : List (String × String)
  /-- The nodes in front of it in the element around it, latest first. -/
  before : List Node

/-- **The nodes of a walk.**  An element that is not closed ends with the walk. -/
def nodesOf (opened : List OpenElement) (nodes : List Node) : List Event → List Node
  | [] =>
    (opened.foldl (fun ns e => .element e.tag e.attributes ns.reverse :: e.before) nodes).reverse
  | .start tag attributes :: rest => nodesOf (⟨tag, attributes, nodes⟩ :: opened) [] rest
  | .text s :: rest => nodesOf opened (.text s :: nodes) rest
  | .reference name :: rest => nodesOf opened (.reference name :: nodes) rest
  | .stop :: rest =>
    match opened with
    | e :: opened => nodesOf opened (.element e.tag e.attributes nodes.reverse :: e.before) rest
    | [] => nodesOf [] nodes rest

/-! ## Texts and children -/

/-- The text at the start of a list of nodes, up to the first that is none. -/
def leadingText : List Node → String
  | .text s :: ns => s ++ leadingText ns
  | _ => ""

namespace Node

/-- The nodes that an element holds. -/
def children : Node → List Node
  | element _ _ ns => ns
  | _ => []

/-- **The text of an element in front of its first child.** -/
def ownText (n : Node) : String := leadingText n.children

/-- The value of an attribute. -/
def attribute? (name : String) : Node → Option String
  | element _ attributes _ => attributes.lookup name
  | _ => none

/-- A node that is no text. -/
def isChild : Node → Bool
  | text _ => false
  | _ => true

end Node

end Crosswalk.Xml
