/-!
# Attributes and joins

What the mapping graph is about.  An attribute is a named concept.  A join leads from one attribute
to another and says in which source, and at which positions of it, the values of both are found.

* `Attribute`, `Joining`, `JoinEdge` — attributes, and joins between them.
* `MappingRecord` — **a join with both of its attributes**, as mapping documents give it.
* `LoadSummary` — what loading records has led to.
-/

namespace Crosswalk

/-- **An attribute.** -/
structure Attribute where
  name : String
  description : String := ""
  /-- Whether more than one join leads away from it. -/
  primary : Bool := false
  deriving DecidableEq, Repr

/-- How values are joined: where pairs of them are found. -/
structure Joining where
  /-- The name of the source. -/
  datasource : String
  query : String := ""
  /-- The position of the key. -/
  key : String
  /-- The position of the value. -/
  value : String
  deriving DecidableEq, Repr

/-- **A join between two attributes.** -/
structure JoinEdge extends Joining where
  head : String
  tail : String
  selected : Bool := false
  deriving DecidableEq, Repr

/-- **A join with both of its attributes.** -/
structure MappingRecord extends Joining where
  head : Attribute
  tail : Attribute
  deriving DecidableEq, Repr

/-- **What loading records has led to**: how many records there were, and what the store holds. -/
structure LoadSummary where
  records : Nat
  attributes : Nat
  edges : Nat
  deriving DecidableEq, Repr

/-- A join in words. -/
def edgeText (head tail : String) : String := "edge \"" ++ head ++ "\" -> \"" ++ tail ++ "\""

end Crosswalk
