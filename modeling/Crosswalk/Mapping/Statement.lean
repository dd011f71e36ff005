import Crosswalk.Json.Value
import Crosswalk.Mapping.Record

/-!
# Statements

What is sent to a graph service: a text in the language of the service, and values for the
parameters that the text names.

* `Statement` — **the statements of a store.**
* `Statement.text`, `Statement.parameters` — what is sent.
-/

namespace Crosswalk

/-- **The statements of a store.** -/
inductive Statement where
  /-- A round trip. -/
  | ping
  /-- No two attributes may have the same name. -/
  | requireUniqueNames
  /-- The name of an attribute, if it is there. -/
  | findName (name : String)
  /-- An attribute that may be there already. -/
  | mergeAttribute (name description : String)
  /-- Everything about an attribute. -/
  | getAttribute (name : String)
  /-- A join that may be there already, if both attributes are there. -/
  | mergeJoin (head tail : String) (joining : Joining)
  /-- The primary flag of an attribute from the number of its joins. -/
  | recomputePrimary (name : String)
  /-- The joins between two attributes. -/
  | findJoins (head tail : String)
  /-- Everything is removed. -/
  | clear
  | countAttributes
  | countJoins
  deriving DecidableEq, Repr

namespace Statement

/-- The pattern of an attribute that is named by a parameter. -/
def attributePattern (letter parameter : String) : String :=
  "(" ++ letter ++ ":attribute \x7bname: $" ++ parameter ++ "\x7d)"

/-- **The text of a statement.** -/
def text : Statement → String
  | ping => "RETURN 1 AS ok"
  | requireUniqueNames =>
    "CREATE CONSTRAINT attribute_name IF NOT EXISTS FOR (n:attribute) REQUIRE n.name IS UNIQUE"
  | findName _ => "MATCH " ++ attributePattern "n" "name" ++ " RETURN n.name AS name LIMIT 1"
  | mergeAttribute _ _ =>
    "MERGE " ++ attributePattern "n" "name" ++ " ON CREATE SET n.description = $description"
  | getAttribute _ =>
    "MATCH " ++ attributePattern "n" "name" ++
      " RETURN n.name AS name, n.description AS description, 'primary' IN labels(n) AS primary"
  | mergeJoin _ _ _ =>
    "MATCH " ++ attributePattern "a" "head" ++ ", " ++ attributePattern "b" "tail" ++
      " MERGE (a)-[r:has \x7bdatasource: $datasource, query: $query, key: $key, value: $value" ++
      "\x7d]->(b) ON CREATE SET r.selected = false RETURN count(r) AS cnt"
  | recomputePrimary _ =>
    "MATCH " ++ attributePattern "n" "name" ++ " OPTIONAL MATCH (n)-[r:has]->() " ++
      "WITH n, count(r) AS cnt " ++
      "FOREACH (_ IN CASE WHEN cnt > 1 THEN [1] ELSE [] END | SET n:primary) " ++
      "FOREACH (_ IN CASE WHEN cnt <= 1 THEN [1] ELSE [] END | REMOVE n:primary) " ++
      "RETURN cnt > 1 AS primary"
  | findJoins _ _ =>
    "MATCH " ++ attributePattern "a" "head" ++ "-[r:has]->" ++ attributePattern "b" "tail" ++
      " RETURN r.datasource AS datasource, r.query AS query, " ++
      "r.key AS key, r.value AS value, r.selected AS selected ORDER BY id(r)"
  | clear => "MATCH (n) DETACH DELETE n"
  | countAttributes => "MATCH (n:attribute) RETURN count(n) AS cnt"
  | countJoins => "MATCH (:attribute)-[r:has]->(:attribute) RETURN count(r) AS cnt"

/-- **The values for the parameters of a statement.** -/
def parameters : Statement → List (String × String)
  | findName name | getAttribute name | recomputePrimary name => [("name", name)]
  | mergeAttribute name description => [("name", name), ("description", description)]
  | mergeJoin head tail j =>
    [("head", head), ("tail", tail), ("datasource", j.datasource), ("query", j.query),
      ("key", j.key), ("value", j.value)]
  | findJoins head tail => [("head", head), ("tail", tail)]
  | ping | requireUniqueNames | clear | countAttributes | countJoins => []

end Statement

end Crosswalk
