import Crosswalk.Formula.Term

/-!
# Failures

Every failure says what was wrong, where, and what lies behind it.

* `Cause` — what lies behind a failure: a computation, a file, a document that is none.
* `ParseProblem`, `SchemaProblem`, `SourceProblem`, `ConnectionProblem`, `EvaluationProblem`,
  `FieldProblem` — what can be wrong with documents, sources, stores, evaluations and settings.
* `Error` — **a failure of the library.**
* `Error.message` — its text.  The words for a cause are a parameter.
-/

namespace Crosswalk

/-! ## Causes -/

/-- What is wrong with the address of a graph service. -/
inductive AddressProblem where
  /-- It names a user. -/
  | user
  /-- It names a password. -/
  | password
  /-- It is of a kind that has another name by now. -/
  | renamed (scheme : String)
  /-- It is of a kind that does not exist. -/
  | unknownScheme (scheme : String)
  deriving DecidableEq, Repr

/-- **What lies behind a failure.** -/
inductive Cause where
  /-- A computation on values. -/
  | fault (f : Fault)
  /-- A text that is no formula. -/
  | malformedFormula
  /-- A document that is not well formed. -/
  | malformedDocument
  /-- A text that is not JSON. -/
  | malformedJson
  /-- Bytes that are not UTF-8. -/
  | malformedBytes
  /-- A member that a JSON object lacks. -/
  | missingMember (name : String)
  /-- A JSON value of another kind than the one that is needed. -/
  | otherKind
  /-- A JSON list that cannot be a key of the graph. -/
  | unusableKey
  /-- A file that does not exist. -/
  | missingFile (path : String)
  /-- A directory where a file is needed. -/
  | directory (path : String)
  /-- A home directory of a user that is not known. -/
  | unknownHome
  /-- A path that leads through a file as if it were a directory. -/
  | throughFile (path : String)
  /-- A file where a directory has to be made. -/
  | occupied (path : String)
  /-- A workbook that is no archive. -/
  | malformedArchive
  /-- A file whose name is not that of a workbook. -/
  | otherExtension
  /-- A field of a record that is too long. -/
  | longField
  /-- An address that no graph service can have. -/
  | malformedAddress (problem : AddressProblem)
  /-- A failure that the graph service reports. -/
  | service (name : String)
  deriving DecidableEq, Repr

/-- The most characters that a field of a delimited file may have. -/
def maxFieldLength : Nat := 131072

/-- The kinds of addresses that a graph service may have. -/
def addressSchemes : List String := ["bolt", "bolt+ssc", "bolt+s", "neo4j", "neo4j+ssc", "neo4j+s"]

/-- The text of a problem of an address. -/
def AddressProblem.text : AddressProblem → String
  | user => "Username is not supported in the URI"
  | password => "Password is not supported in the URI"
  | renamed scheme => "Uri scheme " ++ quoted scheme ++ " have been renamed. Use 'neo4j'"
  | unknownScheme scheme =>
    "URI scheme " ++ quoted scheme ++ " is not supported. Supported URI schemes are " ++
      quotedList addressSchemes ++ ". Examples: bolt://host[:port] or " ++
      "neo4j://host[:port][?routing_context]"

/-- The text of a fault. -/
def Fault.text : Fault → String
  | wrongType => "operand of the wrong kind"
  | wrongValue => "operand with an unsuitable value"
  | zeroDivision => "division by zero"
  | outOfRange => "result out of range"
  | powerTooLarge => "integer power exceeds 100000 bits"
  | productTooLarge => "integer product exceeds 100000 bits"
  | repetitionTooLarge => "repeated string exceeds 1000000 characters"

/-- **The text of a cause.** -/
def Cause.text : Cause → String
  | fault f => f.text
  | malformedFormula => "invalid syntax"
  | malformedDocument => "document is not well formed"
  | malformedJson => "text is not JSON"
  | malformedBytes => "invalid UTF-8"
  | missingMember name => quoted name
  | otherKind => "unexpected kind of value"
  | unusableKey => "unusable key"
  | missingFile path => "[Errno 2] No such file or directory: " ++ quoted path
  | directory path => "[Errno 21] Is a directory: " ++ quoted path
  | unknownHome => "Could not determine home directory."
  | throughFile path => "[Errno 20] Not a directory: " ++ quoted path
  | occupied path => "[Errno 17] File exists: " ++ quoted path
  | malformedArchive => "File is not a zip file"
  | otherExtension => "file format is not supported"
  | longField => "field larger than field limit (" ++ toString maxFieldLength ++ ")"
  | malformedAddress problem => problem.text
  | service name => name

/-! ## Problems -/

/-- What is wrong with the value of a field. -/
inductive FieldProblem where
  /-- A text that is no whole number. -/
  | notWhole (field : String)
  /-- A number with a fraction. -/
  | fractional (field : String)
  /-- A number that is not finite. -/
  | notFinite (field : String)
  /-- A value that is no number. -/
  | notInteger (field : String)
  /-- A value that is no text. -/
  | notText (field : String)
  /-- A value that is no truth value. -/
  | notTruth (field : String)
  /-- A text that is no truth value. -/
  | unreadableTruth (field : String)
  /-- A value that is no path. -/
  | notPath (field : String)
  /-- A numeral with too many digits. -/
  | tooManyDigits (field : String)
  /-- A number below the least one. -/
  | below (field : String) (least : Int)
  /-- A number above the greatest one. -/
  | above (field : String) (most : Int)
  /-- A text with fewer characters than one. -/
  | tooShort (field : String)
  /-- A text with more characters than one. -/
  | tooLong (field : String)
  /-- A value outside of a fixed choice. -/
  | notAmong (field : String) (choice : List String)
  /-- A field that is not given. -/
  | missing (field : String)
  /-- A greatest depth below one. -/
  | depth (field : String)
  /-- A value that is no list. -/
  | notList (field : String)
  /-- A value that is no object. -/
  | notObject (field : String)
  /-- An object that does not say of which kind it is. -/
  | missingTag (field member : String)
  /-- An object of a kind that does not exist. -/
  | unknownTag (field member tag : String) (known : List String)
  deriving DecidableEq, Repr

/-- A fixed choice in words. -/
def choiceText : List String → String
  | [] => ""
  | [a] => quoted a
  | [a, b] => quoted a ++ " or " ++ quoted b
  | a :: rest => quoted a ++ ", " ++ choiceText rest

def FieldProblem.message : FieldProblem → String
  | notWhole f => f ++ ": Input should be a valid integer, unable to parse string as an integer"
  | fractional f => f ++ ": Input should be a valid integer, got a number with a fractional part"
  | notFinite f => f ++ ": Input should be a finite number"
  | notInteger f => f ++ ": Input should be a valid integer"
  | notText f => f ++ ": Input should be a valid string"
  | notTruth f => f ++ ": Input should be a valid boolean"
  | unreadableTruth f => f ++ ": Input should be a valid boolean, unable to interpret input"
  | notPath f => f ++ ": Input is not a valid path for <class 'pathlib.Path'>"
  | tooManyDigits f =>
    f ++ ": Unable to parse input string as an integer, exceeded maximum size"
  | below f least => f ++ ": Input should be greater than or equal to " ++ toString least
  | above f most => f ++ ": Input should be less than or equal to " ++ toString most
  | tooShort f => f ++ ": String should have at least 1 character"
  | tooLong f => f ++ ": String should have at most 1 character"
  | notAmong f choice => f ++ ": Input should be " ++ choiceText choice
  | missing f => f ++ ": Field required"
  | depth f => f ++ ": Value error, max_tree_depth must be >= 1"
  | notList f => f ++ ": Input should be a valid list"
  | notObject f => f ++ ": Input should be a valid dictionary or object to extract fields from"
  | missingTag f member => f ++ ": Unable to extract tag using discriminator " ++ quoted member
  | unknownTag f member tag known =>
    f ++ ": Input tag " ++ quoted tag ++ " found using " ++ quoted member ++
      " does not match any of the expected tags: " ++ ", ".intercalate (known.map quoted)

/-- All problems of a set of fields in words. -/
def FieldProblem.messages (ps : List FieldProblem) : String :=
  "; ".intercalate (ps.map FieldProblem.message)

/-- **What is wrong with a document.** -/
inductive ParseProblem where
  | emptyFormula
  | malformedFormula (source : String)
  | refusedFormula (source : String) (problems : List Formula.Problem)
  | stepWithoutColon (segment : String)
  | unknownAggregation (token : String)
  | missingFormula (kind : String)
  | unknownStep (kind : String)
  | unknownOutput (raw : Option String)
  | missingField (name : String)
  | otherRoot (name : String)
  | malformedFile
  | malformedStream
  | unexpectedTag (tag : String)
  | unexpectedText (text : String)
  | missingFields (names : List String)
  | unknownSourceType (type : String) (known : List String)
  | unusableDelimiter (raw : String)
  | invalidSource (type : String) (problems : List FieldProblem)
  deriving DecidableEq, Repr

/-- **How the parts of a document fail to fit together.** -/
inductive SchemaProblem where
  | duplicateLabel (label : String) (document : String)
  | duplicateSource (name : String) (document : String)
  | rootWithoutNode (label : String)
  | childWithoutNode (label : String) (parent : String)
  | tooDeep (label : String) (most : Nat)
  | fieldTwice (field : String) (edge : String)
  deriving DecidableEq, Repr

/-- **How a source or one of its records cannot be read.** -/
inductive SourceProblem where
  | unreadableFile (path : String) (cause : Cause)
  | unopened (location : String) (cause : Cause)
  | unreadableHeadings (cause : Cause)
  | emptyPosition
  | namedWithoutHeadings (column : String)
  | unknownColumn (column : String) (headings : List String)
  | shortRecord (location : String) (length : Nat) (position : Nat)
  | longField (line : Nat)
  | notText (line : Nat)
  | readFailed (cause : Cause)
  | malformedDocument (location : String)
  | missingSheet (sheet location : String) (available : List String)
  | relational (system connection database : String)
  /-- A record that is known to be bad. -/
  | badRecord (name : String)
  deriving DecidableEq, Repr

/-- **How a store cannot be reached.** -/
inductive ConnectionProblem where
  | snapshot (path : String) (cause : Cause)
  | endpoint (address : String) (cause : Cause)
  | unreachable (address : String) (cause : Cause)
  | unexpectedAnswer (address : String)
  deriving DecidableEq, Repr

/-- **How a step fails on its rows.** -/
inductive EvaluationProblem where
  | nonNumeric (aggregation : String) (value : String)
  | unknownLabel (label source : String)
  | failed (source : String) (fault : Fault)
  deriving DecidableEq, Repr

/-- How settings contradict each other. -/
inductive ConfigurationProblem where
  | unusedSnapshot
  | missingAddress
  | logSize
  deriving DecidableEq, Repr

/-- **A failure of the library.** -/
inductive Error where
  /-- A document, or a part of it, has not the form that it should have. -/
  | parse (problem : ParseProblem) (path : Option String)
  /-- A document has the right form, and its parts do not fit together. -/
  | schema (problem : SchemaProblem)
  /-- A source that the catalog does not hold. -/
  | unknownSource (name context : String)
  /-- An attribute that the store does not hold. -/
  | missingAttribute (name context : String)
  /-- A source that cannot be read. -/
  | source (problem : SourceProblem) (name : Option String)
  /-- A store that cannot be reached. -/
  | connection (problem : ConnectionProblem)
  /-- A mapping record that cannot be stored. -/
  | ingestion (head tail : String) (behind : Error)
  /-- A step that fails while a node is evaluated. -/
  | evaluation (problem : EvaluationProblem) (label : Option String)
  /-- A call that a store refuses. -/
  | refusedCall (method name : String)
  /-- Settings that contradict each other. -/
  | configuration (problems : List ConfigurationProblem)
  /-- Values that their fields cannot have. -/
  | fields (problems : List FieldProblem)
  /-- A source of a kind that has no reader. -/
  | unsupportedSource (kind : String)
  /-- A store of a kind that does not exist. -/
  | unsupportedStore (kind : String)
  /-- An evaluation mode that does not exist. -/
  | unknownEvaluationMode (mode : String)
  /-- An output mode that does not exist. -/
  | unknownOutputMode (mode : String)
  /-- A failure with nothing to say about where it happened. -/
  | plain (cause : Cause)
  deriving DecidableEq, Repr

/-! ## Texts -/

/-- An optional text as a literal shows it. -/
def quotedOrNone : Option String → String
  | some s => quoted s
  | none => "None"

def ParseProblem.message (words : Cause → String) : ParseProblem → String
  | emptyFormula => "Empty expression"
  | malformedFormula source =>
    "Invalid expression " ++ quoted source ++ ": " ++ words .malformedFormula
  | refusedFormula source problems =>
    "Invalid expression " ++ quoted source ++ ": " ++
      "; ".intercalate (problems.map Formula.Problem.message)
  | stepWithoutColon segment =>
    "Invalid transformation " ++ quoted segment ++ ": expected kind:args"
  | unknownAggregation token => "Invalid aggregation type: " ++ quoted token
  | missingFormula kind => "Missing expression for " ++ kind ++ " transformation"
  | unknownStep kind => "Invalid transformation defined: " ++ quoted kind
  | unknownOutput raw =>
    "Invalid output given: " ++ quotedOrNone raw ++ " (expected yes/no/true/false)"
  | missingField name => "Missing required field " ++ quoted name
  | otherRoot name => "Expected <query> root element, got <" ++ name ++ ">"
  | malformedFile => "Failed to parse XML file: " ++ words .malformedDocument
  | malformedStream => "Error reading event: " ++ words .malformedDocument
  | unexpectedTag tag => "Unexpected start tag <" ++ tag ++ ">"
  | unexpectedText text => "Unexpected text: " ++ quoted text
  | missingFields names => "Missing required field(s): " ++ ", ".intercalate names
  | unknownSourceType type known =>
    "Incorrect datasource type given: " ++ quoted type ++ " (expected one of " ++
      ", ".intercalate known ++ ")"
  | unusableDelimiter raw => "Field 'delimiter' must be a single character, got " ++ quoted raw
  | invalidSource type problems =>
    "Invalid " ++ type ++ " datasource: " ++ FieldProblem.messages problems

def SchemaProblem.message : SchemaProblem → String
  | duplicateLabel label document =>
    "Duplicate node label " ++ quoted label ++ " in " ++ document
  | duplicateSource name document =>
    "Duplicate datasource name " ++ quoted name ++ " in " ++ document
  | rootWithoutNode label =>
    "Incorrectly defined root node: " ++ label ++ ". The <rootnode> tag and <label> of a node " ++
      "must match (root node/label mismatch)"
  | childWithoutNode label parent =>
    "Incorrectly defined child node: " ++ label ++ " (under " ++ parent ++ "). The <label> of " ++
      "a node must match the <children> entry (child node not found)"
  | tooDeep label most =>
    "Query tree deeper than " ++ toString most ++ " levels at node " ++ label
  | fieldTwice field edge => "Field " ++ field ++ " given twice in " ++ edge

/-- The label that a problem of a document is about. -/
def SchemaProblem.label : SchemaProblem → String
  | duplicateLabel label _ | rootWithoutNode label | childWithoutNode label _ | tooDeep label _ =>
    label
  | duplicateSource name _ => name
  | fieldTwice field _ => field

def SourceProblem.message (words : Cause → String) : SourceProblem → String
  | unreadableFile path cause => "Failed to open file: " ++ path ++ ": " ++ words cause
  | unopened location cause => "cannot open " ++ location ++ ": " ++ words cause
  | unreadableHeadings cause => "unreadable heading row: " ++ words cause
  | emptyPosition => "empty column position"
  | namedWithoutHeadings column =>
    "column " ++ quoted column ++ " given by name but the source has no headings"
  | unknownColumn column headings =>
    "column " ++ quoted column ++ " not found in headings " ++ quotedList headings
  | shortRecord location length position =>
    location ++ ": record has " ++ toString length ++ " fields, position " ++
      toString position ++ " missing"
  | longField line => "line " ++ toString line ++ ": " ++ Cause.longField.text
  | notText line => "after line " ++ toString line ++ ": not UTF-8: " ++ words .malformedBytes
  | readFailed cause => "read failed: " ++ words cause
  | malformedDocument location =>
    "malformed document " ++ location ++ ": " ++ words .malformedDocument
  | missingSheet sheet location available =>
    "sheet " ++ quoted sheet ++ " not found in " ++ location ++ " (available: " ++
      ", ".intercalate available ++ ")"
  | relational system connection database =>
    "relational reads are not supported (" ++ system ++ " at " ++ connection ++ "/" ++
      database ++ ")"
  | badRecord name => name

def ConnectionProblem.message (words : Cause → String) : ConnectionProblem → String
  | snapshot path cause => "Cannot load graph snapshot " ++ path ++ ": " ++ words cause
  | endpoint address cause => "Invalid Neo4j endpoint " ++ quoted address ++ ": " ++ words cause
  | unreachable address cause => "Cannot reach Neo4j at " ++ address ++ ": " ++ words cause
  | unexpectedAnswer address => "Unexpected round-trip answer from " ++ address

/-- Whether the words for a fault are fixed, as those of the size checks are. -/
def Fault.hasFixedText : Fault → Bool
  | powerTooLarge | productTooLarge | repetitionTooLarge => true
  | _ => false

def EvaluationProblem.message (words : Cause → String) : EvaluationProblem → String
  | nonNumeric aggregation value => aggregation ++ " over non-numeric value " ++ quoted value
  | unknownLabel label source =>
    "Unknown label " ++ quoted label ++ " in expression " ++ quoted source
  | failed source f =>
    "Expression " ++ quoted source ++ " failed: " ++
      (if f.hasFixedText then f.text else words (.fault f))

def ConfigurationProblem.message : ConfigurationProblem → String
  | unusedSnapshot => "GRAPH_DB_SNAPSHOT is only used when GRAPH_DB_TYPE is memory"
  | missingAddress => "GRAPH_DB_URI must be set when GRAPH_DB_TYPE is neo4j"
  | logSize => "LOG_MAX_BYTES must be > 0"

/-- A message behind the place that it is about; an empty place is not written. -/
def placed (place : Option String) (message : String) (write : String → String) : String :=
  match place with
  | none | some "" => message
  | some p => write p ++ message

/-- A message about something that was not found. -/
def notFound (kind name context : String) : String :=
  let message := kind ++ " " ++ quoted name ++ " not found"
  if context.isEmpty then message else message ++ " (" ++ context ++ ")"

/-- **The text of a failure.** -/
def Error.message (words : Cause → String) : Error → String
  | parse problem path => placed path (problem.message words) fun p => p ++ ": "
  | schema problem => problem.message
  | unknownSource name context => notFound "Datasource" name context
  | missingAttribute name context => notFound "Attribute" name context
  | source problem name => placed name (problem.message words) fun n => "[" ++ n ++ "] "
  | connection problem => problem.message words
  | ingestion head tail behind =>
    "Error storing edge \"" ++ head ++ "\" -> \"" ++ tail ++ "\": " ++ behind.message words
  | evaluation problem label => placed label (problem.message words) fun l => "node " ++ l ++ ": "
  | refusedCall method name => method ++ " failed for " ++ name
  | configuration problems => "; ".intercalate (problems.map ConfigurationProblem.message)
  | fields problems => FieldProblem.messages problems
  | unsupportedSource kind =>
    "Unsupported datasource: " ++ kind ++ ". Available: csv, xml, excel, db"
  | unsupportedStore kind =>
    "Unsupported graph store type: " ++ quoted kind ++ ". Available: neo4j, memory"
  | unknownEvaluationMode mode => "Unknown evaluation mode: " ++ quoted mode
  | unknownOutputMode mode => "Unknown output mode: " ++ quoted mode
  | plain cause => words cause

end Crosswalk
