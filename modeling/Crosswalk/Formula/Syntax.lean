import Crosswalk.Formula.Layout
import Crosswalk.Formula.Value

/-!
# The syntax of formulas

A formula text is read as an expression of a full expression language, of which formulas are the
part made of literals, names, arithmetic, comparisons, conditions and direct calls.  What lies
outside that part is kept as a *foreign* node: the name of the construct and its text are all that
messages need of it.

* `Literal`, `UnaryOp`, `BinaryOp`, `Junction`, `Relation` — the leaves and the operators, the
  refused ones included.
* `Syntax` — **the tree**.
* `Syntax.render` — the text of a tree in one canonical layout, with brackets where the place it
  stands in binds tighter than the tree does.
-/

namespace Crosswalk.Formula

/-- A literal as it is written. -/
inductive Literal where
  /-- Nothing. -/
  | absent
  /-- A truth value. -/
  | bool (b : Bool)
  /-- A whole number. -/
  | int (n : Nat)
  /-- A decimal number. -/
  | float (x : Binary64)
  /-- A text; `marked` when it carries the mark `u`. -/
  | text (s : String) (marked : Bool)
  /-- An imaginary number. -/
  | imaginary (x : Binary64)
  /-- A string of octets. -/
  | octets (bytes : List Nat)
  /-- The ellipsis. -/
  | ellipsis
  deriving DecidableEq

/-- Operators with one operand. -/
inductive UnaryOp where
  | plus | minus | not | invert
  deriving DecidableEq, Repr

/-- Operators with two operands. -/
inductive BinaryOp where
  | add | sub | mul | div | floorDiv | mod | pow
  | matMul | shiftLeft | shiftRight | bitOr | bitXor | bitAnd
  deriving DecidableEq, Repr

/-- The two ways of joining conditions. -/
inductive Junction where
  | and | or
  deriving DecidableEq, Repr

/-- Comparisons. -/
inductive Relation where
  | eq | notEq | less | lessEq | greater | greaterEq
  | is | isNot | isIn | notIn
  deriving DecidableEq, Repr

/-- Constructs of the expression language that formulas do not have. -/
inductive Construct where
  | lambda | member | element | slice | starred | tuple | list | set | dict
  | listComp | setComp | dictComp | generator | named | await | yield | yieldFrom | joined
  deriving DecidableEq, Repr

/-- How tightly a piece of text binds; larger is tighter. -/
abbrev Level := Nat

namespace Level

def named : Level := 1
def tuple : Level := 2
def yield : Level := 3
def test : Level := 4
def or : Level := 5
def and : Level := 6
def not : Level := 7
def relation : Level := 8
def bitOr : Level := 9
def bitXor : Level := 10
def bitAnd : Level := 11
def shift : Level := 12
def sum : Level := 13
def term : Level := 14
def factor : Level := 15
def power : Level := 16
def await : Level := 17
def atom : Level := 18

/-- The next tighter level. -/
def next (l : Level) : Level := if l < atom then l + 1 else l

end Level

/-- **The tree of an expression.** -/
inductive Syntax where
  /-- A literal. -/
  | literal (l : Literal)
  /-- A name. -/
  | name (id : String)
  /-- An operator with one operand. -/
  | unary (op : UnaryOp) (operand : Syntax)
  /-- An operator with two operands. -/
  | binary (op : BinaryOp) (left right : Syntax)
  /-- Conditions joined by one junction. -/
  | junction (op : Junction) (operands : List Syntax)
  /-- A chain of comparisons: `first op₁ rest₁ op₂ rest₂ …`. -/
  | comparison (first : Syntax) (ops : List Relation) (rest : List Syntax)
  /-- `yes` if `test` holds, else `no`. -/
  | choice (test yes no : Syntax)
  /-- A call; of the arguments given by keyword only the text is kept. -/
  | call (target : Syntax) (args : List Syntax) (keywords : List Layout)
  /-- A construct that formulas do not have: its text and how tightly that binds. -/
  | foreign (construct : Construct) (text : Layout) (level : Level)

/-! ## Rendering -/

/-- The form of an octet between the quotes `mark`. -/
def octetForm (mark : Char) (n : Nat) : List Char :=
  let c := Char.ofNat n
  if n < 0x80 then escapeChar mark c else ['\\', 'x'] ++ hexDigits 2 n

/-- The text of a string of octets. -/
def octetsText (bytes : List Nat) : String :=
  let mark := quoteMark (bytes.map Char.ofNat)
  String.ofList ('b' :: mark :: bytes.flatMap (octetForm mark) ++ [mark])

/-- A literal as messages show it. -/
def Literal.shown : Literal → String
  | absent => "None"
  | bool b => if b then "True" else "False"
  | int n => digitText n
  | float x => x.text .number
  | text s _ => quoted s
  | imaginary x => x.text .part ++ "j"
  | octets bytes => octetsText bytes
  | ellipsis => "Ellipsis"

/-- A literal in canonical layout: an infinite number as a numeral beyond every double.  A whole
number with too many digits has no text. -/
def Literal.render : Literal → Layout
  | int n =>
    match Value.intText n with
    | .ok s => s
    | .error _ => String.singleton unwritable
  | float (.infinite _) => "1e309"
  | imaginary (.infinite _) => "1e309j"
  | text s marked => .ofText s marked
  | ellipsis => "..."
  | l => l.shown

def UnaryOp.render : UnaryOp → String
  | plus => "+"
  | minus => "-"
  | not => "not "
  | invert => "~"

def UnaryOp.level : UnaryOp → Level
  | not => Level.not
  | _ => Level.factor

def BinaryOp.render : BinaryOp → String
  | add => "+"
  | sub => "-"
  | mul => "*"
  | div => "/"
  | floorDiv => "//"
  | mod => "%"
  | pow => "**"
  | matMul => "@"
  | shiftLeft => "<<"
  | shiftRight => ">>"
  | bitOr => "|"
  | bitXor => "^"
  | bitAnd => "&"

def BinaryOp.level : BinaryOp → Level
  | add | sub => Level.sum
  | mul | div | floorDiv | mod | matMul => Level.term
  | pow => Level.power
  | shiftLeft | shiftRight => Level.shift
  | bitOr => Level.bitOr
  | bitXor => Level.bitXor
  | bitAnd => Level.bitAnd

/-- The level that the left operand has to have. -/
def BinaryOp.leftLevel (op : BinaryOp) : Level := if op = pow then op.level.next else op.level

/-- The level that the right operand has to have. -/
def BinaryOp.rightLevel (op : BinaryOp) : Level := if op = pow then op.level else op.level.next

def Junction.render : Junction → String
  | and => "and"
  | or => "or"

def Junction.level : Junction → Level
  | and => Level.and
  | or => Level.or

def Relation.render : Relation → String
  | eq => "=="
  | notEq => "!="
  | less => "<"
  | lessEq => "<="
  | greater => ">"
  | greaterEq => ">="
  | is => "is"
  | isNot => "is not"
  | isIn => "in"
  | notIn => "not in"

/-- A text in a place of level `place`: in brackets if the place binds tighter than the text. -/
def inPlace (place own : Level) (text : Layout) : Layout :=
  if own < place then "(" ++ text ++ ")" else text

mutual

/-- **The canonical text of a tree** in a place of a given level. -/
def Syntax.render (place : Level) : Syntax → Layout
  | .literal l => l.render
  | .name id => id
  | .unary op operand => inPlace place op.level (op.render ++ operand.render op.level)
  | .binary op left right =>
    inPlace place op.level
      (left.render op.leftLevel ++ " " ++ op.render ++ " " ++ right.render op.rightLevel)
  | .junction op operands =>
    inPlace place op.level
      (.intercalate (" " ++ op.render ++ " ") (Syntax.renderRising op.level operands))
  | .comparison first ops rest =>
    inPlace place Level.relation
      (first.render Level.relation.next ++ Syntax.renderChain ops rest)
  | .choice test yes no =>
    inPlace place Level.test
      (yes.render Level.test.next ++ " if " ++ test.render Level.test.next ++ " else " ++
        no.render Level.test)
  | .call target args keywords =>
    target.render Level.atom ++ "(" ++ .intercalate ", " (Syntax.renderAll args ++ keywords) ++ ")"
  | .foreign _ text level => inPlace place level text

/-- The texts of operands, each in a tighter place than the one before. -/
def Syntax.renderRising (level : Level) : List Syntax → List Layout
  | [] => []
  | e :: es => e.render level.next :: Syntax.renderRising level.next es

/-- The texts of arguments. -/
def Syntax.renderAll : List Syntax → List Layout
  | [] => []
  | e :: es => e.render Level.test :: Syntax.renderAll es

/-- The text of a chain of comparisons after its first operand. -/
def Syntax.renderChain : List Relation → List Syntax → Layout
  | op :: ops, e :: es =>
    " " ++ op.render ++ " " ++ e.render Level.relation.next ++ Syntax.renderChain ops es
  | _, _ => ""

end

end Crosswalk.Formula
