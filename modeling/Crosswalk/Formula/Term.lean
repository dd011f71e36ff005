import Crosswalk.Formula.Syntax

/-!
# Terms: the trees that formulas may be

A formula is made of literals, the fields of a row, arithmetic, comparisons, conditions and direct
calls of known functions.  Everything else that the syntax can express is refused, and each refused
place is named.

* `Function` — the known functions.
* `Term` — **the trees of formulas.**
* `Problem` — why a place of a syntax tree is refused.
* `Syntax.problems` — all refused places, from left to right.
* `Syntax.term?` — the term of a tree; there is one exactly when there are no problems.
* `Term.guarded` — products and powers replaced by those that check the size of their result.
-/

namespace Crosswalk.Formula

/-- The known functions. -/
inductive Function where
  | abs | round | min | max | len | int | float | str | upper | lower | strip | concat | substr
  | replace | startsWith | endsWith | contains
  deriving DecidableEq, Repr

/-- The names of the functions. -/
def Function.names : List (String × Function) :=
  [("abs", .abs), ("round", .round), ("min", .min), ("max", .max), ("len", .len), ("int", .int),
   ("float", .float), ("str", .str), ("upper", .upper), ("lower", .lower), ("strip", .strip),
   ("concat", .concat), ("substr", .substr), ("replace", .replace),
   ("startswith", .startsWith), ("endswith", .endsWith), ("contains", .contains)]

/-- The function of a name. -/
def Function.ofName? (id : String) : Option Function := Function.names.lookup id

/-- Arithmetic with two operands; the bounded forms check the size of their result first. -/
inductive ArithmeticOp where
  | add | sub | mul | div | floorDiv | mod | pow | boundedMul | boundedPow
  deriving DecidableEq, Repr

/-- Operators with one operand. -/
inductive SignOp where
  | plus | minus | not
  deriving DecidableEq, Repr

/-- Comparisons of values. -/
inductive Comparison where
  | eq | notEq | less | lessEq | greater | greaterEq
  deriving DecidableEq, Repr

/-- **A term.** -/
inductive Term where
  /-- A literal. -/
  | literal (v : Value)
  /-- The value of the field with a label. -/
  | field (label : String)
  /-- An operator with one operand. -/
  | unary (op : SignOp) (operand : Term)
  /-- Arithmetic with two operands. -/
  | binary (op : ArithmeticOp) (left right : Term)
  /-- Conditions joined by one junction. -/
  | junction (op : Junction) (operands : List Term)
  /-- A chain of comparisons. -/
  | comparison (first : Term) (ops : List Comparison) (rest : List Term)
  /-- `yes` if `test` holds, else `no`. -/
  | choice (test yes no : Term)
  /-- A call of a function. -/
  | call (f : Function) (args : List Term)

/-! ## Refused places -/

/-- **Why a place of a syntax tree is refused.** -/
inductive Problem where
  /-- A construct or an operator that formulas do not have. -/
  | construct (name : String)
  /-- A literal of another kind. -/
  | literal (shown : String)
  /-- A name that no field is bound to. -/
  | unknownName (id : String)
  /-- A call of something that is no known function. -/
  | unsupportedCall (target : String)
  /-- Arguments given by name. -/
  | keywords (function : String)
  deriving DecidableEq, Repr

def Problem.message : Problem → String
  | construct name => "Blocked construct '" ++ name ++ "'"
  | literal shown => "Blocked literal " ++ shown
  | unknownName id => "Unknown name '" ++ id ++ "'"
  | unsupportedCall target => "Call to unsupported function '" ++ target ++ "'"
  | keywords f => "Keyword arguments not allowed in call to '" ++ f ++ "'"

/-- Whether a problem cannot be told, because the target of the call has no text. -/
def Problem.isUnwritable : Problem → Bool
  | unsupportedCall target => target.toList.contains unwritable
  | _ => false

/-- The name of a construct in messages. -/
def Construct.shown : Construct → String
  | lambda => "Lambda"
  | member => "Attribute"
  | element => "Subscript"
  | slice => "Slice"
  | starred => "Starred"
  | tuple => "Tuple"
  | list => "List"
  | set => "Set"
  | dict => "Dict"
  | listComp => "ListComp"
  | setComp => "SetComp"
  | dictComp => "DictComp"
  | generator => "GeneratorExp"
  | named => "NamedExpr"
  | await => "Await"
  | yield => "Yield"
  | yieldFrom => "YieldFrom"
  | joined => "JoinedStr"

/-- The value of a literal, if formulas have it. -/
def Literal.value? : Literal → Option Value
  | absent => some .absent
  | bool b => some (.bool b)
  | int n => some (.int n)
  | float x => some (.float x)
  | text s _ => some (.text s)
  | imaginary _ | octets _ | ellipsis => none

/-- The operator of formulas that a unary operator is. -/
def UnaryOp.sign? : UnaryOp → Option SignOp
  | plus => some .plus
  | minus => some .minus
  | not => some .not
  | invert => none

/-- The arithmetic of formulas that a binary operator is. -/
def BinaryOp.arithmetic? : BinaryOp → Option ArithmeticOp
  | add => some .add
  | sub => some .sub
  | mul => some .mul
  | div => some .div
  | floorDiv => some .floorDiv
  | mod => some .mod
  | pow => some .pow
  | _ => none

/-- The comparison of formulas that a relation is. -/
def Relation.comparison? : Relation → Option Comparison
  | eq => some .eq
  | notEq => some .notEq
  | less => some .less
  | lessEq => some .lessEq
  | greater => some .greater
  | greaterEq => some .greaterEq
  | _ => none

/-- The refused operators by name. -/
def UnaryOp.problems : UnaryOp → List Problem
  | invert => [.construct "Invert"]
  | _ => []

def BinaryOp.problems : BinaryOp → List Problem
  | matMul => [.construct "MatMult"]
  | shiftLeft => [.construct "LShift"]
  | shiftRight => [.construct "RShift"]
  | bitOr => [.construct "BitOr"]
  | bitXor => [.construct "BitXor"]
  | bitAnd => [.construct "BitAnd"]
  | _ => []

def Relation.problems : Relation → List Problem
  | is => [.construct "Is"]
  | isNot => [.construct "IsNot"]
  | isIn => [.construct "In"]
  | notIn => [.construct "NotIn"]
  | _ => []

/-- The known function that is the target of a call, if it is one. -/
def Syntax.function? : Syntax → Option (String × Function)
  | .name id => (Function.ofName? id).map fun f => (id, f)
  | _ => none

mutual

/-- **The refused places of a tree**, when the names of `bound` stand for fields.  What is below a
refused construct is not looked at. -/
def Syntax.problems (bound : List (String × String)) : Syntax → List Problem
  | .literal l => if l.value?.isSome then [] else [.literal l.shown]
  | .name id => if (bound.lookup id).isSome then [] else [.unknownName id]
  | .unary op operand => op.problems ++ operand.problems bound
  | .binary op left right => left.problems bound ++ op.problems ++ right.problems bound
  | .junction _ operands => Syntax.allProblems bound operands
  | .comparison first ops rest =>
    first.problems bound ++ ops.flatMap Relation.problems ++ Syntax.allProblems bound rest
  | .choice test yes no => test.problems bound ++ yes.problems bound ++ no.problems bound
  | .call target args keywords =>
    match target.function? with
    | none => [.unsupportedCall (target.render Level.test).outside]
    | some (id, _) =>
      (if keywords.isEmpty then [] else [.keywords id]) ++ Syntax.allProblems bound args
  | .foreign construct _ _ => [.construct construct.shown]

/-- The refused places of several trees. -/
def Syntax.allProblems (bound : List (String × String)) : List Syntax → List Problem
  | [] => []
  | e :: es => e.problems bound ++ Syntax.allProblems bound es

end

mutual

/-- **The term of a tree**, when the names of `bound` stand for the fields with the given
labels. -/
def Syntax.term? (bound : List (String × String)) : Syntax → Option Term
  | .literal l => l.value?.map .literal
  | .name id => (bound.lookup id).map .field
  | .unary op operand => do some (.unary (← op.sign?) (← operand.term? bound))
  | .binary op left right => do
    some (.binary (← op.arithmetic?) (← left.term? bound) (← right.term? bound))
  | .junction op operands => do some (.junction op (← Syntax.terms? bound operands))
  | .comparison first ops rest => do
    some (.comparison (← first.term? bound) (← ops.mapM Relation.comparison?)
      (← Syntax.terms? bound rest))
  | .choice test yes no => do
    some (.choice (← test.term? bound) (← yes.term? bound) (← no.term? bound))
  | .call target args keywords => do
    let (_, f) ← target.function?
    if keywords.isEmpty then some (.call f (← Syntax.terms? bound args)) else none
  | .foreign _ _ _ => none

/-- The terms of several trees. -/
def Syntax.terms? (bound : List (String × String)) : List Syntax → Option (List Term)
  | [] => some []
  | e :: es => do some ((← e.term? bound) :: (← Syntax.terms? bound es))

end

/-! ## Guarded arithmetic -/

/-- The bounded form of a product or a power. -/
def ArithmeticOp.guarded : ArithmeticOp → ArithmeticOp
  | mul => boundedMul
  | pow => boundedPow
  | op => op

mutual

/-- **A term with every product and power bounded**, at every depth. -/
def Term.guarded : Term → Term
  | .literal v => .literal v
  | .field label => .field label
  | .unary op operand => .unary op operand.guarded
  | .binary op left right => .binary op.guarded left.guarded right.guarded
  | .junction op operands => .junction op (Term.allGuarded operands)
  | .comparison first ops rest => .comparison first.guarded ops (Term.allGuarded rest)
  | .choice test yes no => .choice test.guarded yes.guarded no.guarded
  | .call f args => .call f (Term.allGuarded args)

/-- Several terms with every product and power bounded. -/
def Term.allGuarded : List Term → List Term
  | [] => []
  | t :: ts => t.guarded :: Term.allGuarded ts

end

end Crosswalk.Formula
