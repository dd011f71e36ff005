import Crosswalk.Formula.Functions

/-!
# The value of a term

A term is evaluated from left to right.  A junction stops at the first operand that decides it and
has the value of that operand; a chain of comparisons stops at the first one that does not hold; of
a choice only the chosen side is evaluated.

* `SignOp.apply`, `ArithmeticOp.apply`, `Comparison.apply` — the operators.
* `Term.evaluate` — **the value of a term** when every label has a value.
-/

namespace Crosswalk.Formula

/-- An operator with one operand. -/
def SignOp.apply : SignOp → Value → Outcome Value
  | plus, v => v.affirm
  | minus, v => v.negate
  | not, v => .ok (.bool !v.isTrue)

/-- An operator with two operands. -/
def ArithmeticOp.apply : ArithmeticOp → Value → Value → Outcome Value
  | add => Value.add
  | sub => Value.sub
  | mul => Value.mul
  | div => Value.div
  | floorDiv => Value.floorDiv
  | mod => Value.mod
  | pow => Value.pow
  | boundedMul => Value.boundedMul
  | boundedPow => Value.boundedPow

/-- Whether an order is as a comparison wants it. -/
def Comparison.holds : Comparison → Ordering → Bool
  | eq, o => o == .eq
  | notEq, o => o != .eq
  | less, o => o == .lt
  | lessEq, o => o != .gt
  | greater, o => o == .gt
  | greaterEq, o => o != .lt

/-- **A comparison of two values.**  Equality is between any two values, an order only between real
numbers and between texts; nothing is in order with the undefined number. -/
def Comparison.apply (c : Comparison) (l r : Value) : Outcome Bool :=
  match c with
  | eq => .ok (l.equal r)
  | notEq => .ok !(l.equal r)
  | c => do .ok (((← l.compare? r).map c.holds).getD false)

/-- Whether an operand with this value ends a junction. -/
def Junction.decidedBy : Junction → Value → Bool
  | .and, v => !v.isTrue
  | .or, v => v.isTrue

mutual

/-- **The value of a term.** -/
def Term.evaluate (env : String → Value) : Term → Outcome Value
  | .literal v => .ok v
  | .field label => .ok (env label)
  | .unary op operand => do op.apply (← operand.evaluate env)
  | .binary op left right => do
    let l ← left.evaluate env
    let r ← right.evaluate env
    op.apply l r
  | .junction op operands => Term.evaluateJunction env op (.bool (op == .and)) operands
  | .comparison first ops rest => do
    let l ← first.evaluate env
    Term.evaluateChain env l ops rest
  | .choice test yes no => do
    if (← test.evaluate env).isTrue then yes.evaluate env else no.evaluate env
  | .call f args => do f.apply (← Term.evaluateAll env args)

/-- The values of several terms. -/
def Term.evaluateAll (env : String → Value) : List Term → Outcome (List Value)
  | [] => .ok []
  | t :: ts => do
    let v ← t.evaluate env
    let vs ← Term.evaluateAll env ts
    .ok (v :: vs)

/-- The value of a junction: that of the first operand that decides it, or of the last one. -/
def Term.evaluateJunction (env : String → Value) (op : Junction) (last : Value) :
    List Term → Outcome Value
  | [] => .ok last
  | t :: ts => do
    let v ← t.evaluate env
    if op.decidedBy v then .ok v else Term.evaluateJunction env op v ts

/-- Whether all comparisons of a chain hold, each between neighbours. -/
def Term.evaluateChain (env : String → Value) (left : Value) :
    List Comparison → List Term → Outcome Value
  | op :: ops, t :: ts => do
    let right ← t.evaluate env
    if ← op.apply left right then Term.evaluateChain env right ops ts else .ok (.bool false)
  | _, _ => .ok (.bool true)

end

end Crosswalk.Formula
