import LineBasic.Number.Nearest
import LineBasic.Store

/-!
# Arithmetic

The tree of an arithmetic expression and its value. The operations are those
of 64-bit floating-point arithmetic, so every tree has a value: a quotient by
zero is an infinity or not a number.
-/

namespace LineBasic

/-- The four operations. -/
inductive Operator
  | add
  | sub
  | mul
  | div
  deriving DecidableEq, Repr

namespace Operator

/-- The operation on two numbers. -/
def apply : Operator → Float → Float → Float
  | add, a, b => a + b
  | sub, a, b => a - b
  | mul, a, b => a * b
  | div, a, b => a / b

/-- The operation that a sign stands for. -/
def ofSymbol? : Text → Option Operator
  | ['+'] => some add
  | ['-'] => some sub
  | ['*'] => some mul
  | ['/'] => some div
  | _ => none

end Operator

/-- An expression. A literal is kept as it is spelled, a variable by its name
in lower case, and parentheses are part of the tree. -/
inductive Expr
  | number (digits : Text)
  | variable (name : Text)
  | group (inner : Expr)
  | binary (operator : Operator) (left right : Expr)
  deriving DecidableEq, Repr

namespace Expr

/-- The value of an expression. A variable without a value counts as zero;
reading an expression lets no such variable through. -/
def value (store : Store) : Expr → Float
  | .number digits => literalValue digits
  | .variable name => (store.get? name).getD 0
  | .group inner => inner.value store
  | .binary operator left right => operator.apply (left.value store) (right.value store)

end Expr

end LineBasic
