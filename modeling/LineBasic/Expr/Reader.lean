import LineBasic.Expr
import LineBasic.Phrase

/-!
# Reading expressions

    expression = product (("+" | "-") product)*
    product    = factor (("*" | "/") factor)*
    factor     = number | variable | "(" expression ")"

Operators of one line of the grammar group from the left. A variable must have
a value by the time it is read, so that an undefined one is found before any
mistake further right.

The depth of parentheses is limited. `expression scope limit allowance` reads
an expression inside which `allowance` more of them may be open, out of
`limit` in all; it is defined by recursion on the allowance, and each
repetition ends because a phrase makes the rest of the line shorter.
-/

namespace LineBasic

/-- The names that have a value. -/
abbrev Scope := Text → Bool

namespace Expr

/-- Goes on after `left` with as many operators and operands as follow,
grouped from the left. -/
def chain (operator : (c : Cursor) → Option (Phrase c Token)) (operand : Rule Expr)
    {c : Cursor} (left : Phrase c Expr) : Reading c Expr :=
  match operator left.next with
  | none => .ok left
  | some sign =>
    match operand sign.next with
    | .error rejection => .error rejection
    | .ok right =>
      match Operator.ofSymbol? sign.value.lexeme with
      | none => right.next.reject (.unknownOperator sign.value.lexeme) sign.value.span
      | some operation =>
        chain operator operand
          ((left.followedBy sign ()).followedBy right
            (.binary operation left.value right.value))
termination_by left.next.rest.length
decreasing_by exact Nat.lt_trans right.shorter sign.shorter

/-- Operands with operators between them. -/
def leftGrouped (operator : (c : Cursor) → Option (Phrase c Token)) (operand : Rule Expr) :
    Rule Expr := fun c =>
  match operand c with
  | .error rejection => .error rejection
  | .ok first => chain operator operand first

/-- A number, a variable, or an expression in parentheses. There is no `inner`
rule where one more open parenthesis would be beyond the limit. -/
def factor (scope : Scope) (limit : Nat) (inner : Option (Rule Expr)) : Rule Expr := fun c =>
  match c.nextNumber with
  | some literal => .ok (literal.withValue (.number literal.value.lexeme))
  | none =>
    match c.nextVariable with
    | some word =>
      let name := fold word.value.lexeme
      if scope name then .ok (word.withValue (.variable name))
      else word.next.reject (.variableNotFound name) word.value.span
    | none =>
      match c.nextSymbol '(' with
      | none => c.missing .expressionExpected
      | some opening =>
        match inner with
        | none => opening.next.reject (.nestingTooDeep limit) opening.value.span
        | some rule =>
          match rule opening.next with
          | .error rejection => .error rejection
          | .ok body =>
            match body.next.nextSymbol ')' with
            | none => body.next.missing .missingRightParen
            | some closing =>
              .ok ((opening.followedBy body ()).followedBy closing (.group body.value))

/-- Products and quotients of factors, then sums and differences of those. -/
def sums (factor : Rule Expr) : Rule Expr :=
  leftGrouped Cursor.nextAddOrSub (leftGrouped Cursor.nextMulOrDiv factor)

/-- An expression in which `allowance` more parentheses may be open. -/
def expression (scope : Scope) (limit : Nat) : (allowance : Nat) → Rule Expr
  | 0 => sums (factor scope limit none)
  | allowance + 1 => sums (factor scope limit (some (expression scope limit allowance)))

end Expr

end LineBasic
