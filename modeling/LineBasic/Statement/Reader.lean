import LineBasic.Expr.Reader
import LineBasic.Statement

/-!
# Reading statements

    statement  = "let" variable "=" expression
               | "print" [item ("," item)*]
    item       = string | expression

The first word of a line is the longest run of letters there and is compared
in lower case. After the statement, only a gap may stand before the end of the
line.

This reader leaves a tree to look at. Lines are executed without one, by the
evaluator, which reads by the same rules.
-/

namespace LineBasic

namespace Item

/-- A string, or else an expression. -/
def rule (expression : Rule Expr) : Rule Item := fun c =>
  match c.nextString with
  | .error rejection => .error rejection
  | .ok (some quoted) =>
    .ok ((quoted.withValue (.string quoted.value.lexeme)).observed (.printable .string))
  | .ok none =>
    match expression c with
    | .error rejection => .error rejection
    | .ok e => .ok ((e.withValue (.expr e.value)).observed (.printable .number))

/-- One item or more, with commas between them. -/
def list (item : Rule Item) (c : Cursor) : Reading c (List Item) :=
  match item c with
  | .error rejection => .error rejection
  | .ok first =>
    match first.next.nextSymbol ',' with
    | none => .ok (first.withValue [first.value])
    | some comma =>
      match list item comma.next with
      | .error rejection => .error rejection
      | .ok others =>
        .ok ((first.followedBy comma ()).followedBy others (first.value :: others.value))
termination_by c.rest.length
decreasing_by exact Nat.lt_trans comma.shorter first.shorter

end Item

namespace Statement

/-- A statement and the end of its line, or why there is none. -/
abbrev Result := Except Rejection (Statement × Cursor)

/-- Accepts a statement if the line ends behind it. -/
def closed (statement : Statement) (c : Cursor) : Result :=
  match c.scanEndOfLine with
  | none => c.missing .endOfLineExpected
  | some (_, lineEnd) => .ok (statement, lineEnd)

/-- The rest of an assignment. -/
def afterLet (expression : Rule Expr) (c : Cursor) : Result :=
  match c.nextVariable with
  | none => c.missing .variableExpected
  | some target =>
    match target.next.nextSymbol '=' with
    | none => target.next.missing .equalsExpected
    | some equals =>
      match expression equals.next with
      | .error rejection => .error rejection
      | .ok source => closed (.assign (fold target.value.lexeme) source.value) source.next

/-- The rest of a `PRINT` line, which may be empty. -/
def afterPrint (expression : Rule Expr) (c : Cursor) : Result :=
  match c.scanEndOfLine with
  | some (_, lineEnd) => .ok (.print [], lineEnd)
  | none =>
    match Item.list (Item.rule expression) c with
    | .error rejection => .error rejection
    | .ok items => closed (.print items.value) items.next

/-- Reads a line, with at most `limit` parentheses open at once. -/
def read (scope : Scope) (limit : Nat) (line : Text) : Result :=
  let c := Cursor.start line
  match c.nextKeyword with
  | none => c.missing .statementExpected
  | some first =>
    let word := fold first.value.lexeme
    let body := first.next.observe (.dispatching word)
    if word = ['l', 'e', 't'] then afterLet (Expr.expression scope limit limit) body
    else if word = ['p', 'r', 'i', 'n', 't'] then
      afterPrint (Expr.expression scope limit limit) body
    else body.reject (.unknownStatement word) first.value.span

end Statement

end LineBasic
