import LineBasic.Phrase
import LineBasic.Statement

/-!
# Evaluating lines as they are read

A line is worked out in one pass from left to right, and no tree is built. A factor
is a number as soon as it has been read, an operator is applied as soon as its right
operand is there, and `PRINT` writes each value down before it looks for a comma.
Every attempt at a token starts with the cursor that the attempt before it has left.

The grammar and the limit on parentheses are those of the reader of trees: what a
line comes to here is the effect of the statement that it spells.
-/

namespace LineBasic

namespace Evaluator

/-! ## Expressions -/

/-- Goes on after `left`, the number so far, with as many operators and operands as
follow. -/
def chain (operator : (c : Cursor) → Search c) (operand : Rule Float) {c : Cursor}
    (left : Phrase c Float) : Reading c Float :=
  match operator left.next with
  | .failed place notLonger => .ok (left.movedTo place notLonger)
  | .found sign =>
    match operand sign.next with
    | .error rejection => .error rejection
    | .ok right =>
      match Operator.ofSymbol? sign.value.lexeme with
      | none => right.next.reject (.unknownOperator sign.value.lexeme) sign.value.span
      | some operation =>
        chain operator operand
          ((left.followedBy sign ()).followedBy right (operation.apply left.value right.value))
termination_by left.next.rest.length
decreasing_by exact Nat.lt_trans right.shorter sign.shorter

/-- Operands with operators between them. -/
def leftGrouped (operator : (c : Cursor) → Search c) (operand : Rule Float) : Rule Float :=
  fun c =>
    match operand c with
    | .error rejection => .error rejection
    | .ok first => chain operator operand first

/-- What an opening parenthesis begins. There is no `inner` rule where one more open
parenthesis would be beyond the limit. -/
def group (limit : Nat) (inner : Option (Rule Float)) {c : Cursor} (opening : Phrase c Token) :
    Reading c Float :=
  match inner with
  | none => opening.next.reject (.nestingTooDeep limit) opening.value.span
  | some rule =>
    match rule opening.next with
    | .error rejection => .error rejection
    | .ok body =>
      match body.next.seekSymbol ')' with
      | .failed place _ => place.missing .missingRightParen
      | .found closing => .ok ((opening.followedBy body ()).followedBy closing body.value)

/-- The value of a variable that has one. -/
def lookUp (store : Store) {c : Cursor} (word : Phrase c Token) : Reading c Float :=
  let name := fold word.value.lexeme
  match store.get? name with
  | none => word.next.reject (.variableNotFound name) word.value.span
  | some value => .ok (word.withValue value)

/-- A number, or else a variable, or else an expression in parentheses. -/
def factor (store : Store) (limit : Nat) (inner : Option (Rule Float)) : Rule Float := fun c =>
  match c.seekNumber with
  | .found literal => .ok (literal.withValue (literalValue literal.value.lexeme))
  | .failed c₁ le₁ =>
    match c₁.seekVariable with
    | .found word => (lookUp store word).since le₁
    | .failed c₂ le₂ =>
      match c₂.seekSymbol '(' with
      | .found opening => (group limit inner opening).since (Nat.le_trans le₂ le₁)
      | .failed c₃ _ => c₃.missing .expressionExpected

/-- Products and quotients of factors, then sums and differences of those. -/
def sums (factor : Rule Float) : Rule Float :=
  leftGrouped Cursor.seekAddOrSub (leftGrouped Cursor.seekMulOrDiv factor)

/-- An expression in which `allowance` more parentheses may be open. -/
def expression (store : Store) (limit : Nat) : (allowance : Nat) → Rule Float
  | 0 => sums (factor store limit none)
  | allowance + 1 => sums (factor store limit (some (expression store limit allowance)))

/-! ## Values -/

/-- A string, or else an expression. -/
def item (expression : Rule Float) : Rule Value := fun c =>
  match c.seekString with
  | .error rejection => .error rejection
  | .ok (.found quoted) =>
    .ok ((quoted.withValue (.string quoted.value.lexeme)).observed (.printable .string))
  | .ok (.failed c₁ le₁) =>
    match expression c₁ with
    | .error rejection => .error rejection
    | .ok x => .ok (((x.withValue (.number x.value)).observed (.printable .number)).since le₁)

/-- Goes on after what has been written, with as many commas and values as follow. -/
def items (item : Rule Value) {c : Cursor} (written : Phrase c Text) : Reading c Text :=
  match written.next.seekSymbol ',' with
  | .failed place notLonger => .ok (written.movedTo place notLonger)
  | .found comma =>
    match item comma.next with
    | .error rejection => .error rejection
    | .ok value =>
      items item
        ((written.followedBy comma ()).followedBy value (written.value ++ value.value.display))
termination_by written.next.rest.length
decreasing_by exact Nat.lt_trans value.shorter comma.shorter

/-! ## Lines -/

/-- An effect and the end of its line, or why there is none. -/
abbrev Result := Except Rejection (Effect × Cursor)

/-- Accepts an effect if the line ends behind it. -/
def closed (effect : Effect) (c : Cursor) : Result :=
  match Cursor.matchEndOfLine.run c with
  | (none, left) => left.missing .endOfLineExpected
  | (some _, lineEnd) => .ok (effect, lineEnd)

/-- The rest of an assignment. -/
def afterLet (expression : Rule Float) (c : Cursor) : Result :=
  match c.seekVariable with
  | .failed left _ => left.missing .variableExpected
  | .found target =>
    match target.next.seekSymbol '=' with
    | .failed left _ => left.missing .equalsExpected
    | .found equals =>
      match expression equals.next with
      | .error rejection => .error rejection
      | .ok source => closed (.assigned (fold target.value.lexeme) source.value) source.next

/-- The rest of a `PRINT` line, which may be empty. -/
def afterPrint (expression : Rule Float) (c : Cursor) : Result :=
  match Cursor.matchEndOfLine.run c with
  | (some _, lineEnd) => .ok (.printed [], lineEnd)
  | (none, left) =>
    match item expression left with
    | .error rejection => .error rejection
    | .ok first =>
      match items (item expression) (first.withValue first.value.display) with
      | .error rejection => .error rejection
      | .ok written => closed (.printed written.value) written.next

/-- Evaluates a line, with at most `limit` parentheses open at once. -/
def line (store : Store) (limit : Nat) (line : Text) : Result :=
  match Cursor.matchKeyword.run (.start line) with
  | (none, left) => left.missing .statementExpected
  | (some keyword, next) =>
    let word := fold keyword.lexeme
    let body := next.observe (.dispatching word)
    if word = ['l', 'e', 't'] then afterLet (expression store limit limit) body
    else if word = ['p', 'r', 'i', 'n', 't'] then
      afterPrint (expression store limit limit) body
    else body.reject (.unknownStatement word) keyword.span

end Evaluator

end LineBasic
