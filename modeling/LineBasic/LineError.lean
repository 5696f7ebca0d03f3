import LineBasic.Token

/-!
# Why a line is rejected

A rejected line has one `Cause`, a place in the line, and for some causes a
word of help. Stage, message and help are read off the cause.
-/

namespace LineBasic

/-- The reason for rejecting a line. -/
inductive Cause
  /-- A quote opens a string that no quote closes. -/
  | unterminatedString
  /-- The line does not begin with a word. -/
  | statementExpected
  /-- The first word of the line, in lower case, names no statement. -/
  | unknownStatement (word : Text)
  | variableExpected
  | equalsExpected
  | endOfLineExpected
  | missingRightParen
  | expressionExpected
  /-- One more parenthesis than the `limit` allows would be open. -/
  | nestingTooDeep (limit : Nat)
  /-- An operator that arithmetic does not have. -/
  | unknownOperator (symbol : Text)
  /-- A variable, by its name in lower case, that has no value yet. -/
  | variableNotFound (name : Text)
  deriving DecidableEq, Repr

/-- The part of the work on a line that rejects it. -/
inductive Stage
  | lexical
  | grammar
  | runtime
  deriving DecidableEq, Repr

namespace Cause

/-- The stage that finds a cause. -/
def stage : Cause → Stage
  | unterminatedString => .lexical
  | variableNotFound _ => .runtime
  | statementExpected | unknownStatement _ | variableExpected | equalsExpected
  | endOfLineExpected | missingRightParen | expressionExpected | nestingTooDeep _
  | unknownOperator _ => .grammar

/-- The sentence that reports a cause. -/
def message : Cause → String
  | unterminatedString => "Unclosed string"
  | statementExpected => "Statement expected"
  | unknownStatement word => "Unknown statement: " ++ String.ofList word
  | variableExpected => "Variable expected"
  | equalsExpected => "= expected"
  | endOfLineExpected => "End of line expected"
  | missingRightParen => "Missing \")\""
  | expressionExpected => "Expression expected"
  | nestingTooDeep limit =>
    "Expression nested too deeply (limit " ++ toString limit ++ ")"
  | unknownOperator symbol => "Unknown operator: " ++ String.ofList symbol
  | variableNotFound name => "Variable " ++ String.ofList name ++ " not found"

/-- Advice for the writer of the line, where there is any. -/
def help? : Cause → Option String
  | unterminatedString =>
    some "Close the string with a matching '\"' before the end of the line."
  | unknownStatement _ => some "Only LET and PRINT statements are supported."
  | variableExpected => some "LET needs a variable name: LET x = 1"
  | missingRightParen => some "Every '(' needs a matching ')'."
  | variableNotFound name =>
    some ("Assign it first: LET " ++ String.ofList name ++ " = ...")
  | statementExpected | equalsExpected | endOfLineExpected | expressionExpected
  | nestingTooDeep _ | unknownOperator _ => none

end Cause

/-- A rejection: why, where, and what to do about it. -/
structure LineError where
  cause : Cause
  span : Span
  help : Option String
  deriving DecidableEq, Repr

/-- The rejection for a cause at a place, with the help that goes with it. -/
def LineError.at (cause : Cause) (span : Span) : LineError := ⟨cause, span, cause.help?⟩

end LineBasic
