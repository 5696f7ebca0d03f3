import LineBasic.Cursor

/-!
# Matchers in any order

The matchers as data, so that one can speak of a sequence of attempts on one
line. Each attempt starts with the cursor that the one before it has left, found
or not. `Matcher.run_eq` says what that comes to: a matched token moves the cursor;
a failed attempt or an unclosed string leaves it where it was.
-/

namespace LineBasic

/-- A kind of token to look for. -/
inductive Matcher
  | keyword
  | variable
  | number
  | string
  | addOrSub
  | mulOrDiv
  | endOfLine
  | literal (text : Text)
  deriving DecidableEq, Repr

namespace Matcher

/-- What a matcher does. -/
def action : Matcher → Cursor.Scan Attempt
  | .keyword => .ok <$> Cursor.matchKeyword
  | .variable => .ok <$> Cursor.matchVariable
  | .number => .ok <$> Cursor.matchNumber
  | .string => Cursor.matchString
  | .addOrSub => .ok <$> Cursor.matchAddOrSub
  | .mulOrDiv => .ok <$> Cursor.matchMulOrDiv
  | .endOfLine => .ok <$> Cursor.matchEndOfLine
  | .literal text => .ok <$> Cursor.matchLiteral text

/-- One attempt and the cursor after it. -/
def run (matcher : Matcher) (c : Cursor) : Attempt × Cursor := matcher.action.run c

/-- The attempts of a sequence of matchers on one line, each with the cursor
after it. -/
def runAll : List Matcher → Cursor → List (Attempt × Cursor)
  | [], _ => []
  | matcher :: later, c =>
    let step := matcher.run c
    step :: runAll later step.2

/-- What a matcher finds. -/
def look (matcher : Matcher) (c : Cursor) : Except LineError (Option (Token × Cursor)) :=
  match matcher with
  | .keyword => .ok c.scanKeyword
  | .variable => .ok c.scanVariable
  | .number => .ok c.scanNumber
  | .string => c.scanString
  | .addOrSub => .ok c.scanAddOrSub
  | .mulOrDiv => .ok c.scanMulOrDiv
  | .endOfLine => .ok c.scanEndOfLine
  | .literal text => .ok (c.scanLiteral text)

theorem run_of_steady {matcher : Cursor.Scan (Option Token)} (steady : Cursor.Steady matcher)
    (c : Cursor) :
    Cursor.Scan.run (.ok <$> matcher : Cursor.Scan Attempt) c =
      match (.ok (matcher.find c) : Except LineError (Option (Token × Cursor))) with
      | .error error => (.error error, c)
      | .ok none => (.ok none, c)
      | .ok (some (token, next)) => (.ok (some token), next) := by
  show (Except.ok (matcher.run c).1, (matcher.run c).2) = _
  rw [steady.run_eq]
  cases matcher.find c with
  | none => rfl
  | some found => rfl

/-- What a matcher finds is all that it does. -/
theorem run_eq (matcher : Matcher) (c : Cursor) :
    matcher.run c = match matcher.look c with
      | .error error => (.error error, c)
      | .ok none => (.ok none, c)
      | .ok (some (token, next)) => (.ok (some token), next) := by
  cases matcher with
  | keyword | «variable» | number => exact run_of_steady (Cursor.steady_matchWord _ _ _) c
  | string => exact Cursor.matchString_run_eq c
  | addOrSub | mulOrDiv => exact run_of_steady (Cursor.steady_matchOperator _) c
  | endOfLine => exact run_of_steady Cursor.steady_matchEndOfLine c
  | literal text => exact run_of_steady (Cursor.steady_matchLiteral text) c

end Matcher

end LineBasic
