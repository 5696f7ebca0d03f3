import LineBasic.Text

/-!
# Tokens

A token is a piece of a line together with the place where it stands. Places
are byte offsets, so a span can be compared with the length of a line.
-/

namespace LineBasic

/-- A range of bytes of a line, from `start` up to but not including `stop`. -/
structure Span where
  start : Nat
  stop : Nat
  deriving DecidableEq, Repr

/-- The span of one byte. -/
def Span.single (place : Nat) : Span := ⟨place, place + 1⟩

/-- What a token was matched as. -/
inductive TokenKind
  | keyword
  | variable
  | number
  | string
  | literal
  | operator
  | endOfLine
  deriving DecidableEq, Repr

/-- A matched piece of a line. The lexeme of a string is what stands between
its quotes, and so is its span. -/
structure Token where
  kind : TokenKind
  lexeme : Text
  span : Span
  deriving DecidableEq, Repr

end LineBasic
