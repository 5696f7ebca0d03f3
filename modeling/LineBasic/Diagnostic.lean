import LineBasic.LineError

/-!
# Diagnostics

A diagnostic is a rejection together with the line it is about. Errors place
their cause by bytes, while a reader of the line sees characters; `charOffset`
takes one to the other for any number whatsoever, also inside a character or
past the end of the line.
-/

namespace LineBasic

/-- The number of characters of a text that begin before a byte offset. -/
def charOffset : Text → Nat → Nat
  | [], _ => 0
  | c :: rest, place => if place = 0 then 0 else charOffset rest (place - c.utf8Size) + 1

/-- The characters that a span touches, from the first up to but not including
the second number. -/
def Span.highlight (span : Span) (source : Text) : Nat × Nat :=
  let start := charOffset source span.start
  (start, max (charOffset source span.stop) start)

/-- A rejected line. Lines of a program have a number, counted from one. -/
structure Diagnostic where
  error : LineError
  source : Text
  lineNumber : Option Nat
  deriving DecidableEq, Repr

end LineBasic
