import LineBasic.Token

/-!
# Events

What the interpreter tells an observer while it works on a line, in order.
Events describe the work and never influence it.
-/

namespace LineBasic

/-- The two kinds of printable values. -/
inductive ValueKind
  | number
  | string
  deriving DecidableEq, Repr

/-- The word for a kind of value. -/
def ValueKind.label : ValueKind → String
  | .number => "number"
  | .string => "string"

/-- One observation. -/
inductive Event
  /-- A token was matched. An operator is still a plain literal here. -/
  | matched (token : Token)
  /-- The statement word of a line, in lower case, was read. -/
  | dispatching (word : Text)
  /-- A line gives a variable a value. -/
  | assigning (name : Text) (value : Float)
  /-- One value of a `PRINT` list was read. -/
  | printable (kind : ValueKind)
  /-- A program line that is not blank is about to be run. Lines count from
  one. -/
  | runningLine (number : Nat)
  deriving DecidableEq

end LineBasic
