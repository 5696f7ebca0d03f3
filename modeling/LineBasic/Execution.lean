import LineBasic.Evaluator

/-!
# Executing lines

A line is evaluated as it is read, and then takes effect. A rejected line changes
nothing.
-/

namespace LineBasic

/-- How many parentheses may be open at once within a line. -/
def nestingLimit : Nat := 200

/-- What became of a line: its effect or its error, the store afterwards, and
the observations in order. -/
structure Execution where
  outcome : Except LineError Effect
  store : Store
  trace : List Event

/-- The observation of an effect that is about to happen. -/
def Effect.events : Effect → List Event
  | printed _ => []
  | assigned name value => [.assigning name value]

/-- Executes a line with at most `limit` parentheses open at once. -/
def executeWithin (limit : Nat) (store : Store) (line : Text) : Execution :=
  match Evaluator.line store limit line with
  | .error rejection => ⟨.error rejection.error, store, rejection.place.trace.reverse⟩
  | .ok (effect, lineEnd) =>
    ⟨.ok effect, effect.update store, lineEnd.trace.reverse ++ effect.events⟩

/-- Executes a line. -/
def execute (store : Store) (line : Text) : Execution := executeWithin nestingLimit store line

end LineBasic
