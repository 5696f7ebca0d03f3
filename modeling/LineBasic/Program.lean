import LineBasic.Diagnostic
import LineBasic.Execution
import LineBasic.Text.Lines

/-!
# Running a program

A program is a sequence of bytes. Its lines run one after the other against
one store; a rejected line is reported and the run goes on. What ends a run
early is input that is not text or output that cannot be written. Blank lines
do nothing, but they count.
-/

namespace LineBasic

/-- What ends a run early. -/
inductive RunError
  /-- A line is not UTF-8. -/
  | invalidText
  /-- The sink has closed. -/
  | sinkClosed
  /-- The sink takes no more bytes. -/
  | sinkFull
  /-- The sink cannot pass on what it has taken. -/
  | flushFailed
  deriving DecidableEq, Repr

/-- The text of a run error. -/
def RunError.message : RunError → String
  | .invalidText => "stream did not contain valid UTF-8"
  | .sinkClosed => "sink closed"
  | .sinkFull => "failed to write whole buffer"
  | .flushFailed => "flush failed"

/-- Where output goes. A sink takes `capacity` bytes in all, without limit if
there is none. To an offer beyond that its answer is `refusal`: an error, or, if
this is `sinkFull`, that it takes none of the bytes. -/
structure Sink where
  capacity : Option Nat
  refusal : RunError
  flushFails : Bool

namespace Sink

/-- A sink that takes everything. -/
def unlimited : Sink := ⟨none, .sinkClosed, false⟩

/-- How many bytes a sink takes of those that it is offered. -/
def offer (sink : Sink) (piece : Bytes) : Except RunError Nat :=
  match sink.capacity with
  | none => .ok piece.length
  | some room =>
    if room = 0 ∧ sink.refusal ≠ .sinkFull then .error sink.refusal
    else .ok (min room piece.length)

/-- A sink after it has taken some bytes. -/
def took (sink : Sink) (count : Nat) : Sink :=
  { sink with capacity := sink.capacity.map (· - count) }

/-- Writes a piece of output: offers what is left of it until nothing is. Tells
the bytes that the sink kept, and the sink afterwards or why it failed. To take
none of the bytes is to fail. -/
def write (sink : Sink) (piece : Bytes) : Bytes × Except RunError Sink :=
  if piece = [] then ([], .ok sink)
  else
    match sink.offer piece with
    | .error error => ([], .error error)
    | .ok 0 => ([], .error .sinkFull)
    | .ok (taken + 1) =>
      let (kept, result) := (sink.took (taken + 1)).write (piece.drop (taken + 1))
      (piece.take (taken + 1) ++ kept, result)
termination_by piece.length
decreasing_by
  have := List.length_pos_iff.2 ‹_›
  simp only [List.length_drop]
  omega

/-- Writes pieces of output one after another, up to the first failure. -/
def writeAll (sink : Sink) : (pieces : List Bytes) → Bytes × Except RunError Sink
  | [] => ([], .ok sink)
  | piece :: later =>
    match sink.write piece with
    | (kept, .error error) => (kept, .error error)
    | (kept, .ok sink) =>
      let (more, result) := sink.writeAll later
      (kept ++ more, result)

end Sink

/-- All that a run shows: the bytes kept by the sink, the rejected lines, the
observations, and the number of rejected lines or what ended the run early. -/
structure Run where
  output : Bytes
  diagnostics : List Diagnostic
  trace : List Event
  outcome : Except RunError Nat

namespace Run

/-- A run that does nothing more. -/
def ended (outcome : Except RunError Nat) : Run := ⟨[], [], [], outcome⟩

/-- A run after observations. -/
def observed (events : List Event) (run : Run) : Run := { run with trace := events ++ run.trace }

/-- A run after a piece of output. -/
def printed (piece : Bytes) (run : Run) : Run := { run with output := piece ++ run.output }

/-- A run after a rejected line. -/
def rejected (diagnostic : Diagnostic) (run : Run) : Run :=
  { run with
    diagnostics := diagnostic :: run.diagnostics
    outcome := run.outcome.map (· + 1) }

end Run

namespace Program

/-- Runs the lines from line `number` on. -/
def runFrom (sink : Sink) (store : Store) (number : Nat) : (lines : List Bytes) → Run
  | [] => .ended (if sink.flushFails then .error .flushFailed else .ok 0)
  | raw :: later =>
    match decode? (chomp raw) with
    | none => .ended (.error .invalidText)
    | some line =>
      if isBlank line then runFrom sink store (number + 1) later
      else
        let execution := execute store line
        Run.observed (.runningLine number :: execution.trace) <|
          match execution.outcome with
          | .error error =>
            .rejected ⟨error, line, some number⟩
              (runFrom sink execution.store (number + 1) later)
          | .ok (.assigned _ _) => runFrom sink execution.store (number + 1) later
          | .ok (.printed text) =>
            match sink.writeAll [encode text, [lineFeed]] with
            | (kept, .ok sink) =>
              .printed kept (runFrom sink execution.store (number + 1) later)
            | (kept, .error error) => .printed kept (.ended (.error error))

/-- Runs a program. -/
def run (sink : Sink) (source : Bytes) : Run := runFrom sink .empty 1 (rawLines source)

end Program

end LineBasic
