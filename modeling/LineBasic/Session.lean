import LineBasic.Diagnostic
import LineBasic.Execution
import LineBasic.Text.Lines

/-!
# Sessions

A session reads lines from a person, or from whatever stands in for one, and
answers each at once. It ends with its input, at `exit` or `quit`, or at a
line that is not text. A quiet session shows no banner, prompt or farewell and
is otherwise the same.
-/

namespace LineBasic

namespace Session

/-- Why a session is over. -/
inductive Ending
  | endOfInput
  | exitCommand
  | invalidText
  deriving DecidableEq, Repr

/-- The answer to one line. -/
inductive Turn
  /-- The session goes on, with output and possibly a rejected line. -/
  | answer (store : Store) (output : Text) (diagnostic : Option Diagnostic)
  | stop (ending : Ending)

/-- A text without regard to the case of ASCII letters. -/
def asciiFold (t : Text) : Text := t.map Char.toLower

/-- Whether a line asks to leave. -/
def isExit (line : Text) : Bool :=
  let command := String.ofList (asciiFold (trim line))
  command == "exit" || command == "quit"

/-- Answers a line, which is nothing if it could not be read as text. -/
def turn (store : Store) (input : Option Text) : Turn :=
  match input with
  | none => .stop .invalidText
  | some text =>
    let line := dropLineEnd text
    if isBlank line then .answer store [] none
    else if isExit line then .stop .exitCommand
    else
      let execution := execute store line
      match execution.outcome with
      | .error error => .answer execution.store [] (some ⟨error, line, none⟩)
      | .ok (.assigned _ _) => .answer execution.store [] none
      | .ok (.printed output) => .answer execution.store (output ++ ['\n']) none

/-- The greeting of a session. -/
def banner : Text :=
  ("minibasic v0.1.0\n"
    ++ "Statements: LET <var> = <expr>, PRINT <value>[, <value>...]\n"
    ++ "Type 'exit' or press Ctrl+D to quit\n\n").toList

/-- What invites a line. -/
def prompt : Text := ['>', ' ']

/-- What is written when a session ends. -/
def Ending.farewell : Ending → Text
  | .endOfInput => ['\n']
  | .exitCommand => "Goodbye!\n".toList
  | .invalidText => []

/-- A text that a quiet session leaves out. -/
def decoration (quiet : Bool) (t : Text) : Text := if quiet then [] else t

end Session

/-- All that a session shows. -/
structure Session where
  output : Text
  diagnostics : List Diagnostic
  ending : Session.Ending

namespace Session

/-- Continues a session with the given lines still to come. -/
def continueWith (quiet : Bool) (store : Store) : (lines : List Bytes) → Session
  | [] => ⟨decoration quiet (prompt ++ Ending.endOfInput.farewell), [], .endOfInput⟩
  | raw :: later =>
    match turn store (decode? raw) with
    | .stop ending => ⟨decoration quiet (prompt ++ ending.farewell), [], ending⟩
    | .answer store output diagnostic =>
      let others := continueWith quiet store later
      ⟨decoration quiet prompt ++ output ++ others.output,
        diagnostic.toList ++ others.diagnostics, others.ending⟩

/-- A whole session over its input. -/
def converse (quiet : Bool) (input : Bytes) : Session :=
  let session := continueWith quiet .empty (rawLines input)
  { session with output := decoration quiet banner ++ session.output }

end Session

end LineBasic
