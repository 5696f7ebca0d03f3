import LineBasic.Diagnostic.Render
import LineBasic.Program
import LineBasic.Session

/-!
# The error stream

What runs and sessions write beside their output: their diagnostics, rendered
in the order in which they arose.
-/

namespace LineBasic

/-- The rendered diagnostics of a run whose program has a file name. -/
def Run.errorText (run : Run) (filename : Text) : String :=
  String.join (run.diagnostics.map (·.render filename))

/-- The rendered diagnostics of a session, and why its input could not be read
to the end if that was so. -/
def Session.errorText (session : Session) : String :=
  let unreadable :=
    if session.ending = .invalidText then
      "Error reading input: " ++ RunError.invalidText.message ++ "\n"
    else ""
  String.join (session.diagnostics.map (·.render promptName)) ++ unreadable

end LineBasic
