import LineBasic.ErrorStream
import LineBasic.Proofs.Sessions

/-!
# What a quiet session leaves out

A session has one prompt for each time it waits for a line, a greeting before
the first and a farewell after the last. A quiet one shows none of these, and
what is left is what its lines have it write: a printed text, or nothing for a
line that is blank, assigns or is rejected.

* **step** — at a line of its input a session stops, or it hears a text and
  answers that (`hear`, `turn_of_stop`, `turn_of_heard`);
* **run** — hence it shows the answers to the texts it has heard, in order, each
  behind a prompt unless it is quiet (`continueWith_eq`).

Main result: **`quiet_leaves_out_decoration`**.
-/

namespace LineBasic

namespace Session

/-! ## What a session hears -/

/-- What comes of a line of the input: a session stops at it, or hears its text
without the line ends behind it. -/
def hear (raw : Bytes) : Except Ending Text :=
  match decode? raw with
  | none => .error .invalidText
  | some text => if isExit text then .error .exitCommand else .ok (dropLineEnd text)

/-- The texts that a session hears before it stops. -/
def heard : (lines : List Bytes) → List Text
  | [] => []
  | raw :: later =>
    match hear raw with
    | .error _ => []
    | .ok line => line :: heard later

/-- Why a session over some lines is over. -/
def endingOf : (lines : List Bytes) → Ending
  | [] => .endOfInput
  | raw :: later =>
    match hear raw with
    | .error ending => ending
    | .ok _ => endingOf later

theorem heard_take (lines : List Bytes) (n : Nat) :
    heard (lines.take n) = (heard lines).take n := by
  induction lines generalizing n with
  | nil => simp [heard]
  | cons raw later ih =>
    cases n with
    | zero => simp [heard]
    | succ n =>
      rw [List.take_succ_cons, heard, heard]
      cases hear raw with
      | error ending => rfl
      | ok line => exact congrArg (line :: ·) (ih n)

/-! ## What it answers -/

/-- What a session writes for a text that it has heard. -/
def written (store : Store) (line : Text) : Text :=
  if isBlank line then []
  else
    match (execute store line).outcome with
    | .ok (.printed text) => text ++ ['\n']
    | .ok (.assigned _ _) => []
    | .error _ => []

/-- What it reports of it. -/
def reported? (store : Store) (line : Text) : Option Diagnostic :=
  if isBlank line then none
  else
    match (execute store line).outcome with
    | .ok _ => none
    | .error error => some ⟨error, line, none⟩

/-- The store that the text leaves. -/
def storeBehind (store : Store) (line : Text) : Store :=
  if isBlank line then store else (execute store line).store

/-- What a session writes for the texts that it has heard, one by one. -/
def answers (store : Store) : (lines : List Text) → List Text
  | [] => []
  | line :: later => written store line :: answers (storeBehind store line) later

/-- What it reports of them. -/
def reports (store : Store) : (lines : List Text) → List Diagnostic
  | [] => []
  | line :: later => (reported? store line).toList ++ reports (storeBehind store line) later

theorem answers_take (store : Store) (lines : List Text) (n : Nat) :
    answers store (lines.take n) = (answers store lines).take n := by
  induction lines generalizing store n with
  | nil => simp [answers]
  | cons line later ih =>
    cases n with
    | zero => simp [answers]
    | succ n =>
      rw [List.take_succ_cons, answers, answers, List.take_succ_cons, ih]

theorem length_answers (store : Store) (lines : List Text) :
    (answers store lines).length = lines.length := by
  induction lines generalizing store with
  | nil => rfl
  | cons line later ih => rw [answers, List.length_cons, List.length_cons, ih]

/-! ## Step -/

section Step

variable {store : Store} {raw : Bytes}

theorem turn_of_stop {ending : Ending} (stops : hear raw = .error ending) :
    turn store (decode? raw) = .stop ending := by
  unfold hear at stops
  cases decoded : decode? raw with
  | none =>
    simp only [decoded, Except.error.injEq] at stops
    rw [← stops]
    exact rfl
  | some text =>
    simp only [decoded] at stops
    by_cases leaves : isExit text = true
    · rw [if_pos leaves] at stops
      have asks : asksToLeave raw = true := by simp [asksToLeave, decoded, leaves]
      rw [← Except.error.inj stops, ← decoded, turn_exit asks]
    · rw [if_neg leaves] at stops
      cases stops

theorem turn_of_heard {line : Text} (hears : hear raw = .ok line) :
    turn store (decode? raw) =
      .answer (storeBehind store line) (written store line) (reported? store line) := by
  unfold hear at hears
  cases decoded : decode? raw with
  | none =>
    rw [decoded] at hears
    cases hears
  | some text =>
    simp only [decoded] at hears
    by_cases leaves : isExit text = true
    · rw [if_pos leaves] at hears
      cases hears
    · rw [if_neg leaves] at hears
      have stays : isExit (dropLineEnd text) = false := by
        rw [isExit_dropLineEnd]
        simpa using leaves
      rw [← Except.ok.inj hears]
      by_cases blank : isBlank (dropLineEnd text) = true
      · simp [turn, written, reported?, storeBehind, blank]
      · simp only [turn, written, reported?, storeBehind, if_neg blank, stays,
          Bool.false_eq_true, if_false]
        cases (execute store (dropLineEnd text)).outcome with
        | error => rfl
        | ok effect => cases effect <;> rfl

end Step

/-! ## Run -/

/-- **A session shows its answers**, each behind a prompt unless it is quiet. -/
theorem continueWith_eq (quiet : Bool) (store : Store) (lines : List Bytes) :
    continueWith quiet store lines =
      { output := (answers store (heard lines)).flatMap (decoration quiet prompt ++ ·) ++
          decoration quiet (prompt ++ (endingOf lines).farewell)
        diagnostics := reports store (heard lines)
        ending := endingOf lines } := by
  induction lines generalizing store with
  | nil => rfl
  | cons raw later ih =>
    rw [continueWith, heard, endingOf]
    cases hears : hear raw with
    | error ending =>
      rw [turn_of_stop hears]
      rfl
    | ok line =>
      rw [turn_of_heard hears]
      simp only [ih, answers, reports, List.flatMap_cons, List.append_assoc]

theorem decoration_true (t : Text) : decoration true t = [] := rfl

theorem decoration_false (t : Text) : decoration false t = t := rfl

theorem converse_quiet_output (input : Bytes) :
    (converse true input).output = (answers .empty (heard (rawLines input))).flatten := by
  simp [converse, continueWith_eq, decoration_true]

end Session

/-! ## The texts of the decoration -/

theorem Session.banner_eq :
    banner = ["minibasic v0.1.0",
      "Statements: LET <var> = <expr>, PRINT <value>[, <value>...]",
      "Type 'exit' or press Ctrl+D to quit", ""].flatMap fun line => line.toList ++ ['\n'] := by
  decide +kernel

theorem Session.Ending.farewell_eq (ending : Ending) :
    ending.farewell = match ending with
      | .endOfInput => ['\n']
      | .exitCommand => "Goodbye!".toList ++ ['\n']
      | .invalidText => [] := by
  cases ending with
  | endOfInput => rfl
  | exitCommand => decide +kernel
  | invalidText => rfl

/-- **A quiet session leaves out decoration and nothing else.** What it writes
for its lines one by one, and so for any number of its first lines, stands
behind the four lines of greeting of a session that is not quiet, with a prompt
before each line. Behind that stand one more prompt and the end of the session: a
line feed if the input is over, `Goodbye!` and a line feed if it was asked to leave,
and nothing at a line that is not text. Both report the same and end alike: at the
first line at which to stop, or else with the input. -/
theorem quiet_leaves_out_decoration (input : Bytes) :
    let lines := rawLines input
    let texts := Session.answers .empty (Session.heard lines)
    let quiet := Session.converse true input
    let loud := Session.converse false input
    texts.length = (Session.heard lines).length ∧ quiet.output = texts.flatten ∧
    (∀ n, (Session.converse true (lines.take n).flatten).output = (texts.take n).flatten) ∧
    loud.output =
      (["minibasic v0.1.0", "Statements: LET <var> = <expr>, PRINT <value>[, <value>...]",
        "Type 'exit' or press Ctrl+D to quit", ""].flatMap fun line => line.toList ++ ['\n']) ++
      texts.flatMap ("> ".toList ++ ·) ++ "> ".toList ++
      (match Session.endingOf lines with
        | .endOfInput => ['\n']
        | .exitCommand => "Goodbye!".toList ++ ['\n']
        | .invalidText => []) ∧
    (rawLines (encode Session.banner)).length = 4 ∧
    (rawLines (encode Session.banner)).getLast? = some [lineFeed] ∧
    quiet.ending = Session.endingOf lines ∧ loud.ending = Session.endingOf lines ∧
    loud.diagnostics = quiet.diagnostics ∧ loud.errorText = quiet.errorText := by
  intro lines texts quiet loud
  have reported : loud.diagnostics = quiet.diagnostics := by
    simp only [loud, quiet, Session.converse, Session.continueWith_eq]
  have ended : loud.ending = quiet.ending := by
    simp only [loud, quiet, Session.converse, Session.continueWith_eq]
  refine ⟨Session.length_answers _ _, Session.converse_quiet_output input, ?_, ?_,
    by decide +kernel, by decide +kernel, ?_, ?_, reported, ?_⟩
  · intro n
    rw [Session.converse_quiet_output, rawLines_flatten (List.take_prefix n lines),
      Session.heard_take, Session.answers_take]
  · have prompts : Session.prompt = "> ".toList := by decide +kernel
    simp only [loud, Session.converse, Session.continueWith_eq, Session.decoration_false,
      List.append_assoc, ← Session.banner_eq, ← prompts]
    rw [Session.Ending.farewell_eq]
  · simp only [quiet, Session.converse, Session.continueWith_eq]
    rfl
  · simp only [loud, Session.converse, Session.continueWith_eq]
    rfl
  · rw [Session.errorText, Session.errorText, reported, ended]

example : Session.heard (rawLines (encode "\r\nprint 1\n exit \nprint 2".toList)) =
    [[], "print 1".toList] := by decide +kernel

end LineBasic
