import LineBasic.Proofs.InputLines
import LineBasic.Proofs.Runs
import LineBasic.Proofs.Spacing
import LineBasic.Session

/-!
# A quiet session is a run

A session and a run take the same lines off their input, but each its own way:
the session hears a line without all the line ends behind it, the run reads it
without one, and only the session listens for a line that asks to leave.
None of this shows, because line ends behind a line are a gap.

* **step** — a line that the run makes something of has the answer of the
  session that corresponds (`turn_unreadable`, …, `turn_effect`);
* **run** — so the session and the run of the lines before the first that asks
  to leave go on alike from any store (`continueWith_agrees`).

Main result: **`quiet_session_is_run`**.
-/

namespace LineBasic

/-- What is written of an effect. -/
def Effect.shown : Effect → Text
  | assigned _ _ => []
  | printed text => text ++ ['\n']

namespace Session

/-- Whether a line of the input asks to leave. One that is not text does not. -/
def asksToLeave (raw : Bytes) : Bool :=
  match decode? raw with
  | some text => isExit text
  | none => false

/-- The lines before the first that asks to leave. -/
def linesBeforeExit (lines : List Bytes) : List Bytes :=
  lines.takeWhile fun raw => !asksToLeave raw

/-- The input before the first line that asks to leave. -/
def beforeExit (input : Bytes) : Bytes := (linesBeforeExit (rawLines input)).flatten

theorem rawLines_beforeExit (input : Bytes) :
    rawLines (beforeExit input) = linesBeforeExit (rawLines input) :=
  rawLines_flatten (List.takeWhile_prefix _)

/-! ## Asking to leave -/

theorem isExit_append {t tail : Text} (white : ∀ ch ∈ tail, isWhite ch = true) :
    isExit (t ++ tail) = isExit t := by
  unfold isExit
  rw [trim_append white]

theorem isExit_of_blank {t : Text} (blank : isBlank t = true) : isExit t = false := by
  unfold isExit
  rw [trim_of_blank blank]
  decide

theorem isExit_dropLineEnd (t : Text) : isExit (dropLineEnd t) = isExit t := by
  obtain ⟨tail, ends, split⟩ := dropEndWhile_append isLineEnd t
  have white : ∀ ch ∈ tail, isWhite ch = true :=
    fun ch member => isWhite_of_isLineEnd (ends ch member)
  calc isExit (dropLineEnd t) = isExit (dropLineEnd t ++ tail) := (isExit_append white).symm
    _ = isExit t := congrArg isExit split.symm

/-! ## What a session hears -/

/-- What a session hears of a line that a run reads: the same but for a gap at
the end. -/
structure Heard (raw : Bytes) (line heard : Text) : Prop where
  decoded : ∃ text, decode? raw = some text ∧ dropLineEnd text = heard
  loose : Loose (.start line) (.start heard)
  blank : isBlank heard = isBlank line
  exit : isExit heard = asksToLeave raw

theorem exists_heard {raw : Bytes} {line : Text} (read : decode? (chomp raw) = some line) :
    ∃ heard, Heard raw line heard := by
  obtain ⟨text, tail, decoded, rfl, ends⟩ := dropLineEnd_of_chomp read
  have gap : ∀ ch ∈ tail, isGap ch = true := fun ch member => isGap_of_isLineEnd (ends ch member)
  have white : ∀ ch ∈ tail, isWhite ch = true :=
    fun ch member => isWhite_of_isLineEnd (ends ch member)
  refine ⟨dropLineEnd text, ⟨text, decoded, rfl⟩, (Respaced.append_gap false _ gap).loose,
    (isBlank_append white).symm, ?_⟩
  rw [isExit_dropLineEnd, asksToLeave, decoded]

/-! ## Step -/

/-- The answer to a line that has been executed. -/
def reply (line : Text) (execution : Execution) : Turn :=
  match execution.outcome with
  | .error error => .answer execution.store [] (some ⟨error, line, none⟩)
  | .ok effect => .answer execution.store effect.shown none

section Step

variable {store : Store} {raw : Bytes} {line : Text}

theorem turn_unreadable (unread : decode? (chomp raw) = none) :
    turn store (decode? raw) = .stop .invalidText := by
  rw [decode?_of_chomp_none unread]
  rfl

theorem turn_blank (read : decode? (chomp raw) = some line) (blank : isBlank line = true) :
    turn store (decode? raw) = .answer store [] none := by
  obtain ⟨heard, ⟨text, decoded, rfl⟩, _, sameBlank, _⟩ := exists_heard read
  rw [← sameBlank] at blank
  simp [turn, decoded, blank]

theorem turn_exit (asks : asksToLeave raw = true) :
    turn store (decode? raw) = .stop .exitCommand := by
  unfold asksToLeave at asks
  cases decoded : decode? raw with
  | none =>
    rw [decoded] at asks
    cases asks
  | some text =>
    simp only [decoded, ← isExit_dropLineEnd text] at asks
    cases blank : isBlank (dropLineEnd text) with
    | true =>
      rw [isExit_of_blank blank] at asks
      cases asks
    | false => simp [turn, blank, asks]

/-- A line that is executed has the answer of the line as it was heard. -/
theorem turn_busy (store : Store) (busy : Program.Busy raw line)
    (stays : asksToLeave raw = false) :
    ∃ heard, Loose (.start line) (.start heard) ∧
      turn store (decode? raw) = reply heard (execute store heard) := by
  obtain ⟨heard, ⟨text, decoded, rfl⟩, loose, sameBlank, exit⟩ := exists_heard busy.read
  have notBlank := sameBlank.trans busy.notBlank
  rw [← exit] at stays
  refine ⟨_, loose, ?_⟩
  simp only [turn, decoded, notBlank, stays, reply, Bool.false_eq_true, if_false]
  match (execute store (dropLineEnd text)).outcome with
  | .error _ => rfl
  | .ok (.assigned _ _) => rfl
  | .ok (.printed _) => rfl

theorem turn_rejected {error : LineError} (busy : Program.Busy raw line)
    (stays : asksToLeave raw = false) (outcome : (execute store line).outcome = .error error) :
    ∃ diagnostic : Diagnostic, error.Like anyPlace diagnostic.error ∧
      turn store (decode? raw) = .answer (execute store line).store [] (some diagnostic) := by
  obtain ⟨heard, loose, answer⟩ := turn_busy store busy stays
  obtain ⟨inStep, sameStore⟩ := loose.execute store
  rw [outcome] at inStep
  obtain ⟨error', outcome', like⟩ := inStep.of_error
  rw [answer, reply, outcome', sameStore]
  exact ⟨_, like, rfl⟩

theorem turn_effect {effect : Effect} (busy : Program.Busy raw line)
    (stays : asksToLeave raw = false) (outcome : (execute store line).outcome = .ok effect) :
    turn store (decode? raw) = .answer (execute store line).store effect.shown none := by
  obtain ⟨heard, loose, answer⟩ := turn_busy store busy stays
  obtain ⟨inStep, sameStore⟩ := loose.execute store
  rw [outcome] at inStep
  rw [answer, reply, inStep.of_ok, sameStore]

end Step

/-! ## Run -/

/-- A session and a run show the same: the same bytes, the same reasons for
rejecting lines, and whether a line was not text. -/
structure AgreesWith (session : Session) (run : Run) : Prop where
  output : encode session.output = run.output
  reasons : session.diagnostics.map (fun d => (d.error.cause, d.error.help)) =
    run.diagnostics.map fun d => (d.error.cause, d.error.help)
  stopped : session.ending = .invalidText ↔ run.outcome = .error .invalidText

theorem agreesWith_ended {ending : Ending} (other : ending ≠ .invalidText) :
    AgreesWith ⟨[], [], ending⟩ (.ended (.ok 0)) := by
  refine ⟨rfl, rfl, fun same => absurd same other, ?_⟩
  intro same
  cases same

namespace AgreesWith

variable {session : Session} {run : Run} (agrees : session.AgreesWith run)
include agrees

theorem observed (events : List Event) : session.AgreesWith (run.observed events) :=
  ⟨agrees.output, agrees.reasons, agrees.stopped⟩

theorem printed (text : Text) :
    AgreesWith ⟨text ++ ['\n'] ++ session.output, session.diagnostics, session.ending⟩
      (run.printed (printedBytes text)) := by
  refine ⟨?_, agrees.reasons, agrees.stopped⟩
  rw [Run.printed_output, ← agrees.output, encode_append, encode_append]
  rfl

theorem rejected {diagnostic diagnostic' : Diagnostic}
    (like : diagnostic'.error.Like anyPlace diagnostic.error) :
    AgreesWith ⟨session.output, diagnostic :: session.diagnostics, session.ending⟩
      (run.rejected diagnostic') := by
  refine ⟨agrees.output, ?_, ?_⟩
  · rw [Run.rejected_diagnostics, List.map_cons, List.map_cons, agrees.reasons, like.cause,
      like.help]
  · rw [Run.rejected_outcome, agrees.stopped]
    cases run.outcome <;> simp [Except.map]

end AgreesWith

theorem continueWith_stop {store : Store} {raw : Bytes} {later : List Bytes} {ending : Ending}
    (stops : turn store (decode? raw) = .stop ending) :
    continueWith true store (raw :: later) = ⟨[], [], ending⟩ := by
  simp [continueWith, stops, decoration]

theorem continueWith_answer {store store' : Store} {raw : Bytes} {later : List Bytes}
    {output : Text} {diagnostic : Option Diagnostic}
    (answers : turn store (decode? raw) = .answer store' output diagnostic) :
    continueWith true store (raw :: later) =
      ⟨output ++ (continueWith true store' later).output,
        diagnostic.toList ++ (continueWith true store' later).diagnostics,
        (continueWith true store' later).ending⟩ := by
  simp [continueWith, answers, decoration]

/-- **A session goes on as a run of the lines before the one that asks to
leave.** -/
theorem continueWith_agrees (store : Store) (number : Nat) (lines : List Bytes) :
    (continueWith true store lines).AgreesWith
      (Program.runFrom .unlimited store number (linesBeforeExit lines)) := by
  induction lines generalizing store number with
  | nil => exact agreesWith_ended (by decide)
  | cons raw later ih =>
    cases asks : asksToLeave raw with
    | true =>
      have none_left : linesBeforeExit (raw :: later) = [] := by simp [linesBeforeExit, asks]
      rw [continueWith_stop (turn_exit asks), none_left]
      exact agreesWith_ended (by decide)
    | false =>
      have stays : linesBeforeExit (raw :: later) = raw :: linesBeforeExit later := by
        simp [linesBeforeExit, asks]
      rw [stays]
      cases Program.LineCase.of store raw with
      | unreadable unread =>
        rw [continueWith_stop (turn_unreadable unread), Program.runFrom_unreadable unread]
        exact ⟨rfl, rfl, by decide⟩
      | blank read blank =>
        rw [continueWith_answer (turn_blank read blank), Program.runFrom_blank read blank]
        exact ih store (number + 1)
      | rejected busy outcome =>
        obtain ⟨diagnostic, like, answers⟩ := turn_rejected busy asks outcome
        rw [continueWith_answer answers, Program.runFrom_rejected busy outcome]
        exact ((ih _ (number + 1)).rejected like).observed _
      | assigned busy outcome =>
        rw [continueWith_answer (turn_effect busy asks outcome),
          Program.runFrom_assigned busy outcome]
        exact (ih _ (number + 1)).observed _
      | printed busy outcome =>
        rw [continueWith_answer (turn_effect busy asks outcome),
          Program.runFrom_unlimited_printed busy outcome]
        exact ((ih _ (number + 1)).printed _).observed _

end Session

/-- **A quiet session is a run** of its input up to the first line that asks to
leave, if there is one: it shows the same output and the same reasons for
rejecting lines, and both stop early exactly if there is a line that is not
text. -/
theorem quiet_session_is_run (input : Bytes) :
    (Session.converse true input).AgreesWith
      (Program.run .unlimited (Session.beforeExit input)) ∧
    ((Session.converse true input).ending = .invalidText ↔
      ∃ raw ∈ rawLines (Session.beforeExit input), decode? raw = none) := by
  have agrees : (Session.converse true input).AgreesWith
      (Program.run .unlimited (Session.beforeExit input)) := by
    rw [Program.run, Session.rawLines_beforeExit]
    exact Session.continueWith_agrees .empty 1 (rawLines input)
  refine ⟨agrees, ?_⟩
  rw [agrees.stopped, Program.run, Program.runFrom_unlimited_eq_error_iff]
  simp [decode?_chomp_eq_none_iff]

example : Session.beforeExit (encode "print 1\r\r\n QUIT\r\nprint 2".toList) =
    encode "print 1\r\r\n".toList := by decide +kernel

end LineBasic
