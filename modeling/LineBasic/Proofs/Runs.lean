import LineBasic.Program

/-!
# One line of a run

A run takes its lines one at a time, and there are five things a line can come
to, whatever sink takes the output and whatever lines follow: it is not text,
it is blank, or it is executed and rejected, assigns or prints (`LineCase`).
For each there is one equation of `runFrom`; what is said of runs elsewhere is
proved line by line from these. An unlimited sink keeps what is printed as it is
(`runFrom_unlimited_printed`).
-/

namespace LineBasic

/-- The bytes that a printed text amounts to. -/
def printedBytes (text : Text) : Bytes := encode text ++ [lineFeed]

namespace Sink

theorem write_unlimited (piece : Bytes) : unlimited.write piece = (piece, .ok unlimited) := by
  cases piece with
  | nil => simp [write]
  | cons b piece => simp [write, offer, took, unlimited]

theorem writeAll_unlimited (pieces : List Bytes) :
    unlimited.writeAll pieces = (pieces.flatten, .ok unlimited) := by
  induction pieces with
  | nil => rfl
  | cons piece later ih => simp [writeAll, write_unlimited, ih]

end Sink

namespace Run

variable (events : List Event) (piece : Bytes) (diagnostic : Diagnostic) (run : Run)

@[simp] theorem observed_output : (run.observed events).output = run.output := rfl

@[simp] theorem observed_diagnostics : (run.observed events).diagnostics = run.diagnostics := rfl

@[simp] theorem observed_trace : (run.observed events).trace = events ++ run.trace := rfl

@[simp] theorem observed_outcome : (run.observed events).outcome = run.outcome := rfl

@[simp] theorem printed_output : (run.printed piece).output = piece ++ run.output := rfl

@[simp] theorem printed_diagnostics : (run.printed piece).diagnostics = run.diagnostics := rfl

@[simp] theorem printed_trace : (run.printed piece).trace = run.trace := rfl

@[simp] theorem printed_outcome : (run.printed piece).outcome = run.outcome := rfl

@[simp] theorem rejected_output : (run.rejected diagnostic).output = run.output := rfl

@[simp] theorem rejected_diagnostics :
    (run.rejected diagnostic).diagnostics = diagnostic :: run.diagnostics := rfl

@[simp] theorem rejected_trace : (run.rejected diagnostic).trace = run.trace := rfl

@[simp] theorem rejected_outcome :
    (run.rejected diagnostic).outcome = run.outcome.map (· + 1) := rfl

end Run

namespace Program

/-- A line that a run executes: it is text, and not blank. -/
structure Busy (raw : Bytes) (line : Text) : Prop where
  read : decode? (chomp raw) = some line
  notBlank : isBlank line = false

/-- What a line of a run comes to. -/
inductive LineCase (store : Store) (raw : Bytes) : Prop
  | unreadable (unread : decode? (chomp raw) = none)
  | blank {line : Text} (read : decode? (chomp raw) = some line) (blank : isBlank line = true)
  | rejected {line : Text} {error : LineError} (busy : Busy raw line)
      (outcome : (execute store line).outcome = .error error)
  | assigned {line : Text} {name : Text} {value : Float} (busy : Busy raw line)
      (outcome : (execute store line).outcome = .ok (.assigned name value))
  | printed {line : Text} {text : Text} (busy : Busy raw line)
      (outcome : (execute store line).outcome = .ok (.printed text))

theorem LineCase.of (store : Store) (raw : Bytes) : LineCase store raw := by
  cases read : decode? (chomp raw) with
  | none => exact .unreadable read
  | some line =>
    cases blank : isBlank line with
    | true => exact .blank read blank
    | false =>
      have busy : Busy raw line := ⟨read, blank⟩
      match outcome : (execute store line).outcome with
      | .error _ => exact .rejected busy outcome
      | .ok (.assigned _ _) => exact .assigned busy outcome
      | .ok (.printed _) => exact .printed busy outcome

/-- What is observed of a line that is executed. -/
def lineEvents (store : Store) (number : Nat) (line : Text) : List Event :=
  .runningLine number :: (execute store line).trace

theorem map_eq_error_iff {outcome : Except RunError Nat} {f : Nat → Nat} {error : RunError} :
    outcome.map f = .error error ↔ outcome = .error error := by
  cases outcome <;> simp [Except.map]

section Equations

variable {sink : Sink} {store : Store} {number : Nat} {raw : Bytes} {later : List Bytes}
  {line : Text}

theorem runFrom_unreadable (unread : decode? (chomp raw) = none) :
    runFrom sink store number (raw :: later) = .ended (.error .invalidText) := by
  simp [runFrom, unread]

theorem runFrom_blank (read : decode? (chomp raw) = some line) (blank : isBlank line = true) :
    runFrom sink store number (raw :: later) = runFrom sink store (number + 1) later := by
  simp [runFrom, read, blank]

theorem runFrom_rejected {error : LineError} (busy : Busy raw line)
    (outcome : (execute store line).outcome = .error error) :
    runFrom sink store number (raw :: later) =
      .observed (lineEvents store number line)
        (.rejected ⟨error, line, some number⟩
          (runFrom sink (execute store line).store (number + 1) later)) := by
  simp [runFrom, busy.read, busy.notBlank, outcome, lineEvents]

theorem runFrom_assigned {name : Text} {value : Float} (busy : Busy raw line)
    (outcome : (execute store line).outcome = .ok (.assigned name value)) :
    runFrom sink store number (raw :: later) =
      .observed (lineEvents store number line)
        (runFrom sink (execute store line).store (number + 1) later) := by
  simp [runFrom, busy.read, busy.notBlank, outcome, lineEvents]

theorem runFrom_printed_ok {text : Text} {kept : Bytes} {sink' : Sink} (busy : Busy raw line)
    (outcome : (execute store line).outcome = .ok (.printed text))
    (written : sink.writeAll [encode text, [lineFeed]] = (kept, .ok sink')) :
    runFrom sink store number (raw :: later) =
      .observed (lineEvents store number line)
        (.printed kept (runFrom sink' (execute store line).store (number + 1) later)) := by
  simp [runFrom, busy.read, busy.notBlank, outcome, lineEvents, written]

theorem runFrom_printed_error {text : Text} {kept : Bytes} {failure : RunError}
    (busy : Busy raw line) (outcome : (execute store line).outcome = .ok (.printed text))
    (written : sink.writeAll [encode text, [lineFeed]] = (kept, .error failure)) :
    runFrom sink store number (raw :: later) =
      .observed (lineEvents store number line) (.printed kept (.ended (.error failure))) := by
  simp [runFrom, busy.read, busy.notBlank, outcome, lineEvents, written]

theorem flatten_pieces (text : Text) : [encode text, [lineFeed]].flatten = printedBytes text := by
  simp [printedBytes]

theorem runFrom_unlimited_printed {text : Text} (busy : Busy raw line)
    (outcome : (execute store line).outcome = .ok (.printed text)) :
    runFrom .unlimited store number (raw :: later) =
      .observed (lineEvents store number line)
        (.printed (printedBytes text)
          (runFrom .unlimited (execute store line).store (number + 1) later)) := by
  rw [← flatten_pieces]
  exact runFrom_printed_ok busy outcome (Sink.writeAll_unlimited _)

/-- With an unlimited sink, all that ends a run early is a line that is not text. -/
theorem runFrom_unlimited_eq_error_iff {lines : List Bytes} {error : RunError} :
    (runFrom .unlimited store number lines).outcome = .error error ↔
      error = .invalidText ∧ ∃ raw ∈ lines, decode? (chomp raw) = none := by
  induction lines generalizing store number with
  | nil => simp [runFrom, Run.ended, Sink.unlimited]
  | cons raw later ih =>
    simp only [List.mem_cons, exists_eq_or_imp]
    cases LineCase.of store raw with
    | unreadable unread =>
      rw [runFrom_unreadable unread]
      simp [Run.ended, unread, eq_comm]
    | blank read blank =>
      rw [runFrom_blank read blank, ih]
      simp [read]
    | rejected busy outcome =>
      rw [runFrom_rejected busy outcome, Run.observed_outcome, Run.rejected_outcome,
        map_eq_error_iff, ih]
      simp [busy.read]
    | assigned busy outcome =>
      rw [runFrom_assigned busy outcome, Run.observed_outcome, ih]
      simp [busy.read]
    | printed busy outcome =>
      rw [runFrom_unlimited_printed busy outcome, Run.observed_outcome, Run.printed_outcome, ih]
      simp [busy.read]

end Equations

end Program

end LineBasic
