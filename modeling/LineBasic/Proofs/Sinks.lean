import LineBasic.Proofs.InputLines
import LineBasic.Proofs.Runs

/-!
# A failing sink

Output is written in pieces, each offered until nothing of it is left, and a
sink may fail in the middle of any of them. A sink that takes some bytes and
then fails changes nothing else about a run.

* **sink** — written pieces are kept as one text would be: whole if they fit,
  else cut at the limit (`Sink.writeAll_of_le`, `Sink.writeAll_of_lt`);
* **run** — lines whose output fits run as for an unlimited sink up to the
  final flush (`Program.runFrom_of_le`); otherwise the run is that of the lines
  before the first that exceeds the limit, and stops there
  (`Program.runFrom_of_lt`).

Main result: **`failing_sink_truncates`**.
-/

namespace LineBasic

/-! ## Writing -/

namespace Sink

/-- A sink that keeps a number of bytes and refuses any more. -/
abbrev keeping (room : Nat) (refusal : RunError) (flushFails : Bool) : Sink :=
  ⟨some room, refusal, flushFails⟩

variable {room : Nat} {refusal : RunError} {flushFails : Bool}

/-- A sink without room takes nothing, in one way or the other. -/
theorem write_of_full {piece : Bytes} (nonempty : piece ≠ []) :
    (keeping 0 refusal flushFails).write piece = ([], .error refusal) := by
  rw [write, if_neg nonempty]
  by_cases full : refusal = .sinkFull <;> simp [offer, full]

theorem offer_of_room (piece : Bytes) :
    (keeping (room + 1) refusal flushFails).offer piece = .ok (min (room + 1) piece.length) := by
  simp [offer]

theorem write_of_le {piece : Bytes} (fits : piece.length ≤ room) :
    (keeping room refusal flushFails).write piece =
      (piece, .ok (keeping (room - piece.length) refusal flushFails)) := by
  cases piece with
  | nil => simp [write]
  | cons b piece =>
    obtain ⟨room, rfl⟩ := Nat.exists_eq_add_one_of_ne_zero (Nat.ne_zero_of_lt fits)
    have taken : min (room + 1) (b :: piece).length = piece.length + 1 := by
      simp only [List.length_cons] at fits ⊢
      omega
    rw [write, if_neg (List.cons_ne_nil b piece), offer_of_room, taken]
    simp [write, took]

theorem write_of_lt {piece : Bytes} (exceeds : room < piece.length) :
    (keeping room refusal flushFails).write piece = (piece.take room, .error refusal) := by
  have nonempty : piece ≠ [] := List.ne_nil_of_length_pos (Nat.zero_lt_of_lt exceeds)
  cases room with
  | zero => simp [write_of_full nonempty]
  | succ room =>
    have left : piece.drop (room + 1) ≠ [] := by simpa using exceeds
    rw [write, if_neg nonempty, offer_of_room, Nat.min_eq_left (Nat.le_of_lt exceeds)]
    simp [took, write_of_full left]

/-- Pieces that fit in all are kept. -/
theorem writeAll_of_le {pieces : List Bytes} (fits : pieces.flatten.length ≤ room) :
    (keeping room refusal flushFails).writeAll pieces =
      (pieces.flatten, .ok (keeping (room - pieces.flatten.length) refusal flushFails)) := by
  induction pieces generalizing room with
  | nil => simp [writeAll]
  | cons piece later ih =>
    rw [List.flatten_cons, List.length_append] at fits
    have here : (keeping room refusal flushFails).write piece = _ :=
      write_of_le (Nat.le_of_add_right_le fits)
    simp [writeAll, here, ih (Nat.le_sub_of_add_le' fits), Nat.sub_sub]

/-- Pieces that do not fit in all are cut off where the room ends, be it inside
a piece or between two. -/
theorem writeAll_of_lt {pieces : List Bytes} (exceeds : room < pieces.flatten.length) :
    (keeping room refusal flushFails).writeAll pieces =
      (pieces.flatten.take room, .error refusal) := by
  induction pieces generalizing room with
  | nil => simp at exceeds
  | cons piece later ih =>
    rw [List.flatten_cons, List.length_append] at exceeds
    rw [List.flatten_cons, List.take_append, writeAll]
    by_cases here : piece.length ≤ room
    · have rest : room - piece.length < later.flatten.length := by omega
      rw [write_of_le here]
      simp [ih rest, List.take_of_length_le here]
    · have none : room - piece.length = 0 := by omega
      rw [write_of_lt (Nat.lt_of_not_le here)]
      simp [none]

end Sink

/-! ## Runs -/

namespace Run

/-- A run with the final flush, which a run that ended early does not come to. -/
def flushed (flushFails : Bool) (run : Run) : Run :=
  { run with outcome := run.outcome.bind fun failures =>
      if flushFails then .error .flushFailed else .ok failures }

variable (flushFails : Bool)

@[simp] theorem flushed_ended_error (error : RunError) :
    (ended (.error error)).flushed flushFails = ended (.error error) := rfl

@[simp] theorem flushed_observed (events : List Event) (run : Run) :
    (run.observed events).flushed flushFails = (run.flushed flushFails).observed events := rfl

@[simp] theorem flushed_printed (piece : Bytes) (run : Run) :
    (run.printed piece).flushed flushFails = (run.flushed flushFails).printed piece := rfl

@[simp] theorem flushed_rejected (diagnostic : Diagnostic) (run : Run) :
    (run.rejected diagnostic).flushed flushFails =
      (run.flushed flushFails).rejected diagnostic := by
  obtain ⟨output, diagnostics, trace, outcome⟩ := run
  cases outcome <;> cases flushFails <;> rfl

end Run

/-- How a run that exceeds the room of its sink is cut off: `before` is the run
of the lines before the first that exceeds it, `through` the run with that line,
which prints `text`, `whole` the run of all lines, and `cut` what is left of it. -/
structure CutOff (room : Nat) (refusal : RunError) (text : Text)
    (before through whole cut : Run) : Prop where
  prints : through.output = before.output ++ printedBytes text
  fits : before.output.length ≤ room
  exceeds : room < through.output.length
  output : cut.output = whole.output.take room
  diagnostics : cut.diagnostics = before.diagnostics
  outcome : cut.outcome = .error refusal

namespace CutOff

variable {room : Nat} {refusal : RunError} {text : Text} {before through whole cut : Run}

theorem observed (off : CutOff room refusal text before through whole cut)
    (events : List Event) :
    CutOff room refusal text (before.observed events) (through.observed events)
      (whole.observed events) (cut.observed events) :=
  ⟨off.prints, off.fits, off.exceeds, off.output, off.diagnostics, off.outcome⟩

theorem rejected (off : CutOff room refusal text before through whole cut)
    (diagnostic : Diagnostic) :
    CutOff room refusal text (before.rejected diagnostic) (through.rejected diagnostic)
      (whole.rejected diagnostic) (cut.rejected diagnostic) where
  prints := off.prints
  fits := off.fits
  exceeds := off.exceeds
  output := off.output
  diagnostics := congrArg (diagnostic :: ·) off.diagnostics
  outcome := congrArg (Except.map (· + 1)) off.outcome

/-- A piece that is kept leaves less room for the rest. -/
theorem printed {piece : Bytes}
    (off : CutOff (room - piece.length) refusal text before through whole cut)
    (kept : piece.length ≤ room) :
    CutOff room refusal text (before.printed piece) (through.printed piece)
      (whole.printed piece) (cut.printed piece) where
  prints := by simp [off.prints]
  fits := by
    have := off.fits
    simp only [Run.printed_output, List.length_append]
    omega
  exceeds := by
    have := off.exceeds
    simp only [Run.printed_output, List.length_append]
    omega
  output := by
    rw [Run.printed_output, Run.printed_output, List.take_append,
      List.take_of_length_le kept, off.output]
  diagnostics := off.diagnostics
  outcome := off.outcome

/-- The first line is the one that does not fit. -/
theorem here {events : List Event} {later : Run}
    (exceeds : room < (printedBytes text).length) :
    CutOff room refusal text (.ended (.ok 0))
      (.observed events (.printed (printedBytes text) (.ended (.ok 0))))
      (.observed events (.printed (printedBytes text) later))
      (.observed events
        (.printed ((printedBytes text).take room) (.ended (.error refusal)))) where
  prints := by simp [Run.ended]
  fits := Nat.zero_le room
  exceeds := by simpa [Run.ended] using exceeds
  output := by
    rw [Run.observed_output, Run.observed_output, Run.printed_output, Run.printed_output,
      List.take_append_of_le_length (Nat.le_of_lt exceeds)]
    exact List.append_nil _
  diagnostics := rfl
  outcome := rfl

end CutOff

namespace Program

section Keeping

variable {refusal : RunError} {flushFails : Bool} {room : Nat} {store : Store} {number : Nat}
  {lines : List Bytes}

/-- **Run, within the limit.** Lines whose output fits run as they do without a
limit, up to the final flush. -/
theorem runFrom_of_le
    (fits : (runFrom .unlimited store number lines).output.length ≤ room) :
    runFrom (.keeping room refusal flushFails) store number lines =
      (runFrom .unlimited store number lines).flushed flushFails := by
  induction lines generalizing room store number with
  | nil => cases flushFails <;> rfl
  | cons raw later ih =>
    cases LineCase.of store raw with
    | unreadable unread => simp [runFrom_unreadable unread]
    | blank read blank =>
      rw [runFrom_blank read blank] at fits
      rw [runFrom_blank read blank, runFrom_blank read blank, ih fits]
    | rejected busy outcome =>
      rw [runFrom_rejected busy outcome] at fits
      rw [runFrom_rejected busy outcome, runFrom_rejected busy outcome, ih fits]
      simp
    | assigned busy outcome =>
      rw [runFrom_assigned busy outcome] at fits
      rw [runFrom_assigned busy outcome, runFrom_assigned busy outcome, ih fits]
      simp
    | @printed line text busy outcome =>
      rw [runFrom_unlimited_printed busy outcome] at fits
      simp only [Run.observed_output, Run.printed_output, List.length_append] at fits
      have here : [encode text, [lineFeed]].flatten.length ≤ room := by
        rw [flatten_pieces]
        omega
      rw [runFrom_printed_ok busy outcome (Sink.writeAll_of_le here), flatten_pieces,
        ih (Nat.le_sub_of_add_le' fits), runFrom_unlimited_printed busy outcome]
      simp

/-- **Run, beyond the limit.** Lines whose output does not fit have a first line
with which it does not, and the run ends there. -/
theorem runFrom_of_lt (refusal : RunError) (flushFails : Bool)
    (exceeds : room < (runFrom .unlimited store number lines).output.length) :
    ∃ before raw after text, lines = before ++ raw :: after ∧
      CutOff room refusal text (runFrom .unlimited store number before)
        (runFrom .unlimited store number (before ++ [raw]))
        (runFrom .unlimited store number lines)
        (runFrom (.keeping room refusal flushFails) store number lines) := by
  induction lines generalizing room store number with
  | nil => simp [runFrom, Run.ended] at exceeds
  | cons raw later ih =>
    cases LineCase.of store raw with
    | unreadable unread => simp [runFrom_unreadable unread, Run.ended] at exceeds
    | blank read blank =>
      rw [runFrom_blank read blank] at exceeds
      obtain ⟨before, line, after, text, rfl, cut⟩ := ih exceeds
      refine ⟨raw :: before, line, after, text, rfl, ?_⟩
      simpa only [List.cons_append, runFrom_blank read blank] using cut
    | rejected busy outcome =>
      rw [runFrom_rejected busy outcome] at exceeds
      obtain ⟨before, line, after, text, rfl, cut⟩ := ih exceeds
      refine ⟨raw :: before, line, after, text, rfl, ?_⟩
      simpa only [List.cons_append, runFrom_rejected busy outcome] using
        (cut.rejected _).observed _
    | assigned busy outcome =>
      rw [runFrom_assigned busy outcome] at exceeds
      obtain ⟨before, line, after, text, rfl, cut⟩ := ih exceeds
      refine ⟨raw :: before, line, after, text, rfl, ?_⟩
      simpa only [List.cons_append, runFrom_assigned busy outcome] using cut.observed _
    | @printed line text busy outcome =>
      by_cases here : [encode text, [lineFeed]].flatten.length ≤ room
      · have written : (Sink.keeping room refusal flushFails).writeAll _ = _ :=
          Sink.writeAll_of_le here
        rw [flatten_pieces] at here written
        rw [runFrom_unlimited_printed busy outcome, Run.observed_output, Run.printed_output,
          List.length_append] at exceeds
        obtain ⟨before, line, after, text, rfl, cut⟩ := ih (Nat.sub_lt_left_of_lt_add here exceeds)
        refine ⟨raw :: before, line, after, text, rfl, ?_⟩
        simpa only [List.cons_append, runFrom_unlimited_printed busy outcome,
          runFrom_printed_ok busy outcome written] using (cut.printed here).observed _
      · have written : (Sink.keeping room refusal flushFails).writeAll _ = _ :=
          Sink.writeAll_of_lt (Nat.lt_of_not_le here)
        rw [flatten_pieces] at here written
        refine ⟨[], raw, later, text, rfl, ?_⟩
        rw [List.nil_append, runFrom_unlimited_printed busy outcome,
          runFrom_unlimited_printed busy outcome, runFrom_printed_error busy outcome written]
        exact .here (Nat.lt_of_not_le here)

end Keeping

end Program

/-- The line of a program with which its output first exceeds a limit: `line`,
which prints `text`, has the lines of `before` before it and those of `after`
after it. -/
structure Overruns (limit : Nat) (source before line after : Bytes) (text : Text) : Prop where
  lines : rawLines source = rawLines before ++ line :: rawLines after
  prints : (Program.run .unlimited (before ++ line)).output =
    (Program.run .unlimited before).output ++ printedBytes text
  fits : (Program.run .unlimited before).output.length ≤ limit
  exceeds : limit < (Program.run .unlimited (before ++ line)).output.length

/-- **A failing sink truncates the output of a run and nothing else.** If the
output fits, the run is as for an unlimited sink but for the final flush. If it
does not, the run ends in the sink's refusal at the first line that exceeds the
limit, whatever the lines after it are, and what it has reported is what the
lines before that one have reported. -/
theorem failing_sink_truncates (limit : Nat) (refusal : RunError) (flushFails : Bool)
    (source : Bytes) :
    let whole := Program.run .unlimited source
    let cut := Program.run (.keeping limit refusal flushFails) source
    cut.output = whole.output.take limit ∧
    (whole.output.length ≤ limit → cut = whole.flushed flushFails) ∧
    (limit < whole.output.length → cut.outcome = .error refusal ∧
      ∃ before line after text, Overruns limit source before line after text ∧
        cut.diagnostics = (Program.run .unlimited before).diagnostics) := by
  intro whole cut
  by_cases fits : whole.output.length ≤ limit
  · have same : cut = whole.flushed flushFails := Program.runFrom_of_le fits
    refine ⟨?_, fun _ => same, fun exceeds => absurd fits (Nat.not_le_of_lt exceeds)⟩
    rw [same, List.take_of_length_le fits]
    rfl
  · have exceeds := Nat.lt_of_not_le fits
    obtain ⟨before, line, after, text, lines, off⟩ :=
      Program.runFrom_of_lt refusal flushFails exceeds
    refine ⟨off.output, fun fits => absurd exceeds (Nat.not_lt_of_le fits), fun _ => ?_⟩
    have ahead : rawLines before.flatten = before := rawLines_flatten ⟨_, lines.symm⟩
    have through : rawLines (before.flatten ++ line) = before ++ [line] := by
      have : before ++ [line] <+: rawLines source := ⟨after, by simp [lines]⟩
      simpa using rawLines_flatten this
    have behind : rawLines after.flatten = after := by
      have : after <:+ rawLines source := ⟨before ++ [line], by simp [lines]⟩
      exact rawLines_flatten_of_suffix this
    refine ⟨off.outcome, before.flatten, line, after.flatten, text, ⟨?_, ?_, ?_, ?_⟩, ?_⟩
    · rw [ahead, behind, lines]
    · rw [Program.run, Program.run, through, ahead]
      exact off.prints
    · rw [Program.run, ahead]
      exact off.fits
    · rw [Program.run, through]
      exact off.exceeds
    · rw [Program.run, ahead]
      exact off.diagnostics

/-- A sink of four bytes refuses the line feed of the second number, ahead of a
line that is not text. -/
theorem sink_refuses_line_feed :
    4 < (Program.run .unlimited (encode "PRINT 12\nPRINT x\nPRINT 3\n".toList ++ [255])).output.length ∧
    (Program.run (.keeping 4 .sinkFull true)
      (encode "PRINT 12\nPRINT x\nPRINT 3\n".toList ++ [255])).outcome = .error .sinkFull := by
  have exceeds : 4 < (Program.run .unlimited
      (encode "PRINT 12\nPRINT x\nPRINT 3\n".toList ++ [255])).output.length := by
    decide +kernel
  exact ⟨exceeds, ((failing_sink_truncates 4 .sinkFull true _).2.2 exceeds).1⟩

end LineBasic
