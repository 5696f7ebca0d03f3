import LineBasic.Proofs.LineEnds
import LineBasic.Proofs.LineReading
import LineBasic.Proofs.Sessions

/-!
# Blank lines

Two notions of an empty line meet in a run and in a session. A line is passed
over if it is blank, which is a matter of the property White_Space; to a cursor
it has nothing on it if all of it is a gap. The two sets of characters differ in
the byte order mark, which is a gap and not white, and in the next-line control,
which is white and no gap. So the two notions differ too, on lines with these
characters and on no others.

* **step** — a line is either passed over or executed, and it is passed over
  exactly if it is blank (`passedOver_iff`, `executed_iff`); with nothing on it, it
  is then rejected where it ends (`ScansToEnd.rejected`);
* **run** — so no line that a run or a session reports is blank
  (`Program.runFrom_reports`, `Session.notBlank_of_mem_diagnostics`), and the run
  counts these lines.

Main result: **`lines_with_nothing_are_passed_over_unless_marked`**.
-/

namespace LineBasic

/-! ## Where a gap is not white space -/

/-- The mark that may stand at the front of a file. -/
def byteOrderMark : Char := '\uFEFF'

/-- The next-line control. -/
def nextLine : Char := '\u0085'

theorem isWhite_byteOrderMark : isWhite byteOrderMark = false := by decide +kernel

theorem isWhite_nextLine : isWhite nextLine = true := by decide +kernel

theorem isGap_iff {c : Char} :
    isGap c = true ↔ c = byteOrderMark ∨ isWhite c = true ∧ c ≠ nextLine := by
  have mark : c.toNat = 0xFEFF ↔ c = byteOrderMark := Char.toNat_inj (d := byteOrderMark)
  have next : c.toNat = 0x85 ↔ c = nextLine := Char.toNat_inj (d := nextLine)
  simp [isGap, mark, next]

theorem isWhite_iff_isGap {c : Char} (unmarked : c ≠ byteOrderMark) (other : c ≠ nextLine) :
    isWhite c = true ↔ isGap c = true := by
  simp [isGap_iff, unmarked, other]

/-- Nothing of a line is anything but a gap: a cursor at its front is at its end. -/
def ScansToEnd (line : Text) : Prop := (Cursor.start line).scanEndOfLine.isSome = true

theorem scansToEnd_iff {line : Text} : ScansToEnd line ↔ ∀ ch ∈ line, isGap ch = true := by
  have ends : (Cursor.start line).skipGap.rest = [] ↔ ∀ ch ∈ line, isGap ch = true :=
    List.dropWhile_eq_nil_iff
  rw [ScansToEnd, ← ends, ← not_iff_not, Bool.not_eq_true, Option.isSome_eq_false_iff,
    Option.isNone_iff_eq_none, Cursor.scanEndOfLine_eq_none_iff]

theorem isBlank_iff {line : Text} : isBlank line = true ↔ ∀ ch ∈ line, isWhite ch = true :=
  List.all_eq_true

section Lines

variable {line : Text}

theorem isBlank_iff_scansToEnd (unmarked : byteOrderMark ∉ line) (other : nextLine ∉ line) :
    isBlank line = true ↔ ScansToEnd line := by
  rw [isBlank_iff, scansToEnd_iff]
  refine forall₂_congr fun ch member => isWhite_iff_isGap ?_ ?_
  · rintro rfl
    exact unmarked member
  · rintro rfl
    exact other member

theorem unmarked_of_isBlank (blank : isBlank line = true) : byteOrderMark ∉ line := by
  intro member
  have white := isBlank_iff.1 blank _ member
  rw [isWhite_byteOrderMark] at white
  cases white

theorem nextLine_notMem_of_scansToEnd (ends : ScansToEnd line) : nextLine ∉ line := by
  intro member
  rcases isGap_iff.1 (scansToEnd_iff.1 ends _ member) with same | ⟨_, other⟩
  · exact absurd same (by decide)
  · exact other rfl

/-- A line with nothing on it is blank unless it is marked. -/
theorem ScansToEnd.isBlank_iff (ends : ScansToEnd line) :
    isBlank line = true ↔ byteOrderMark ∉ line := by
  refine ⟨unmarked_of_isBlank, fun unmarked => ?_⟩
  exact (isBlank_iff_scansToEnd unmarked (nextLine_notMem_of_scansToEnd ends)).2 ends

/-- If such a line is executed all the same, it is rejected where it ends. -/
theorem ScansToEnd.rejected (ends : ScansToEnd line) (store : Store) :
    (execute store line).outcome =
      .error (.at .statementExpected (.single (byteSize line))) := by
  have gap := scansToEnd_iff.1 ends
  have behind : (Cursor.start line).skipGap = ⟨0 + byteSize line, [], []⟩ :=
    Cursor.skipGap_eq gap (stops_nil _) (List.append_nil line).symm
  have noWord : (Cursor.start line).scanKeyword = none := by
    refine Cursor.scanWord_eq_none_iff.2 ?_
    rw [behind]
    exact stops_nil _
  have place : (Cursor.start line).nextPlace = byteSize line := by
    rw [← Cursor.skipGap_offset, behind, Nat.zero_add]
  rw [← place]
  exact outcome_eq_error_iff.2 ⟨_, .noKeyword noWord⟩

end Lines

/-! ## Step -/

/-- A run and a session go on from a line as if it were not there. -/
structure PassedOver (line : Text) : Prop where
  run : ∀ sink store number raw later, decode? (chomp raw) = some line →
    Program.runFrom sink store number (raw :: later) =
      Program.runFrom sink store (number + 1) later
  session : ∀ store, Session.turn store (some line) = .answer store [] none

/-- A run begins with the execution of a line, and a session answers with what that
comes to, unless the line asks to leave. -/
structure Executed (line : Text) : Prop where
  run : ∀ sink store number raw later, decode? (chomp raw) = some line →
    Program.lineEvents store number line <+:
      (Program.runFrom sink store number (raw :: later)).trace
  session : Session.isExit line = false → ∀ store, Session.turn store (some line) =
    Session.reply (dropLineEnd line) (execute store (dropLineEnd line))

theorem isBlank_dropLineEnd (line : Text) : isBlank (dropLineEnd line) = isBlank line := by
  obtain ⟨tail, ends, split⟩ := dropEndWhile_append isLineEnd line
  have white : ∀ ch ∈ tail, isWhite ch = true :=
    fun ch member => isWhite_of_isLineEnd (ends ch member)
  calc isBlank (dropLineEnd line)
      = isBlank (dropLineEnd line ++ tail) := (isBlank_append white).symm
    _ = isBlank line := congrArg isBlank split.symm

section Step

variable {line : Text}

theorem passedOver_of_isBlank (blank : isBlank line = true) : PassedOver line := by
  refine ⟨fun sink store number raw later read => Program.runFrom_blank read blank, fun store => ?_⟩
  simp [Session.turn, isBlank_dropLineEnd, blank]

theorem lineEvents_isPrefix {sink : Sink} {store : Store} {number : Nat} {raw : Bytes}
    {later : List Bytes} (busy : Program.Busy raw line) :
    Program.lineEvents store number line <+:
      (Program.runFrom sink store number (raw :: later)).trace := by
  match outcome : (execute store line).outcome with
  | .error error =>
    rw [Program.runFrom_rejected busy outcome, Run.observed_trace]
    exact List.prefix_append _ _
  | .ok (.assigned name value) =>
    rw [Program.runFrom_assigned busy outcome, Run.observed_trace]
    exact List.prefix_append _ _
  | .ok (.printed text) =>
    match written : sink.writeAll [encode text, [lineFeed]] with
    | (kept, .ok sink') =>
      rw [Program.runFrom_printed_ok busy outcome written, Run.observed_trace]
      exact List.prefix_append _ _
    | (kept, .error failure) =>
      rw [Program.runFrom_printed_error busy outcome written, Run.observed_trace]
      exact List.prefix_append _ _

theorem executed_of_notBlank (notBlank : isBlank line = false) : Executed line := by
  refine ⟨fun sink store number raw later read => lineEvents_isPrefix ⟨read, notBlank⟩, ?_⟩
  intro stays store
  rw [← isBlank_dropLineEnd] at notBlank
  rw [← Session.isExit_dropLineEnd] at stays
  simp only [Session.turn, notBlank, stays, Session.reply, Bool.false_eq_true, if_false]
  cases (execute store (dropLineEnd line)).outcome with
  | error _ => rfl
  | ok effect => cases effect <;> rfl

/-- Every line is what a run reads of some bytes. -/
theorem exists_read (line : Text) : ∃ raw, decode? (chomp raw) = some line :=
  ⟨encode line ++ [carriageReturn, lineFeed], by rw [chomp_return, decode?_encode]⟩

theorem Executed.not_passedOver (executed : Executed line) : ¬ PassedOver line := by
  intro passed
  obtain ⟨raw, read⟩ := exists_read line
  have events := executed.run .unlimited .empty 1 raw [] read
  rw [passed.run .unlimited .empty 1 raw [] read] at events
  cases List.prefix_nil.1 events

theorem passedOver_iff : PassedOver line ↔ isBlank line = true := by
  refine ⟨fun passed => ?_, passedOver_of_isBlank⟩
  cases blank : isBlank line with
  | true => rfl
  | false => exact absurd passed (executed_of_notBlank blank).not_passedOver

theorem executed_iff : Executed line ↔ isBlank line = false := by
  refine ⟨fun executed => ?_, executed_of_notBlank⟩
  cases blank : isBlank line with
  | false => rfl
  | true => exact absurd (passedOver_of_isBlank blank) executed.not_passedOver

end Step

/-! ## Run -/

/-- A run counts the lines that it reports, and none of these is blank. -/
structure Run.Reports (run : Run) : Prop where
  counted : ∀ failures, run.outcome = .ok failures → failures = run.diagnostics.length
  notBlank : ∀ d ∈ run.diagnostics, isBlank d.source = false

namespace Run.Reports

theorem nothing (outcome : Except RunError Nat) (none : ∀ n, outcome = .ok n → n = 0) :
    Reports (.ended outcome) := ⟨none, by simp [ended]⟩

theorem observed {run : Run} (reports : run.Reports) (events : List Event) :
    (run.observed events).Reports := ⟨reports.counted, reports.notBlank⟩

theorem printed {run : Run} (reports : run.Reports) (piece : Bytes) :
    (run.printed piece).Reports := ⟨reports.counted, reports.notBlank⟩

theorem rejected {run : Run} (reports : run.Reports) {diagnostic : Diagnostic}
    (notBlank : isBlank diagnostic.source = false) : (run.rejected diagnostic).Reports := by
  refine ⟨?_, List.forall_mem_cons.2 ⟨notBlank, reports.notBlank⟩⟩
  intro failures ended
  rw [rejected_outcome] at ended
  cases others : run.outcome with
  | error failure =>
    rw [others] at ended
    cases ended
  | ok n =>
    rw [others] at ended
    rw [← Except.ok.inj ended, reports.counted n others]
    rfl

end Run.Reports

theorem Program.runFrom_reports (sink : Sink) (store : Store) (number : Nat)
    (lines : List Bytes) : (runFrom sink store number lines).Reports := by
  induction lines generalizing sink store number with
  | nil =>
    refine .nothing _ fun n ended => ?_
    split at ended
    · cases ended
    · exact (Except.ok.inj ended).symm
  | cons raw later ih =>
    cases LineCase.of store raw with
    | unreadable unread =>
      rw [runFrom_unreadable unread]
      exact .nothing _ nofun
    | blank read blank =>
      rw [runFrom_blank read blank]
      exact ih sink store (number + 1)
    | rejected busy outcome =>
      rw [runFrom_rejected busy outcome]
      exact ((ih sink _ (number + 1)).rejected busy.notBlank).observed _
    | assigned busy outcome =>
      rw [runFrom_assigned busy outcome]
      exact (ih sink _ (number + 1)).observed _
    | @printed line text busy outcome =>
      match written : sink.writeAll [encode text, [lineFeed]] with
      | (kept, .ok sink') =>
        rw [runFrom_printed_ok busy outcome written]
        exact ((ih sink' _ (number + 1)).printed kept).observed _
      | (kept, .error failure) =>
        rw [runFrom_printed_error busy outcome written]
        exact ((Run.Reports.nothing (.error failure) nofun).printed kept).observed _

namespace Session

theorem notBlank_of_turn {store store' : Store} {input : Option Text} {output : Text}
    {diagnostic : Diagnostic}
    (answers : turn store input = .answer store' output (some diagnostic)) :
    isBlank diagnostic.source = false := by
  cases input with
  | none => cases answers
  | some text =>
    cases blank : isBlank text with
    | true =>
      rw [(passedOver_of_isBlank blank).session] at answers
      cases answers
    | false =>
      cases exit : isExit text with
      | true => simp [turn, isBlank_dropLineEnd, isExit_dropLineEnd, blank, exit] at answers
      | false =>
        rw [(executed_of_notBlank blank).session exit, reply] at answers
        split at answers
        · cases answers
          rw [isBlank_dropLineEnd, blank]
        · cases answers

theorem notBlank_of_mem_diagnostics (quiet : Bool) (store : Store) (lines : List Bytes) :
    ∀ d ∈ (continueWith quiet store lines).diagnostics, isBlank d.source = false := by
  induction lines generalizing store with
  | nil => simp [continueWith]
  | cons raw later ih =>
    unfold continueWith
    split
    · simp
    · next store' output diagnostic answers =>
      intro d member
      rcases List.mem_append.1 member with here | behind
      · rw [Option.mem_toList] at here
        rw [here] at answers
        exact notBlank_of_turn answers
      · exact ih store' d behind

end Session

/-- **A line with nothing on it is passed over unless it has a byte order mark.**
Every line is either passed over or executed, by runs and sessions alike. A line
without a byte order mark and without a next-line control is passed over exactly if
there is nothing on it. A byte order mark has such a line executed, and rejected where
it ends; a next-line control can be all there is on a line that is passed over. A run
counts what it reports, and neither it nor a session reports the line if there is
nothing on it and no byte order mark. -/
theorem lines_with_nothing_are_passed_over_unless_marked (line : Text) :
    (Executed line ↔ ¬ PassedOver line) ∧
    (byteOrderMark ∉ line → nextLine ∉ line → (PassedOver line ↔ ScansToEnd line)) ∧
    (ScansToEnd line → (PassedOver line ↔ byteOrderMark ∉ line)) ∧
    (PassedOver line → (ScansToEnd line ↔ nextLine ∉ line)) ∧
    (ScansToEnd line → ¬ PassedOver line → ∀ store, (execute store line).outcome =
      .error (.at .statementExpected (.single (byteSize line)))) ∧
    (∀ sink source, let run := Program.run sink source
      (∀ failures, run.outcome = .ok failures → failures = run.diagnostics.length) ∧
      (ScansToEnd line → byteOrderMark ∉ line → ∀ d ∈ run.diagnostics, d.source ≠ line)) ∧
    (∀ quiet input, ScansToEnd line → byteOrderMark ∉ line →
      ∀ d ∈ (Session.converse quiet input).diagnostics, d.source ≠ line) := by
  have unreported : ScansToEnd line → byteOrderMark ∉ line →
      ∀ d : Diagnostic, isBlank d.source = false → d.source ≠ line := by
    rintro ends unmarked d notBlank rfl
    rw [ends.isBlank_iff.2 unmarked] at notBlank
    cases notBlank
  refine ⟨?_, ?_, ?_, ?_, ?_, fun sink source => ⟨?_, ?_⟩, ?_⟩
  · rw [executed_iff, passedOver_iff, Bool.not_eq_true]
  · intro unmarked other
    rw [passedOver_iff, isBlank_iff_scansToEnd unmarked other]
  · intro ends
    rw [passedOver_iff, ends.isBlank_iff]
  · intro passed
    have blank := passedOver_iff.1 passed
    refine ⟨nextLine_notMem_of_scansToEnd, fun other => ?_⟩
    exact (isBlank_iff_scansToEnd (unmarked_of_isBlank blank) other).1 blank
  · intro ends _ store
    exact ends.rejected store
  · exact (Program.runFrom_reports sink .empty 1 (rawLines source)).counted
  · intro ends unmarked d member
    have reports := Program.runFrom_reports sink .empty 1 (rawLines source)
    exact unreported ends unmarked d (reports.notBlank d member)
  · intro quiet input ends unmarked d member
    have notBlank := Session.notBlank_of_mem_diagnostics quiet .empty (rawLines input)
    exact unreported ends unmarked d (notBlank d member)

/-- Among other gaps a byte order mark decides: the line is executed with it, and
passed over without it. -/
theorem marked_gaps_are_executed :
    ScansToEnd ['\t', byteOrderMark, '\u3000'] ∧ Executed ['\t', byteOrderMark, '\u3000'] ∧
    byteOrderMark ∉ ['\t', '\u3000'] ∧ nextLine ∉ ['\t', '\u3000'] ∧
    PassedOver ['\t', '\u3000'] := by
  have marked : ScansToEnd ['\t', byteOrderMark, '\u3000'] := by
    unfold ScansToEnd
    decide +kernel
  have plain : ScansToEnd ['\t', '\u3000'] := by
    unfold ScansToEnd
    decide +kernel
  have unmarked : byteOrderMark ∉ ['\t', '\u3000'] := by decide
  have other : nextLine ∉ ['\t', '\u3000'] := by decide
  obtain ⟨executed, _, decides, _⟩ :=
    lines_with_nothing_are_passed_over_unless_marked ['\t', byteOrderMark, '\u3000']
  obtain ⟨_, agrees, _⟩ := lines_with_nothing_are_passed_over_unless_marked ['\t', '\u3000']
  refine ⟨marked, executed.2 fun passed => ?_, unmarked, other, (agrees unmarked other).2 plain⟩
  exact (decides marked).1 passed (by decide)

/-- An empty line behind a byte order mark at the front of a file has nothing on it,
and is rejected and counted. A line with a next-line control is passed over, though
there is something on it. -/
theorem marked_line_is_reported :
    ScansToEnd [byteOrderMark] ∧
    (Program.run .unlimited (encode [byteOrderMark, '\n'])).outcome = .ok 1 ∧
    (Program.run .unlimited (encode [byteOrderMark, '\n'])).diagnostics =
      [⟨.at .statementExpected (.single 3), [byteOrderMark], some 1⟩] ∧
    (Session.converse true (encode [byteOrderMark, '\n'])).diagnostics =
      [⟨.at .statementExpected (.single 3), [byteOrderMark], none⟩] ∧
    PassedOver [nextLine] ∧ ¬ ScansToEnd [nextLine] := by
  have marked : ScansToEnd [byteOrderMark] := by
    unfold ScansToEnd
    decide +kernel
  refine ⟨marked, by decide +kernel, by decide +kernel, by decide +kernel,
    passedOver_of_isBlank (isBlank_iff.2 (by simpa using isWhite_nextLine)), ?_⟩
  intro ends
  exact nextLine_notMem_of_scansToEnd ends List.mem_cons_self

end LineBasic
