import LineBasic.Proofs.InputLines
import LineBasic.Proofs.Runs
import LineBasic.Proofs.Spacing

/-!
# Line ends never count

A line may end in a line feed, in a carriage return and a line feed, or, if it
is the last one, in nothing. A run takes one such end off a line and leaves the
rest of it; what is left are line ends, and so is a gap.

* **step** — of lines that say the same without any line ends (`bareLine?`),
  each can stand for the other in a run (`Program.runFrom_cons_sameResults`);
* **run** — hence an input has the same results with carriage returns in front
  of its line feeds and with a line feed at its end, by going through it line by
  line.

Main result: **`line_ends_never_count`**.
-/

namespace LineBasic

/-! ## Lines without their ends -/

/-- The text of a line without any of the line ends behind it. -/
def bareLine? (raw : Bytes) : Option Text := (decode? raw).map dropLineEnd

/-- It does not matter for it if one line end has been taken off. -/
theorem bareLine?_chomp (raw : Bytes) : bareLine? (chomp raw) = bareLine? raw := by
  unfold bareLine?
  cases read : decode? (chomp raw) with
  | none => rw [decode?_of_chomp_none read]
  | some line =>
    obtain ⟨tail, ends, whole⟩ := decode?_of_chomp read
    rw [whole]
    exact congrArg some (dropEndWhile_append_of_all ends).symm

theorem bareLine?_append {tail : Text} (ends : ∀ ch ∈ tail, isLineEnd ch = true) (bytes : Bytes) :
    bareLine? (bytes ++ encode tail) = bareLine? bytes := by
  unfold bareLine?
  cases whole : decode? (bytes ++ encode tail) with
  | none =>
    cases read : decode? bytes with
    | none => rfl
    | some text =>
      rw [decode?_eq_some_iff.1 read, ← encode_append, decode?_encode] at whole
      cases whole
  | some text =>
    obtain ⟨front, rfl⟩ := encode_eq_append ends (decode?_eq_some_iff.1 whole).symm
    rw [← encode_append, decode?_encode] at whole
    rw [← Option.some.inj whole, decode?_encode]
    exact congrArg some (dropEndWhile_append_of_all ends)

/-- If one of two lines that say the same is text, so is the other, and they
differ in a gap at the end only. -/
theorem exists_line_of_bareLine? {raw raw' : Bytes} (same : bareLine? raw' = bareLine? raw)
    {line : Text} (read : decode? (chomp raw) = some line) :
    ∃ line', decode? (chomp raw') = some line' ∧ isBlank line' = isBlank line ∧
      Loose (.start line) (.start line') := by
  rw [← bareLine?_chomp raw', ← bareLine?_chomp raw, bareLine?, bareLine?, read] at same
  obtain ⟨line', read', bare⟩ := Option.map_eq_some_iff.1 same
  obtain ⟨tail, ends, split⟩ := dropEndWhile_append isLineEnd line
  obtain ⟨tail', ends', split'⟩ := dropEndWhile_append isLineEnd line'
  have core : dropEndWhile isLineEnd line' = dropEndWhile isLineEnd line := bare
  rw [core] at split'
  refine ⟨line', read', ?_, ?_⟩
  · rw [split, split', isBlank_append fun ch member => isWhite_of_isLineEnd (ends ch member),
      isBlank_append fun ch member => isWhite_of_isLineEnd (ends' ch member)]
  · have respaced := (Respaced.refl false (dropEndWhile isLineEnd line)).append
      (fun ch member => isGap_of_isLineEnd (ends ch member))
      (fun ch member => isGap_of_isLineEnd (ends' ch member))
    rw [← split, ← split'] at respaced
    exact respaced.loose

/-! ## Runs with the same results -/

/-- Runs that write the same and end in the same way. What they report may
differ in places. -/
structure Run.SameResults (run run' : Run) : Prop where
  output : run'.output = run.output
  outcome : run'.outcome = run.outcome

namespace Run.SameResults

variable {run run' : Run} (same : run.SameResults run')
include same

theorem observed (events events' : List Event) :
    (run.observed events).SameResults (run'.observed events') := ⟨same.output, same.outcome⟩

theorem printed (piece : Bytes) : (run.printed piece).SameResults (run'.printed piece) :=
  ⟨congrArg (piece ++ ·) same.output, same.outcome⟩

theorem rejected (diagnostic diagnostic' : Diagnostic) :
    (run.rejected diagnostic).SameResults (run'.rejected diagnostic') :=
  ⟨same.output, congrArg (Except.map (· + 1)) same.outcome⟩

end Run.SameResults

theorem Run.SameResults.refl (run : Run) : run.SameResults run := ⟨rfl, rfl⟩

namespace Program

/-- A line that says the same is executed alike. -/
theorem Busy.exists_alike {raw raw' : Bytes} {line : Text} (busy : Busy raw line)
    (same : bareLine? raw' = bareLine? raw) (store : Store) :
    ∃ line', Busy raw' line' ∧
      AnswerInStep anyPlace (execute store line).outcome (execute store line').outcome ∧
      (execute store line').store = (execute store line).store := by
  obtain ⟨line', read', blank, loose⟩ := exists_line_of_bareLine? same busy.read
  exact ⟨line', ⟨read', blank.trans busy.notBlank⟩, loose.execute store⟩

/-- **Step.** In front of lines that are run with the same results, a line can be
exchanged for one that says the same. -/
theorem runFrom_cons_sameResults {raw raw' : Bytes} {later later' : List Bytes}
    (same : bareLine? raw' = bareLine? raw) {number : Nat}
    (results : ∀ store, (runFrom .unlimited store (number + 1) later).SameResults
      (runFrom .unlimited store (number + 1) later')) (store : Store) :
    (runFrom .unlimited store number (raw :: later)).SameResults
      (runFrom .unlimited store number (raw' :: later')) := by
  cases LineCase.of store raw with
  | unreadable unread =>
    have unread' : decode? (chomp raw') = none := by
      rw [← bareLine?_chomp raw', ← bareLine?_chomp raw, bareLine?, bareLine?, unread] at same
      exact Option.map_eq_none_iff.1 same
    rw [runFrom_unreadable unread, runFrom_unreadable unread']
    exact .refl _
  | blank read blank =>
    obtain ⟨line', read', sameBlank, _⟩ := exists_line_of_bareLine? same read
    rw [runFrom_blank read blank, runFrom_blank read' (sameBlank.trans blank)]
    exact results store
  | rejected busy outcome =>
    obtain ⟨line', busy', inStep, sameStore⟩ := busy.exists_alike same store
    rw [outcome] at inStep
    obtain ⟨error', outcome', _⟩ := inStep.of_error
    rw [runFrom_rejected busy outcome, runFrom_rejected busy' outcome', sameStore]
    exact ((results _).rejected _ _).observed _ _
  | assigned busy outcome =>
    obtain ⟨line', busy', inStep, sameStore⟩ := busy.exists_alike same store
    rw [outcome] at inStep
    rw [runFrom_assigned busy outcome, runFrom_assigned busy' inStep.of_ok, sameStore]
    exact (results _).observed _ _
  | printed busy outcome =>
    obtain ⟨line', busy', inStep, sameStore⟩ := busy.exists_alike same store
    rw [outcome] at inStep
    rw [runFrom_unlimited_printed busy outcome, runFrom_unlimited_printed busy' inStep.of_ok,
      sameStore]
    exact ((results _).printed _).observed _ _

/-- A run sees no more of its lines than what is left of them without an end. -/
theorem runFrom_eq_of_chomp {lines lines' : List Bytes} (same : lines'.map chomp = lines.map chomp)
    (sink : Sink) (store : Store) (number : Nat) :
    runFrom sink store number lines' = runFrom sink store number lines := by
  induction lines generalizing lines' sink store number with
  | nil => rw [List.map_eq_nil_iff.1 same]
  | cons raw later ih =>
    obtain ⟨raw', later', rfl, here, others⟩ := List.map_eq_cons_iff.1 same
    simp only [runFrom, here, ih others]

end Program

/-! ## Other line ends -/

/-- An input with a carriage return in front of each line feed. -/
def withReturns (bytes : Bytes) : Bytes :=
  bytes.flatMap fun b => if b = lineFeed then [carriageReturn, lineFeed] else [b]

theorem withReturns_of_open {bytes : Bytes} (noFeed : lineFeed ∉ bytes) :
    withReturns bytes = bytes := by
  induction bytes with
  | nil => rfl
  | cons b bytes ih =>
    rw [List.mem_cons, not_or] at noFeed
    have rest := ih noFeed.2
    unfold withReturns at rest ⊢
    rw [List.flatMap_cons, rest, if_neg (Ne.symm noFeed.1), List.singleton_append]

theorem withReturns_of_closed {body : Bytes} (noFeed : lineFeed ∉ body) (later : Bytes) :
    withReturns (body ++ lineFeed :: later) =
      (body ++ [carriageReturn]) ++ lineFeed :: withReturns later := by
  have front := withReturns_of_open noFeed
  unfold withReturns at front ⊢
  rw [List.flatMap_append, front]
  simp

theorem noFeed_return {body : Bytes} (noFeed : lineFeed ∉ body) :
    lineFeed ∉ body ++ [carriageReturn] := by
  simpa using ⟨noFeed, (by decide : lineFeed ≠ carriageReturn)⟩

theorem rawLines_withReturns_of_closed {body : Bytes} (noFeed : lineFeed ∉ body) (later : Bytes) :
    rawLines (withReturns (body ++ lineFeed :: later)) =
      (body ++ [carriageReturn, lineFeed]) :: rawLines (withReturns later) := by
  rw [withReturns_of_closed noFeed, rawLines_of_closed (noFeed_return noFeed), List.append_assoc]
  rfl

theorem bareLine?_feed (body : Bytes) : bareLine? (body ++ [lineFeed]) = bareLine? body := by
  have ends : ∀ ch ∈ ['\n'], isLineEnd ch = true := by simp [isLineEnd]
  exact bareLine?_append ends body

theorem bareLine?_return (body : Bytes) :
    bareLine? (body ++ [carriageReturn, lineFeed]) = bareLine? (body ++ [lineFeed]) := by
  have ends : ∀ ch ∈ ['\r', '\n'], isLineEnd ch = true := by simp [isLineEnd]
  rw [bareLine?_feed]
  exact bareLine?_append ends body

@[simp] theorem chomp_return (body : Bytes) :
    chomp (body ++ [carriageReturn, lineFeed]) = body := by
  rw [List.append_cons]
  simp [chomp]

theorem chomp_feed {body : Bytes} (noReturn : carriageReturn ∉ body) :
    chomp (body ++ [lineFeed]) = body := by
  have notLast : body.getLast? ≠ some carriageReturn :=
    fun last => noReturn (List.mem_of_getLast? last)
  simp [chomp, notLast]

/-- Where there are no other carriage returns, those in front of line feeds are
taken off again. -/
theorem chomp_rawLines_withReturns {bytes : Bytes} (noReturn : carriageReturn ∉ bytes) :
    (rawLines (withReturns bytes)).map chomp = (rawLines bytes).map chomp := by
  induction bytes using lineInduction with
  | isOpen bytes noFeed => rw [withReturns_of_open noFeed]
  | closed body later noFeed ih =>
    simp only [List.mem_append, List.mem_cons, not_or] at noReturn
    rw [rawLines_withReturns_of_closed noFeed, rawLines_of_closed noFeed, List.map_cons,
      List.map_cons, chomp_return, chomp_feed noReturn.1, ih noReturn.2.2]

namespace Program

/-- **Run.** Carriage returns in front of line feeds change no results. -/
theorem runFrom_withReturns (bytes : Bytes) (store : Store) (number : Nat) :
    (runFrom .unlimited store number (rawLines bytes)).SameResults
      (runFrom .unlimited store number (rawLines (withReturns bytes))) := by
  induction bytes using lineInduction generalizing store number with
  | isOpen bytes noFeed =>
    rw [withReturns_of_open noFeed]
    exact .refl _
  | closed body later noFeed ih =>
    rw [rawLines_withReturns_of_closed noFeed, rawLines_of_closed noFeed]
    exact runFrom_cons_sameResults (bareLine?_return body) (fun store => ih store _) store

/-- **Run.** Neither does a line feed at the end. It ends the last line, if that
is open, and else adds a blank line. -/
theorem runFrom_concat_feed (bytes : Bytes) (store : Store) (number : Nat) :
    (runFrom .unlimited store number (rawLines bytes)).SameResults
      (runFrom .unlimited store number (rawLines (bytes ++ [lineFeed]))) := by
  induction bytes using lineInduction generalizing store number with
  | isOpen bytes noFeed =>
    rw [rawLines_of_closed noFeed, rawLines_nil]
    by_cases empty : bytes = []
    · subst empty
      have read : decode? (chomp [lineFeed]) = some [] := by decide +kernel
      rw [rawLines_nil, List.nil_append, runFrom_blank read rfl]
      exact .refl _
    · rw [rawLines_of_open noFeed empty]
      exact runFrom_cons_sameResults (bareLine?_feed bytes) (fun _ => .refl _) store
  | closed body later noFeed ih =>
    rw [List.append_assoc, List.cons_append, rawLines_of_closed noFeed, rawLines_of_closed noFeed]
    exact runFrom_cons_sameResults rfl (fun store => ih store _) store

end Program

/-- **Line ends never count.** With a carriage return in front of each line feed,
or with one more line feed at its end, a program writes the same and ends in the
same way, after as many rejected lines or at a line that is not text. Where it
has no other carriage returns, all that the run shows is the same, each
diagnostic included. -/
theorem line_ends_never_count (source : Bytes) :
    (Program.run .unlimited source).SameResults (Program.run .unlimited (withReturns source)) ∧
    (Program.run .unlimited source).SameResults
      (Program.run .unlimited (source ++ [lineFeed])) ∧
    (carriageReturn ∉ source →
      Program.run .unlimited (withReturns source) = Program.run .unlimited source) := by
  refine ⟨Program.runFrom_withReturns source .empty 1, Program.runFrom_concat_feed source .empty 1,
    ?_⟩
  intro noReturn
  exact Program.runFrom_eq_of_chomp (chomp_rawLines_withReturns noReturn) .unlimited .empty 1

/-- An open string, a blank line and a last line without an end. -/
theorem line_ends_of_open_string :
    carriageReturn ∉ encode "PRINT \"a\n\nPRINT 1".toList ∧
    withReturns (encode "PRINT \"a\n\nPRINT 1".toList) =
      encode "PRINT \"a\r\n\r\nPRINT 1".toList ∧
    Program.run .unlimited (withReturns (encode "PRINT \"a\n\nPRINT 1".toList)) =
      Program.run .unlimited (encode "PRINT \"a\n\nPRINT 1".toList) := by
  have noReturn : carriageReturn ∉ encode "PRINT \"a\n\nPRINT 1".toList := by decide +kernel
  exact ⟨noReturn, by decide +kernel, (line_ends_never_count _).2.2 noReturn⟩

end LineBasic
