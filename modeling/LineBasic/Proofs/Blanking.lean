import LineBasic.Proofs.History
import LineBasic.Proofs.InputLines
import LineBasic.Proofs.Runs
import Mathlib.Data.Finset.Card
import Mathlib.Data.Finset.Image

/-!
# Rejected lines leave nothing behind

A line that is rejected has no output and leaves the store as it is; what a run
shows of it is one diagnostic, and it counts. Blanking it, that is, keeping no
more of it than its line end, therefore takes away that diagnostic and nothing
else, not even from the numbering of the lines behind it.

* **step** — a line of a run adds what it prints and its own diagnostic, if it
  has one, to the run of the lines behind it (`Program.runFrom_adds`);
* **run** — hence a run reports exactly the lines that are rejected, in order
  (`Program.mem_diagnostics_iff`, `Program.diagnostics_ascending`), and without
  some of these it is the same but for their diagnostics
  (`Program.runFrom_blankFrom`).

Main result: **`rejected_lines_can_be_blanked`**.
-/

namespace LineBasic

/-- What a line adds to the run of the lines behind it: a piece of output, and its
own diagnostic if it has one. -/
structure Run.Adds (piece : Bytes) (report : Option Diagnostic) (later whole : Run) : Prop where
  output : whole.output = piece ++ later.output
  diagnostics : whole.diagnostics = report.toList ++ later.diagnostics
  outcome : whole.outcome = later.outcome.map (· + report.toList.length)

namespace Program

/-! ## What a line comes to -/

/-- The diagnostic of a line that is executed and rejected. -/
def lineReport? (store : Store) (number : Nat) (raw : Bytes) : Option Diagnostic :=
  match decode? (chomp raw) with
  | none => none
  | some line =>
    if isBlank line then none
    else
      match (execute store line).outcome with
      | .error error => some ⟨error, line, some number⟩
      | .ok _ => none

/-- The store that a line leaves. -/
def lineStore (store : Store) (raw : Bytes) : Store :=
  match decode? (chomp raw) with
  | none => store
  | some line => if isBlank line then store else (execute store line).store

/-- The store that lines leave, one after the other. -/
def storeAfter (store : Store) (lines : List Bytes) : Store := lines.foldl lineStore store

/-- One of the lines, which count from `number`, is rejected where it stands, with
this diagnostic. -/
def Rejects (store : Store) (number : Nat) (lines : List Bytes) (diagnostic : Diagnostic) : Prop :=
  ∃ before raw after, lines = before ++ raw :: after ∧
    lineReport? (storeAfter store before) (number + before.length) raw = some diagnostic

/-- The line with a number is rejected. -/
def RejectsLine (store : Store) (number : Nat) (lines : List Bytes) (n : Nat) : Prop :=
  ∃ diagnostic, Rejects store number lines diagnostic ∧ diagnostic.lineNumber = some n

/-- All lines are text. -/
def Readable (lines : List Bytes) : Prop := ∀ raw ∈ lines, decode? (chomp raw) ≠ none

section Line

variable {store : Store} {number : Nat} {raw : Bytes} {line : Text} {diagnostic : Diagnostic}

theorem lineReport?_eq_some_iff : lineReport? store number raw = some diagnostic ↔
    ∃ line error, Busy raw line ∧ (execute store line).outcome = .error error ∧
      diagnostic = ⟨error, line, some number⟩ := by
  constructor
  · intro reported
    unfold lineReport? at reported
    split at reported
    · cases reported
    · next line read =>
      split at reported
      · cases reported
      · next notBlank =>
        split at reported
        · next error outcome =>
          exact ⟨line, error, ⟨read, by simpa using notBlank⟩, outcome,
            (Option.some.inj reported).symm⟩
        · cases reported
  · rintro ⟨line, error, busy, outcome, rfl⟩
    simp [lineReport?, busy.read, busy.notBlank, outcome]

theorem lineNumber_of_lineReport? (reported : lineReport? store number raw = some diagnostic) :
    diagnostic.lineNumber = some number := by
  obtain ⟨_, _, _, _, rfl⟩ := lineReport?_eq_some_iff.1 reported
  rfl

theorem lineReport?_of_blank (read : decode? (chomp raw) = some line)
    (blank : isBlank line = true) : lineReport? store number raw = none := by
  simp [lineReport?, read, blank]

theorem lineReport?_of_ok {effect : Effect} (busy : Busy raw line)
    (outcome : (execute store line).outcome = .ok effect) :
    lineReport? store number raw = none := by
  simp [lineReport?, busy.read, busy.notBlank, outcome]

theorem lineStore_of_blank (read : decode? (chomp raw) = some line)
    (blank : isBlank line = true) : lineStore store raw = store := by
  simp [lineStore, read, blank]

theorem lineStore_of_busy (busy : Busy raw line) :
    lineStore store raw = (execute store line).store := by
  simp [lineStore, busy.read, busy.notBlank]

end Line

section Runs

variable {store : Store} {number : Nat} {raw : Bytes} {lines : List Bytes}
  {diagnostic : Diagnostic}

/-- **Step.** What a line adds to a run does not depend on the lines behind it. -/
theorem runFrom_adds (store : Store) (number : Nat) (readable : decode? (chomp raw) ≠ none) :
    ∃ piece, ∀ later, Run.Adds piece (lineReport? store number raw)
      (runFrom .unlimited (lineStore store raw) (number + 1) later)
      (runFrom .unlimited store number (raw :: later)) := by
  have nothing : ∀ outcome : Except RunError Nat, outcome = outcome.map (· + 0) := by
    intro outcome
    cases outcome <;> rfl
  cases LineCase.of store raw with
  | unreadable unread => exact absurd unread readable
  | blank read blank =>
    refine ⟨[], fun later => ?_⟩
    rw [lineReport?_of_blank read blank, lineStore_of_blank read blank, runFrom_blank read blank]
    exact ⟨rfl, rfl, nothing _⟩
  | rejected busy outcome =>
    refine ⟨[], fun later => ?_⟩
    rw [lineReport?_eq_some_iff.2 ⟨_, _, busy, outcome, rfl⟩, lineStore_of_busy busy,
      runFrom_rejected busy outcome]
    exact ⟨rfl, rfl, rfl⟩
  | assigned busy outcome =>
    refine ⟨[], fun later => ?_⟩
    rw [lineReport?_of_ok busy outcome, lineStore_of_busy busy, runFrom_assigned busy outcome]
    exact ⟨rfl, rfl, nothing _⟩
  | @printed line text busy outcome =>
    refine ⟨printedBytes text, fun later => ?_⟩
    rw [lineReport?_of_ok busy outcome, lineStore_of_busy busy,
      runFrom_unlimited_printed busy outcome]
    exact ⟨rfl, rfl, nothing _⟩

/-! ## What a run reports -/

/-- A run counts what it reports. -/
theorem outcome_of_readable (readable : Readable lines) :
    (runFrom .unlimited store number lines).outcome =
      .ok (runFrom .unlimited store number lines).diagnostics.length := by
  induction lines generalizing store number with
  | nil => rfl
  | cons raw later ih =>
    obtain ⟨here, others⟩ := List.forall_mem_cons.1 readable
    obtain ⟨piece, adds⟩ := runFrom_adds store number here
    rw [(adds later).outcome, (adds later).diagnostics, ih others, List.length_append]
    exact congrArg Except.ok (Nat.add_comm _ _)

/-- A run that ends as it should has met text only. -/
theorem readable_of_ok {failures : Nat}
    (ended : (runFrom .unlimited store number lines).outcome = .ok failures) :
    Readable lines := by
  intro raw member unread
  have stopped : (runFrom .unlimited store number lines).outcome = .error .invalidText :=
    runFrom_unlimited_eq_error_iff.2 ⟨rfl, raw, member, unread⟩
  rw [ended] at stopped
  cases stopped

theorem rejects_cons {later : List Bytes} : Rejects store number (raw :: later) diagnostic ↔
    lineReport? store number raw = some diagnostic ∨
      Rejects (lineStore store raw) (number + 1) later diagnostic := by
  constructor
  · rintro ⟨before, raw', after, whole, reported⟩
    cases before with
    | nil =>
      obtain ⟨rfl, rfl⟩ := List.cons.inj whole
      exact .inl reported
    | cons first before =>
      obtain ⟨rfl, rfl⟩ := List.cons.inj whole
      refine .inr ⟨before, raw', after, rfl, ?_⟩
      rw [List.length_cons, ← Nat.succ_add_eq_add_succ] at reported
      exact reported
  · rintro (reported | ⟨before, raw', after, rfl, reported⟩)
    · exact ⟨[], raw, later, rfl, reported⟩
    · refine ⟨raw :: before, raw', after, rfl, ?_⟩
      rw [List.length_cons, ← Nat.succ_add_eq_add_succ]
      exact reported

theorem Rejects.number_le (rejects : Rejects store number lines diagnostic) :
    ∃ n, diagnostic.lineNumber = some n ∧ number ≤ n := by
  obtain ⟨before, raw, after, _, reported⟩ := rejects
  exact ⟨_, lineNumber_of_lineReport? reported, Nat.le_add_right _ _⟩

theorem RejectsLine.here {later : List Bytes}
    (rejects : RejectsLine store number (raw :: later) number) :
    ∃ line error, Busy raw line ∧ (execute store line).outcome = .error error := by
  obtain ⟨diagnostic, rejects, isNumber⟩ := rejects
  rcases rejects_cons.1 rejects with reported | rejects
  · obtain ⟨line, error, busy, outcome, _⟩ := lineReport?_eq_some_iff.1 reported
    exact ⟨line, error, busy, outcome⟩
  · obtain ⟨n, isNumber', beyond⟩ := rejects.number_le
    have := Option.some.inj (isNumber.symm.trans isNumber')
    omega

theorem RejectsLine.behind {later : List Bytes} {n : Nat}
    (rejects : RejectsLine store number (raw :: later) n) (beyond : number < n) :
    RejectsLine (lineStore store raw) (number + 1) later n := by
  obtain ⟨diagnostic, rejects, isNumber⟩ := rejects
  rcases rejects_cons.1 rejects with reported | rejects
  · have := Option.some.inj (isNumber.symm.trans (lineNumber_of_lineReport? reported))
    omega
  · exact ⟨diagnostic, rejects, isNumber⟩

/-- **Run.** A run reports the lines that are rejected, and no others. -/
theorem mem_diagnostics_iff (readable : Readable lines) :
    diagnostic ∈ (runFrom .unlimited store number lines).diagnostics ↔
      Rejects store number lines diagnostic := by
  induction lines generalizing store number with
  | nil => simp [runFrom, Run.ended, Rejects]
  | cons raw later ih =>
    obtain ⟨here, others⟩ := List.forall_mem_cons.1 readable
    obtain ⟨piece, adds⟩ := runFrom_adds store number here
    rw [(adds later).diagnostics, List.mem_append, ih others, rejects_cons, Option.mem_toList]

/-- **Run.** It reports them in the order of their numbers. -/
theorem diagnostics_ascending (readable : Readable lines) :
    (runFrom .unlimited store number lines).diagnostics.Pairwise
      fun d d' => d.lineNumber < d'.lineNumber := by
  induction lines generalizing store number with
  | nil => exact .nil
  | cons raw later ih =>
    obtain ⟨here, others⟩ := List.forall_mem_cons.1 readable
    obtain ⟨piece, adds⟩ := runFrom_adds store number here
    rw [(adds later).diagnostics]
    cases reported : lineReport? store number raw with
    | none => exact ih others
    | some diagnostic =>
      refine List.pairwise_cons.2 ⟨?_, ih others⟩
      intro d member
      obtain ⟨n, isNumber, beyond⟩ := ((mem_diagnostics_iff others).1 member).number_le
      rw [isNumber, lineNumber_of_lineReport? reported, Option.some_lt_some]
      exact beyond

end Runs

end Program

/-! ## Blanked lines -/

/-- What ends a line: all that is taken off it to have its text. -/
def lineTerminator (raw : Bytes) : Bytes := raw.drop (chomp raw).length

/-- Lines that count from `number`, with nothing but its end of each chosen one. -/
def blankFrom (chosen : Finset Nat) (number : Nat) : (lines : List Bytes) → List Bytes
  | [] => []
  | raw :: later =>
    (if number ∈ chosen then lineTerminator raw else raw) :: blankFrom chosen (number + 1) later

/-- An input without the text of the chosen lines. -/
def blankOut (chosen : Finset Nat) (source : Bytes) : Bytes :=
  (blankFrom chosen 1 (rawLines source)).flatten

theorem lineTerminator_of_open {raw : Bytes} (noFeed : lineFeed ∉ raw) :
    lineTerminator raw = [] := by
  have notLast : raw.getLast? ≠ some lineFeed := fun last => noFeed (List.mem_of_getLast? last)
  simp [lineTerminator, chomp, notLast]

theorem lineTerminator_feed (body : Bytes) :
    lineTerminator (body ++ [lineFeed]) = [lineFeed] ∨
      lineTerminator (body ++ [lineFeed]) = [carriageReturn, lineFeed] := by
  by_cases carriage : body.getLast? = some carriageReturn
  · obtain ⟨body, rfl⟩ := List.getLast?_eq_some_iff.1 carriage
    exact .inr (by simp [lineTerminator, chomp])
  · exact .inl (by simp [lineTerminator, chomp, carriage])

theorem lineTerminator_cases (raw : Bytes) : lineTerminator raw = [] ∨
    lineTerminator raw = [lineFeed] ∨ lineTerminator raw = [carriageReturn, lineFeed] := by
  by_cases feed : raw.getLast? = some lineFeed
  · obtain ⟨body, rfl⟩ := List.getLast?_eq_some_iff.1 feed
    exact .inr (lineTerminator_feed body)
  · exact .inl (by simp [lineTerminator, chomp, feed])

/-- What is left of a chosen line is blank. -/
theorem decode?_lineTerminator (raw : Bytes) : decode? (chomp (lineTerminator raw)) = some [] := by
  have nothing : chomp (lineTerminator raw) = [] := by
    rcases lineTerminator_cases raw with ends | ends | ends <;> rw [ends] <;> decide
  rw [nothing]
  exact decode?_encode []

namespace Program

variable {chosen : Finset Nat} {store : Store} {number : Nat} {lines : List Bytes}

theorem Readable.blankFrom (readable : Readable lines) :
    Readable (blankFrom chosen number lines) := by
  induction lines generalizing number with
  | nil => exact readable
  | cons raw later ih =>
    obtain ⟨here, others⟩ := List.forall_mem_cons.1 readable
    refine List.forall_mem_cons.2 ⟨?_, ih others⟩
    split
    · simp [decode?_lineTerminator]
    · exact here

/-- A closed line stays one when it is blanked. -/
theorem exists_closed (chosen : Finset Nat) (number : Nat) {body : Bytes}
    (noFeed : lineFeed ∉ body) : ∃ left, lineFeed ∉ left ∧
      (if number ∈ chosen then lineTerminator (body ++ [lineFeed]) else body ++ [lineFeed]) =
        left ++ [lineFeed] := by
  split
  · rcases lineTerminator_feed body with ends | ends
    · exact ⟨[], by simp, ends⟩
    · exact ⟨[carriageReturn], by decide, ends⟩
  · exact ⟨body, noFeed, rfl⟩

/-- The lines of an input with chosen ones blanked are these lines, but for an
open line of which nothing is left. -/
theorem runFrom_rawLines_blankFrom (sink : Sink) (bytes : Bytes) (first : Nat) :
    runFrom sink store number
        (rawLines (LineBasic.blankFrom chosen first (rawLines bytes)).flatten) =
      runFrom sink store number (LineBasic.blankFrom chosen first (rawLines bytes)) := by
  induction bytes using lineInduction generalizing sink store number first with
  | isOpen bytes noFeed =>
    by_cases empty : bytes = []
    · simp [empty, LineBasic.blankFrom]
    · rw [rawLines_of_open noFeed empty]
      by_cases member : first ∈ chosen
      · have read : decode? (chomp []) = some [] := by decide +kernel
        simp [LineBasic.blankFrom, member, lineTerminator_of_open noFeed, runFrom_blank read rfl,
          runFrom]
      · simp [LineBasic.blankFrom, member, rawLines_of_open noFeed empty]
  | closed body later noFeed ih =>
    obtain ⟨left, noFeed', closes⟩ := exists_closed chosen first noFeed
    rw [rawLines_of_closed noFeed, LineBasic.blankFrom, closes, List.flatten_cons,
      List.append_assoc, List.singleton_append, rawLines_of_closed noFeed']
    simp only [runFrom, ih]

/-- **Run.** Blanking lines that are rejected takes away their diagnostics and
nothing else. -/
theorem runFrom_blankFrom (readable : Readable lines)
    (failing : ∀ n ∈ chosen, number ≤ n → RejectsLine store number lines n) :
    (runFrom .unlimited store number (blankFrom chosen number lines)).output =
      (runFrom .unlimited store number lines).output ∧
    (runFrom .unlimited store number (blankFrom chosen number lines)).diagnostics =
      (runFrom .unlimited store number lines).diagnostics.filter
        fun d => d.lineNumber ∉ chosen.image some := by
  induction lines generalizing store number with
  | nil => exact ⟨rfl, rfl⟩
  | cons raw later ih =>
    obtain ⟨here, others⟩ := List.forall_mem_cons.1 readable
    obtain ⟨output, diagnostics⟩ := ih others fun n member beyond =>
      (failing n member (Nat.le_of_succ_le beyond)).behind beyond
    obtain ⟨piece, adds⟩ := runFrom_adds store number here
    rw [LineBasic.blankFrom]
    by_cases member : number ∈ chosen
    · obtain ⟨line, error, busy, outcome⟩ := (failing number member (Nat.le_refl _)).here
      have sameStore : lineStore store raw = store := by
        rw [lineStore_of_busy busy, store_execute, outcome]
        rfl
      rw [if_pos member, runFrom_blank (decode?_lineTerminator raw) rfl,
        runFrom_rejected busy outcome, ← lineStore_of_busy busy, sameStore]
      rw [sameStore] at output diagnostics
      refine ⟨output, ?_⟩
      rw [diagnostics, Run.observed_diagnostics, Run.rejected_diagnostics,
        List.filter_cons_of_neg (by simpa using member)]
    · rw [if_neg member, (adds _).output, (adds _).output, (adds _).diagnostics,
        (adds _).diagnostics, output, diagnostics, List.filter_append]
      refine ⟨rfl, congrArg (· ++ _) (List.filter_eq_self.2 ?_).symm⟩
      intro d reported
      rw [lineNumber_of_lineReport? (Option.mem_toList.1 reported)]
      simpa using member

end Program

/-! ## Whole runs -/

/-- Taking away the diagnostics of chosen lines, each of which has one, leaves as
many fewer as there are such lines. -/
theorem length_filter_of_ascending {diagnostics : List Diagnostic} {chosen : Finset Nat}
    (ascending : diagnostics.Pairwise fun d d' => d.lineNumber < d'.lineNumber)
    (present : ∀ n ∈ chosen, ∃ d ∈ diagnostics, d.lineNumber = some n) :
    (diagnostics.filter fun d => d.lineNumber ∉ chosen.image some).length =
      diagnostics.length - chosen.card := by
  have nodup : ((diagnostics.filter fun d => d.lineNumber ∈ chosen.image some).map
      (·.lineNumber)).Nodup := by
    refine List.pairwise_map.2 ((ascending.filter _).imp ?_)
    intro d d' before same
    rw [same] at before
    cases number : d'.lineNumber <;> simp [number] at before
  have numbers : ((diagnostics.filter fun d => d.lineNumber ∈ chosen.image some).map
      (·.lineNumber)).toFinset = chosen.image some := by
    ext number
    simp only [List.mem_toFinset, List.mem_map, List.mem_filter, decide_eq_true_eq]
    constructor
    · rintro ⟨d, ⟨_, isChosen⟩, rfl⟩
      exact isChosen
    · intro isChosen
      obtain ⟨n, member, rfl⟩ := Finset.mem_image.1 isChosen
      obtain ⟨d, reported, isNumber⟩ := present n member
      exact ⟨d, ⟨reported, by rwa [isNumber]⟩, isNumber⟩
  have removed : (diagnostics.filter fun d => d.lineNumber ∈ chosen.image some).length =
      chosen.card := by
    rw [← List.length_map (·.lineNumber), ← List.toFinset_card_of_nodup nodup, numbers,
      Finset.card_image_of_injective _ (Option.some_injective _)]
  have parts := diagnostics.length_eq_length_filter_add fun d => d.lineNumber ∈ chosen.image some
  simp only [decide_not]
  omega

/-- **Rejected lines can be blanked.** If a program runs to its end, it reports
exactly the lines that are rejected, in the order of their numbers, which count
all lines. Of these any may be blanked: the output stays the same, the other
diagnostics stay the same, and as many fewer lines are rejected. -/
theorem rejected_lines_can_be_blanked {source : Bytes} {failures : Nat}
    (ended : (Program.run .unlimited source).outcome = .ok failures) :
    let run := Program.run .unlimited source
    run.diagnostics.length = failures ∧
    (run.diagnostics.Pairwise fun d d' => d.lineNumber < d'.lineNumber) ∧
    (∀ d, d ∈ run.diagnostics ↔ Program.Rejects .empty 1 (rawLines source) d) ∧
    ∀ chosen : Finset Nat, (∀ n ∈ chosen, Program.RejectsLine .empty 1 (rawLines source) n) →
      let others := Program.run .unlimited (blankOut chosen source)
      others.output = run.output ∧ others.outcome = .ok (failures - chosen.card) ∧
      others.diagnostics = run.diagnostics.filter fun d => d.lineNumber ∉ chosen.image some := by
  intro run
  have readable : Program.Readable (rawLines source) := Program.readable_of_ok ended
  have counted : run.outcome = .ok run.diagnostics.length := Program.outcome_of_readable readable
  have length : run.diagnostics.length = failures := Except.ok.inj (counted.symm.trans ended)
  have ascending : run.diagnostics.Pairwise fun d d' => d.lineNumber < d'.lineNumber :=
    Program.diagnostics_ascending readable
  have members : ∀ d, d ∈ run.diagnostics ↔ Program.Rejects .empty 1 (rawLines source) d :=
    fun d => Program.mem_diagnostics_iff readable
  refine ⟨length, ascending, members, ?_⟩
  intro chosen failing others
  have same : others = Program.runFrom .unlimited .empty 1 (blankFrom chosen 1 (rawLines source)) :=
    Program.runFrom_rawLines_blankFrom .unlimited source 1
  obtain ⟨output, diagnostics⟩ : others.output = run.output ∧
      others.diagnostics = run.diagnostics.filter fun d => d.lineNumber ∉ chosen.image some := by
    rw [same]
    exact Program.runFrom_blankFrom readable fun n member _ => failing n member
  refine ⟨output, ?_, diagnostics⟩
  have left : others.outcome = .ok others.diagnostics.length := by
    rw [same]
    exact Program.outcome_of_readable readable.blankFrom
  have present : ∀ n ∈ chosen, ∃ d ∈ run.diagnostics, d.lineNumber = some n := by
    intro n member
    obtain ⟨d, rejects, isNumber⟩ := failing n member
    exact ⟨d, (members d).2 rejects, isNumber⟩
  rw [left, diagnostics, length_filter_of_ascending ascending present, length]

/-- Around a blank line and output, two of four rejected lines are blanked, the
last one of them open. -/
theorem blanked_around_output :
    (Program.run .unlimited
      (encode "PRINT x\r\n\nLET a\nPRINT \"b\"\n\"\nLET c =".toList)).outcome = .ok 4 ∧
    blankOut {1, 6} (encode "PRINT x\r\n\nLET a\nPRINT \"b\"\n\"\nLET c =".toList) =
      encode "\r\n\nLET a\nPRINT \"b\"\n\"\n".toList ∧
    (∀ n ∈ ({1, 6} : Finset Nat), Program.RejectsLine .empty 1
      (rawLines (encode "PRINT x\r\n\nLET a\nPRINT \"b\"\n\"\nLET c =".toList)) n) ∧
    (Program.run .unlimited (blankOut {1, 6}
      (encode "PRINT x\r\n\nLET a\nPRINT \"b\"\n\"\nLET c =".toList))).outcome = .ok 2 := by
  have ended : (Program.run .unlimited
      (encode "PRINT x\r\n\nLET a\nPRINT \"b\"\n\"\nLET c =".toList)).outcome = .ok 4 := by
    decide +kernel
  obtain ⟨_, _, members, blanked⟩ := rejected_lines_can_be_blanked ended
  have reported : ∀ n ∈ ({1, 6} : Finset Nat), ∃ d ∈ (Program.run .unlimited
      (encode "PRINT x\r\n\nLET a\nPRINT \"b\"\n\"\nLET c =".toList)).diagnostics,
      d.lineNumber = some n := by decide +kernel
  have failing : ∀ n ∈ ({1, 6} : Finset Nat), Program.RejectsLine .empty 1
      (rawLines (encode "PRINT x\r\n\nLET a\nPRINT \"b\"\n\"\nLET c =".toList)) n := by
    intro n member
    obtain ⟨d, isReported, isNumber⟩ := reported n member
    exact ⟨d, (members d).1 isReported, isNumber⟩
  exact ⟨ended, by decide +kernel, failing, (blanked {1, 6} failing).2.1⟩

end LineBasic
