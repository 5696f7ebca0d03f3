import LineBasic.CommandLine
import LineBasic.Proofs.Blanking
import LineBasic.Proofs.Noninterference
import LineBasic.Proofs.Reports

/-!
# The exit code of a program in a file

A file is run only if the whole of it is text. Its lines are then text as well,
since a line feed is a character wherever it stands, so the run of the file is
the execution of its lines that are not blank, one after another and against
the empty store at first: what these print is the output, each of them that is
rejected is reported with its number, and the exit code tells whether there is one.

* **lines** — a text is cut at line feeds into texts (`readable_of_decode?`);
* **step** — a line adds its own output and its own error to those of the lines
  behind it, and so does its execution (`Program.runFrom_shows_line`);
* **run** — hence a run over text shows its executions
  (`Program.runFrom_showsAll`).

Main result: **`exit_code_tells_of_rejected_lines`**.
-/

namespace LineBasic

/-! ## Lines of a text -/

/-- A line feed in the encoding of a character is all of it. -/
theorem utf8EncodeChar_of_feed {ch : Char} (feed : lineFeed ∈ String.utf8EncodeChar ch) :
    String.utf8EncodeChar ch = [lineFeed] := by
  -- all bytes of longer encodings lie beyond ASCII
  have beyond {n : Nat} (large : 128 ≤ n) (small : n < 256) : lineFeed ≠ UInt8.ofNat n := by
    intro same
    have value := congrArg UInt8.toNat same
    rw [UInt8.toNat_ofNat'] at value
    have : lineFeed.toNat = 10 := rfl
    omega
  delta String.utf8EncodeChar at feed ⊢
  simp only at feed ⊢
  split at feed
  · next one => rw [if_pos one, List.mem_singleton.1 feed]
  split at feed
  · simp only [List.mem_cons, List.not_mem_nil, or_false] at feed
    rcases feed with same | same <;> exact absurd same (beyond (by omega) (by omega))
  split at feed
  · simp only [List.mem_cons, List.not_mem_nil, or_false] at feed
    rcases feed with same | same | same <;> exact absurd same (beyond (by omega) (by omega))
  · simp only [List.mem_cons, List.not_mem_nil, or_false] at feed
    rcases feed with same | same | same | same <;> exact absurd same (beyond (by omega) (by omega))

/-- A text is cut at a line feed into texts. -/
theorem encode_eq_append_feed {t : Text} {body later : Bytes}
    (whole : encode t = body ++ lineFeed :: later) :
    ∃ s u, body = encode s ∧ later = encode u := by
  induction t generalizing body with
  | nil => simp at whole
  | cons ch t ih =>
    have split : encode (ch :: t) = String.utf8EncodeChar ch ++ encode t := rfl
    rw [split] at whole
    rcases List.append_eq_append_iff.1 whole with ⟨rest, rfl, tail⟩ | ⟨rest, first, tail⟩
    · obtain ⟨s, u, rfl, rfl⟩ := ih tail
      exact ⟨ch :: s, u, rfl, rfl⟩
    · cases rest with
      | nil =>
        have nothing : encode t = [] ++ lineFeed :: later := tail.symm
        obtain ⟨s, u, empty, rfl⟩ := ih nothing
        rw [List.append_nil] at first
        exact ⟨[ch], u, by rw [← first]; exact (List.append_nil _).symm, rfl⟩
      | cons b rest =>
        obtain ⟨rfl, rfl⟩ := List.cons.inj tail
        have feed : lineFeed ∈ String.utf8EncodeChar ch := by simp [first]
        have only := utf8EncodeChar_of_feed feed
        rw [first] at only
        obtain ⟨rfl, same⟩ : body = [] ∧ rest = [] := by
          cases body with
          | nil => simpa using only
          | cons c body => simp at only
        exact ⟨[], t, rfl, by rw [same]; rfl⟩

/-- The lines of a text are text. -/
theorem readable_of_decode? {bytes : Bytes} (text : decode? bytes ≠ none) :
    Program.Readable (rawLines bytes) := by
  obtain ⟨t, decoded⟩ := Option.ne_none_iff_exists'.1 text
  rw [decode?_eq_some_iff] at decoded
  induction bytes using lineInduction generalizing t with
  | isOpen bytes noFeed =>
    by_cases empty : bytes = []
    · simp [empty, Program.Readable]
    · rw [rawLines_of_open noFeed empty]
      intro raw member
      rw [List.mem_singleton.1 member, Ne, decode?_chomp_eq_none_iff]
      exact text
  | closed body later noFeed ih =>
    obtain ⟨s, u, rfl, rfl⟩ := encode_eq_append_feed decoded.symm
    rw [rawLines_of_closed noFeed]
    refine List.forall_mem_cons.2 ⟨?_, ih (by simp [decode?_encode]) u rfl⟩
    have closed : encode s ++ [lineFeed] = encode (s ++ ['\n']) := (encode_append s ['\n']).symm
    rw [Ne, decode?_chomp_eq_none_iff, closed, decode?_encode]
    exact Option.some_ne_none _

/-! ## Executions and what they show -/

/-- What an execution writes. -/
def Execution.output (execution : Execution) : Bytes :=
  match execution.outcome with
  | .ok (.printed text) => printedBytes text
  | .ok (.assigned _ _) => []
  | .error _ => []

/-- Why the line was rejected, if it was. -/
def Execution.error? (execution : Execution) : Option LineError :=
  match execution.outcome with
  | .ok _ => none
  | .error error => some error

/-- The lines that are not blank, each with its number. -/
def busyLines (number : Nat) (lines : List Text) : List (Text × Nat) :=
  (lines.zipIdx number).filter fun (line, _) => !isBlank line

/-- The diagnostics of lines that have been executed, one for each that was rejected. -/
def rejections (busy : List (Text × Nat)) (executed : List Execution) : List Diagnostic :=
  (busy.zip executed).filterMap fun ((line, number), execution) =>
    execution.error?.map fun error => ⟨error, line, some number⟩

/-- A run shows executions of lines: their output, the errors of those that have one,
and a diagnostic of the line for each of these. -/
structure Run.ShowsAll (run : Run) (busy : List (Text × Nat)) (done : List Execution) : Prop where
  output : run.output = done.flatMap Execution.output
  errors : run.diagnostics.map (·.error) = done.filterMap Execution.error?
  diagnostics : run.diagnostics = rejections busy done

theorem busyLines_cons_blank {line : Text} (number : Nat) (later : List Text)
    (blank : isBlank line = true) :
    busyLines number (line :: later) = busyLines (number + 1) later := by
  simp [busyLines, blank]

theorem busyLines_cons_busy {line : Text} (number : Nat) (later : List Text)
    (busy : isBlank line = false) :
    busyLines number (line :: later) = (line, number) :: busyLines (number + 1) later := by
  simp [busyLines, busy]

section Cons

variable {run run' : Run} {execution : Execution} {line : Text} {number : Nat}
  {busy : List (Text × Nat)} {done : List Execution}

/-- A run with the output of one more execution in front shows that one as well. -/
theorem Run.ShowsAll.cons_ok (shows : run.ShowsAll busy done) (fine : execution.error? = none)
    (output : run'.output = execution.output ++ run.output)
    (same : run'.diagnostics = run.diagnostics) :
    run'.ShowsAll ((line, number) :: busy) (execution :: done) := by
  refine ⟨?_, ?_, ?_⟩
  · rw [output, shows.output, List.flatMap_cons]
  · rw [same, shows.errors, List.filterMap_cons_none fine]
  · rw [same, shows.diagnostics]
    simp [rejections, fine]

/-- So does a run with one more diagnostic in front, if the execution wrote nothing. -/
theorem Run.ShowsAll.cons_error {error : LineError} (shows : run.ShowsAll busy done)
    (rejected : execution.error? = some error) (silent : execution.output = [])
    (output : run'.output = run.output)
    (diagnostics : run'.diagnostics = ⟨error, line, some number⟩ :: run.diagnostics) :
    run'.ShowsAll ((line, number) :: busy) (execution :: done) := by
  refine ⟨?_, ?_, ?_⟩
  · rw [output, shows.output, List.flatMap_cons, silent, List.nil_append]
  · rw [diagnostics, List.map_cons, shows.errors, List.filterMap_cons_some rejected]
  · rw [diagnostics, shows.diagnostics]
    simp [rejections, rejected]

end Cons

/-- A diagnostic is about one of the lines. -/
theorem source_of_mem_rejections {busy : List (Text × Nat)} {done : List Execution}
    {d : Diagnostic} (member : d ∈ rejections busy done) :
    ∃ number, d.lineNumber = some number ∧ (d.source, number) ∈ busy := by
  obtain ⟨⟨⟨line, number⟩, execution⟩, paired, found⟩ := List.mem_filterMap.1 member
  obtain ⟨error, _, rfl⟩ := Option.map_eq_some_iff.1 found
  exact ⟨number, rfl, (List.of_mem_zip paired).1⟩

theorem source_ne_nil_of_mem_rejections {number : Nat} {lines : List Text}
    {done : List Execution} {d : Diagnostic}
    (member : d ∈ rejections (busyLines number lines) done) : d.source ≠ [] := by
  obtain ⟨_, _, busy⟩ := source_of_mem_rejections member
  have visible := (List.mem_filter.1 busy).2
  intro nothing
  rw [nothing] at visible
  cases visible

namespace Program

/-- **Step.** In front of the executions that a run shows, a line shows its own. -/
theorem runFrom_shows_line {store : Store} {number : Nat} {raw : Bytes} {later : List Bytes}
    {line : Text} {behind : List (Text × Nat)} {done : List Execution} (busy : Busy raw line)
    (shows : Run.ShowsAll (runFrom .unlimited (execute store line).store (number + 1) later)
      behind done) :
    Run.ShowsAll (runFrom .unlimited store number (raw :: later)) ((line, number) :: behind)
      (execute store line :: done) := by
  match outcome : (execute store line).outcome with
  | .error error =>
    rw [runFrom_rejected busy outcome]
    exact shows.cons_error (by simp [Execution.error?, outcome])
      (by simp [Execution.output, outcome]) rfl rfl
  | .ok (.assigned name value) =>
    rw [runFrom_assigned busy outcome]
    exact shows.cons_ok (by simp [Execution.error?, outcome])
      (by simp [Execution.output, outcome]) rfl
  | .ok (.printed text) =>
    rw [runFrom_unlimited_printed busy outcome]
    exact shows.cons_ok (by simp [Execution.error?, outcome])
      (by simp [Execution.output, outcome]) rfl

/-- **Run.** A run over text shows the executions of its lines. -/
theorem runFrom_showsAll (store : Store) (number : Nat) {raws : List Bytes} {lines : List Text}
    (read : raws.map (fun raw => decode? (chomp raw)) = lines.map some) :
    Run.ShowsAll (runFrom .unlimited store number raws) (busyLines number lines)
      (executions store (lines.filter (!isBlank ·))) := by
  induction raws generalizing store number lines with
  | nil =>
    obtain rfl := List.map_eq_nil_iff.1 read.symm
    exact ⟨rfl, rfl, rfl⟩
  | cons raw later ih =>
    obtain ⟨line, lines, rfl, here, others⟩ := List.map_eq_cons_iff.1 read.symm
    have text : decode? (chomp raw) = some line := here.symm
    by_cases blank : isBlank line = true
    · rw [runFrom_blank text blank, List.filter_cons_of_neg (by simp [blank]),
        busyLines_cons_blank number lines blank]
      exact ih store (number + 1) others.symm
    · have busy : Busy raw line := ⟨text, by simpa using blank⟩
      rw [List.filter_cons_of_pos (by simp [blank]), busyLines_cons_busy number lines busy.2]
      exact runFrom_shows_line busy (ih _ (number + 1) others.symm)

end Program

/-! ## The process -/

/-- What a process leaves behind that could run nothing. -/
structure Completion.Fails (done : Completion) : Prop where
  output : done.output = []
  code : done.code = 1

/-- What a process leaves behind that has run a file with lines: the output of the
executions of those that are not blank, a report for each that is rejected, in order,
under its number and with what is to be shown of it, and an exit code that tells whether
there is any. -/
structure Completion.RunsAll (done : Completion) (path : Text) (lines : List Text)
    (executed : List Execution) : Prop where
  output : done.output = executed.flatMap Execution.output
  rejected : (rejections (busyLines 1 lines) executed).map (·.error) =
    executed.filterMap Execution.error?
  errors : ∃ reports : List String, done.errors = String.join reports ∧
    List.Forall₂ (fun d report => d.source ≠ [] ∧ d.Reported path report)
      (rejections (busyLines 1 lines) executed) reports
  success : done.code = 0 ↔ ∀ execution ∈ executed, ∃ effect, execution.outcome = .ok effect
  failure : done.code ≠ 0 → done.code = 1

namespace CommandLine

theorem error?_eq_none_iff {execution : Execution} :
    execution.error? = none ↔ ∃ effect, execution.outcome = .ok effect := by
  unfold Execution.error?
  cases execution.outcome <;> simp

/-- The lines of a text, one for each line of its encoding. -/
theorem exists_lines {contents : Bytes} (text : decode? contents ≠ none) :
    ∃ lines : List Text,
      (rawLines contents).map (fun raw => decode? (chomp raw)) = lines.map some := by
  refine ⟨(rawLines contents).map fun raw => (decode? (chomp raw)).getD [], ?_⟩
  rw [List.map_map]
  apply List.map_congr_left
  intro raw member
  obtain ⟨line, read⟩ := Option.ne_none_iff_exists'.1 (readable_of_decode? text raw member)
  simp [read]

/-- **A file of text is run as the executions of its lines.** -/
theorem runFile_of_text {contents : Bytes} (path : Text) (text : decode? contents ≠ none)
    {lines : List Text}
    (read : (rawLines contents).map (fun raw => decode? (chomp raw)) = lines.map some) :
    (runFile path (.file contents)).RunsAll path lines
      (executions .empty (lines.filter (!isBlank ·))) := by
  let run := Program.run .unlimited contents
  obtain ⟨output, errors, diagnostics⟩ : run.ShowsAll _ _ :=
    Program.runFrom_showsAll .empty 1 read
  have counted : run.outcome = .ok run.diagnostics.length :=
    Program.outcome_of_readable (readable_of_decode? text)
  obtain ⟨t, decoded⟩ := Option.ne_none_iff_exists'.1 text
  have done : runFile path (.file contents) =
      ⟨if run.diagnostics.length = 0 then 0 else 1, run.output, run.errorText path⟩ := by
    simp only [runFile, decoded, run, counted]
  have none_rejected : run.diagnostics.length = 0 ↔
      ∀ execution ∈ executions .empty (lines.filter (!isBlank ·)),
        ∃ effect, execution.outcome = .ok effect := by
    rw [← List.length_map (·.error), errors, List.length_eq_zero_iff, List.filterMap_eq_nil_iff]
    simp only [error?_eq_none_iff]
  rw [done]
  refine ⟨output, by rw [← diagnostics, errors], ?_, ?_, ?_⟩
  · refine ⟨run.diagnostics.map (·.render path), rfl, ?_⟩
    rw [diagnostics, List.forall₂_map_right_iff, List.forall₂_same]
    intro d member
    exact ⟨source_ne_nil_of_mem_rejections member, d.reported_render path⟩
  · rw [← none_rejected]
    by_cases none_left : run.diagnostics.length = 0 <;> simp [none_left]
  · intro other
    by_cases none_left : run.diagnostics.length = 0
    · exact absurd (if_pos none_left) other
    · exact if_neg none_left

theorem runFile_of_binary {contents : Bytes} (path : Text) (binary : decode? contents = none) :
    (runFile path (.file contents)).Fails := by
  simp only [runFile, binary]
  exact ⟨rfl, rfl⟩

end CommandLine

/-- **The exit code tells of rejected lines.** Asked to run a file and not to hold
a session, the program executes the lines that are not blank in order, beginning
with the empty store, each that is rejected is reported with its number, and the
exit code is 0 exactly if none is. A file that is not text, wherever in it that
shows, is not run at all, and neither is what is missing or cannot be read. -/
theorem exit_code_tells_of_rejected_lines {arguments : List Text} {options : Options} {path : Text}
    (asked : Request.ofArguments arguments = .ok (.run options))
    (named : options.file = some path) (alone : options.interactive = false)
    (find : Text → Entry) (input : Bytes) :
    let done := CommandLine.complete find input arguments
    (∀ contents, find path = .file contents → decode? contents = none → done.Fails) ∧
    (∀ contents, find path = .file contents → decode? contents ≠ none →
      ∃ lines : List Text,
        (rawLines contents).map (fun raw => decode? (chomp raw)) = lines.map some ∧
        done.RunsAll path lines (executions .empty (lines.filter (!isBlank ·)))) ∧
    (find path = .missing → done.Fails) ∧
    (∀ reason, find path = .unreadable reason → done.Fails) := by
  intro done
  have performed : done = CommandLine.runFile path (find path) := by
    simp [done, CommandLine.complete, asked, CommandLine.perform, named, alone]
  rw [performed]
  refine ⟨?_, ?_, ?_, ?_⟩
  · intro contents found binary
    rw [found]
    exact CommandLine.runFile_of_binary path binary
  · intro contents found text
    obtain ⟨lines, read⟩ := CommandLine.exists_lines text
    rw [found]
    exact ⟨lines, read, CommandLine.runFile_of_text path text read⟩
  · intro found
    rw [found]
    exact ⟨rfl, rfl⟩
  · intro reason found
    rw [found]
    exact ⟨rfl, rfl⟩

/-- A rejected line between two that print, and a byte that is not text behind
them. -/
theorem exit_code_of_mixed_lines :
    let contents := encode "print 1\r\n\nlet x\nprint \"a\", 2".toList
    let arguments := ["-q".toList, "a.bas".toList]
    Request.ofArguments arguments = .ok (.run ⟨some "a.bas".toList, false, true⟩) ∧
    decode? contents ≠ none ∧ decode? (contents ++ [lineFeed, 255]) = none ∧
    (∃ lines : List Text,
      (rawLines contents).map (fun raw => decode? (chomp raw)) = lines.map some ∧
      (CommandLine.complete (fun _ => .file contents) [] arguments).RunsAll "a.bas".toList lines
        (executions .empty (lines.filter (!isBlank ·)))) ∧
    (CommandLine.complete (fun _ => .file (contents ++ [lineFeed, 255])) [] arguments).Fails ∧
    (CommandLine.complete (fun _ => .missing) [] arguments).Fails ∧
    (CommandLine.complete (fun _ => .directory) [] arguments).Fails := by
  intro contents arguments
  have asked : Request.ofArguments arguments =
      .ok (.run ⟨some "a.bas".toList, false, true⟩) := by decide +kernel
  have text : decode? contents ≠ none := by simp [contents, decode?_encode]
  have binary : decode? (contents ++ [lineFeed, 255]) = none := by decide +kernel
  refine ⟨asked, text, binary, ?_, ?_, ?_, ?_⟩
  · exact (exit_code_tells_of_rejected_lines asked rfl rfl (fun _ => .file contents) []).2.1
      contents rfl text
  · exact (exit_code_tells_of_rejected_lines asked rfl rfl
      (fun _ => .file (contents ++ [lineFeed, 255])) []).1 _ rfl binary
  · exact (exit_code_tells_of_rejected_lines asked rfl rfl (fun _ => .missing) []).2.2.1 rfl
  · exact (exit_code_tells_of_rejected_lines asked rfl rfl (fun _ => .directory) []).2.2.2 _ rfl

end LineBasic
