import LineBasic.Diagnostic.Render

/-!
# What a report tells

A report opens with its announcement, which names the stage, the number of the line,
if it has one, and the cause. Below stand, one behind the other, the place, the
characters of the line where the span starts, the message once more and the help.
What lies between is frame and colour.

* **pieces** — texts that stand in another one in order (`Mentions`), put together part
  by part (`Mentions.append`, `Mentions.flatMap`);
* **the line on show** — one of the lines of the source, in which the span starts
  (`SourceLine.holdsStart_locate`);
* **causes** — no two have the same message (`Cause.message_injective`).

Main result: **`Diagnostic.reported_render`**.
-/

namespace LineBasic

/-! ## Pieces of a text -/

/-- The pieces stand in the text in this order, and none overlaps another. -/
inductive Mentions : (text : Text) → (pieces : List Text) → Prop
  | none {text} : Mentions text []
  | piece {front piece rest later} :
      Mentions rest later → Mentions (front ++ (piece ++ rest)) (piece :: later)

namespace Mentions

variable {text text' : Text} {pieces pieces' : List Text}

theorem behind (front : Text) (mentions : Mentions text pieces) :
    Mentions (front ++ text) pieces := by
  cases mentions with
  | none => exact .none
  | piece rest =>
    rw [← List.append_assoc]
    exact .piece rest

theorem here {piece : Text} (mentions : Mentions text pieces) :
    Mentions (piece ++ text) (piece :: pieces) := @Mentions.piece [] _ _ _ mentions

theorem append (first : Mentions text pieces) (second : Mentions text' pieces') :
    Mentions (text ++ text') (pieces ++ pieces') := by
  induction first with
  | none => exact second.behind _
  | piece _ ih =>
    simp only [List.append_assoc, List.cons_append]
    exact .piece ih

theorem flatMap {α : Type} {f : α → Text} {g : α → List Text} {l : List α}
    (each : ∀ a ∈ l, Mentions (f a) (g a)) : Mentions (l.flatMap f) (l.flatMap g) := by
  induction l with
  | nil => exact .none
  | cons a l ih =>
    rw [List.flatMap_cons, List.flatMap_cons]
    exact (each a List.mem_cons_self).append (ih fun b member => each b (.tail a member))

/-! A string mentions what the parts mention that it is put together from. -/

variable {s s' : String}

theorem self (s : String) : Mentions s.toList [s.toList] := by
  have mentions : Mentions (s.toList ++ []) [s.toList] := here .none
  rwa [List.append_nil] at mentions

theorem join (first : Mentions s.toList pieces) (second : Mentions s'.toList pieces') :
    Mentions (s ++ s').toList (pieces ++ pieces') := by
  rw [String.toList_append]
  exact first.append second

theorem before (s' : String) (mentions : Mentions s.toList pieces) :
    Mentions (s ++ s').toList pieces := by
  have both := mentions.join (@Mentions.none s'.toList)
  rwa [List.append_nil] at both

end Mentions

/-! ## The line on show -/

namespace Diagnostic

theorem displayLines_flatten (source : Text) : (displayLines source).flatten = source := by
  fun_induction displayLines source with
  | case1 => rfl
  | case2 rest ih => simp [ih]
  | case3 c rest _ ends ih => simp [ih]
  | case4 c rest _ stays nothing ih =>
    rw [nothing] at ih
    simp [← ih]
  | case5 c rest _ stays line lines found ih =>
    rw [found] at ih
    simp [← ih]

/-- The line is one of those into which the source is cut, under its index and its
offset. The place lies in it, or behind it if it is the last one. -/
structure SourceLine.HoldsStart (line : SourceLine) (source : Text) (place : Nat) : Prop where
  cut : ∃ earlier later, displayLines source = earlier ++ line.text :: later ∧
    source = earlier.flatten ++ (line.text ++ later.flatten) ∧
    earlier.length = line.index ∧ earlier.flatten.length = line.offset ∧
    (later = [] ∨ place < line.offset + line.text.length)
  reached : line.offset ≤ place

theorem SourceLine.holdsStart_locate {source : Text} {place : Nat} {later : List Text} :
    ∀ {line : SourceLine} {earlier : List Text},
      displayLines source = earlier ++ line.text :: later → earlier.length = line.index →
      earlier.flatten.length = line.offset → line.offset ≤ place →
      (locate place line later).HoldsStart source place := by
  -- what is cut is all of the source
  have joined {line : SourceLine} {earlier later : List Text}
      (lines : displayLines source = earlier ++ line.text :: later) :
      source = earlier.flatten ++ (line.text ++ later.flatten) := by
    rw [← List.flatten_cons, ← List.flatten_append, ← lines, displayLines_flatten]
  induction later with
  | nil =>
    intro line earlier lines index offset reached
    exact ⟨⟨earlier, [], lines, joined lines, index, offset, .inl rfl⟩, reached⟩
  | cons following later ih =>
    intro line earlier lines index offset reached
    rw [locate]
    split
    · next beyond =>
      refine @ih _ (earlier ++ [line.text]) ?_ ?_ ?_ beyond
      · simpa using lines
      · simp [index]
      · simp [offset]
    · next within =>
      exact ⟨⟨earlier, _, lines, joined lines, index, offset, .inr (by omega)⟩, reached⟩

end Diagnostic

/-! ## Causes -/

namespace Cause

/-- A cause without what it names. -/
def plain : Cause → Cause
  | unknownStatement _ => unknownStatement []
  | nestingTooDeep _ => nestingTooDeep 0
  | unknownOperator _ => unknownOperator []
  | variableNotFound _ => variableNotFound []
  | other => other

/-- How the message of a cause begins, before what it names. -/
def front : Cause → String
  | unknownStatement _ => "Unknown statement: "
  | nestingTooDeep _ => "Expression nested too deeply (limit "
  | unknownOperator _ => "Unknown operator: "
  | variableNotFound _ => "Variable "
  | other => other.message

/-- One cause of each kind. -/
def kinds : List Cause :=
  [unterminatedString, statementExpected, unknownStatement [], variableExpected, equalsExpected,
    endOfLineExpected, missingRightParen, expressionExpected, nestingTooDeep 0,
    unknownOperator [], variableNotFound []]

theorem plain_mem_kinds (cause : Cause) : cause.plain ∈ kinds := by
  cases cause <;> simp [plain, kinds]

theorem front_plain (cause : Cause) : cause.plain.front = cause.front := by
  cases cause <;> rfl

theorem front_append (cause : Cause) : ∃ rest, cause.message = cause.front ++ rest := by
  cases cause with
  | unknownStatement word => exact ⟨_, rfl⟩
  | nestingTooDeep limit => exact ⟨_, String.append_assoc⟩
  | unknownOperator symbol => exact ⟨_, rfl⟩
  | variableNotFound name => exact ⟨_, String.append_assoc⟩
  | _ => exact ⟨"", String.append_empty.symm⟩

/-- Only one message begins like another one. -/
theorem kind_of_front_begins :
    ∀ a ∈ kinds, ∀ b ∈ kinds, a.front.toList <+: b.front.toList →
      a = b ∨ (a = variableNotFound [] ∧ b = variableExpected) := by decide +kernel

/-- The messages about variables end differently. -/
theorem message_variableNotFound_ne (name : Text) :
    (variableNotFound name).message ≠ variableExpected.message := by
  intro same
  have letters : ("Variable " ++ String.ofList name).toList ++ " not found".toList =
      variableExpected.message.toList := by
    rw [← String.toList_append]
    exact congrArg String.toList same
  have other : ¬ " not found".toList <:+ variableExpected.message.toList := by decide +kernel
  exact other ⟨_, letters⟩

theorem plain_eq_of_front_begins {cause cause' : Cause} (same : cause.message = cause'.message)
    (begins : cause.front.toList <+: cause'.front.toList) : cause.plain = cause'.plain := by
  rw [← front_plain cause, ← front_plain cause'] at begins
  rcases kind_of_front_begins _ cause.plain_mem_kinds _ cause'.plain_mem_kinds begins with
    alike | ⟨notFound, expected⟩
  · exact alike
  · cases cause with
    | variableNotFound name =>
      cases cause' with
      | variableExpected => exact absurd same (message_variableNotFound_ne name)
      | _ => cases expected
    | _ => cases notFound

theorem plain_eq_of_message {cause cause' : Cause} (same : cause.message = cause'.message) :
    cause.plain = cause'.plain := by
  obtain ⟨rest, whole⟩ := cause.front_append
  obtain ⟨rest', whole'⟩ := cause'.front_append
  have letters : cause.front.toList ++ rest.toList = cause'.front.toList ++ rest'.toList := by
    rw [← String.toList_append, ← String.toList_append, ← whole, ← whole', same]
  rcases List.prefix_or_prefix_of_prefix ⟨_, letters⟩ (List.prefix_append _ _) with
    begins | begins
  · exact plain_eq_of_front_begins same begins
  · exact (plain_eq_of_front_begins same.symm begins).symm

theorem eq_of_repr_eq {m n : Nat} (same : m.repr = n.repr) : m = n := by
  have digits : Nat.toDigits 10 m = Nat.toDigits 10 n := by
    rw [← Nat.toList_repr, ← Nat.toList_repr, same]
  rw [← @Nat.ofDigitChars_toDigits 10 m (by decide) (by decide), digits,
    Nat.ofDigitChars_toDigits (by decide) (by decide)]

/-- **The message tells the cause.** -/
theorem message_injective {cause cause' : Cause} (same : cause.message = cause'.message) :
    cause = cause' := by
  have alike := plain_eq_of_message same
  cases cause with
  | unknownStatement word =>
    cases cause' with
    | unknownStatement word' =>
      rw [String.ofList_inj.1 ((String.append_right_inj "Unknown statement: ").1 same)]
    | _ => cases alike
  | unknownOperator symbol =>
    cases cause' with
    | unknownOperator symbol' =>
      rw [String.ofList_inj.1 ((String.append_right_inj "Unknown operator: ").1 same)]
    | _ => cases alike
  | variableNotFound name =>
    cases cause' with
    | variableNotFound name' =>
      have named := (String.append_left_inj " not found").1 same
      rw [String.ofList_inj.1 ((String.append_right_inj "Variable ").1 named)]
    | _ => cases alike
  | nestingTooDeep limit =>
    cases cause' with
    | nestingTooDeep limit' =>
      have counted := (String.append_left_inj ")").1 same
      rw [eq_of_repr_eq
        ((String.append_right_inj "Expression nested too deeply (limit ").1 counted)]
    | _ => cases alike
  | _ =>
    cases cause' with
    | _ => first | rfl | cases alike

end Cause

/-! ## Reports -/

/-- How a report names a stage. -/
def Stage.heading : Stage → String
  | lexical => "\x1b[31mLexical Error\x1b[0m"
  | grammar => "\x1b[33mSyntax Error\x1b[0m"
  | runtime => "\x1b[35mRuntime Error\x1b[0m"

/-- A character in a terminal colour. -/
def coloured (colour : String) (ch : Char) : Text :=
  ("\x1b[" ++ colour ++ "m" ++ String.singleton ch ++ "\x1b[0m").toList

theorem paint_singleton (colour : String) (ch : Char) :
    (paint colour (String.singleton ch)).toList = coloured colour ch := rfl

theorem paint_stage (stage : Stage) : paint stage.colour stage.title = stage.heading := by
  cases stage with
  | lexical => decide +kernel
  | grammar => decide +kernel
  | runtime => decide +kernel

namespace Diagnostic

/-- The first line of a report: the stage, the number of the line, if it has one, and
the message. -/
def announcement (d : Diagnostic) : String :=
  let place := match d.lineNumber with
    | none => ""
    | some number => " on line " ++ toString number
  "\x1b[31mError:\x1b[0m " ++ d.error.cause.stage.heading ++ place ++ ": "
    ++ d.error.cause.message ++ "\n"

/-- A character of the source on show, in the colour of the stage if the span touches
it. Of white space nothing is left but its width. -/
def shownChar (d : Diagnostic) (place : Nat) (ch : Char) : List Text :=
  let (start, stop) := d.error.span.highlight d.source
  if isWhite ch then []
  else [coloured (if start ≤ place ∧ place < stop then d.error.cause.stage.colour
    else sourceColour) ch]

/-- What a report tells below its announcement: the place, the characters of the line on
show, the message and the help. -/
def told (d : Diagnostic) (filename : Text) (line : SourceLine) : List Text :=
  let column := (d.error.span.highlight d.source).1 - line.offset + 1
  [filename ++ (":" ++ toString (line.index + 1) ++ ":" ++ toString column).toList] ++
    ((dropEndWhile isWhite line.text).zipIdx.flatMap
      fun (ch, k) => d.shownChar (line.offset + k) ch) ++
    [d.error.cause.message.toList] ++ d.error.help.toList.map String.toList

/-- The text is a report of the diagnostic. It opens with the announcement, whose message
no other cause has. If there is a line to show, it goes on with one in which the span
starts, and what there is to tell of it. -/
structure Reported (d : Diagnostic) (filename : Text) (report : String) : Prop where
  opens : ∃ below, report = d.announcement ++ below ∧
    (d.source ≠ [] → ∃ line : SourceLine,
      line.HoldsStart d.source (d.error.span.highlight d.source).1 ∧
        Mentions below.toList (d.told filename line))
  cause : ∀ cause : Cause, cause.message = d.error.cause.message → cause = d.error.cause

theorem alert_eq : paint alertColour "Error:" ++ " " = "\x1b[31mError:\x1b[0m " := by decide +kernel

theorem headline_eq (d : Diagnostic) : d.headline = d.announcement := by
  have opening (place : String) :
      paint alertColour "Error:" ++ " " ++
          paint d.error.cause.stage.colour d.error.cause.stage.title ++ place ++ ": "
          ++ d.error.cause.message ++ "\n" =
        "\x1b[31mError:\x1b[0m " ++ d.error.cause.stage.heading ++ place ++ ": "
          ++ d.error.cause.message ++ "\n" := by
    rw [alert_eq, paint_stage]
  unfold headline announcement
  cases d.lineNumber with
  | none => exact opening _
  | some number => exact opening _

theorem zipIdx_map_zipIdx {α β : Type} (f : α × Nat → β) (l : List α) (n : Nat) :
    ((l.zipIdx n).map f).zipIdx n = (l.zipIdx n).map fun entry => (f entry, entry.2) := by
  induction l generalizing n with
  | nil => rfl
  | cons a l ih => simp [ih]

theorem times_one (text : String) : times 1 text = text := by simp [times]

/-- A character that is not white space takes one cell and is shown in it. -/
theorem shown_cell {ch : Char} (visible : isWhite ch = false) (k : Nat) :
    (cell k ch).1 = ch ∧ ch ≠ ' ' := by
  have tab : ch ≠ '\t' := by
    rintro rfl
    revert visible
    decide +kernel
  have space : ch ≠ ' ' := by
    rintro rfl
    revert visible
    decide +kernel
  simp [cell, tab, space, visible]

theorem mentions_quotedLine (d : Diagnostic) {line : SourceLine} (text : Text)
    (reached : line.offset ≤ (d.error.span.highlight d.source).1) :
    Mentions (quotedLine d.error.cause.stage.colour
        ((d.error.span.highlight d.source).1 - line.offset)
        ((d.error.span.highlight d.source).2 - line.offset) text).toList
      (text.zipIdx.flatMap fun (ch, k) => d.shownChar (line.offset + k) ch) := by
  rw [quotedLine, cells, zipIdx_map_zipIdx, List.map_map, String.toList_join, List.flatMap_map]
  refine Mentions.flatMap ?_
  rintro ⟨ch, k⟩ _
  cases visible : isWhite ch with
  | true =>
    simp only [shownChar, visible]
    exact .none
  | false =>
    obtain ⟨shown, space⟩ := shown_cell visible k
    have marked : ((d.error.span.highlight d.source).1 - line.offset ≤ k ∧
        k < (d.error.span.highlight d.source).2 - line.offset) ↔
        (d.error.span.highlight d.source).1 ≤ line.offset + k ∧
          line.offset + k < (d.error.span.highlight d.source).2 := by omega
    simp only [shownChar, visible, shown, if_neg space, times_one, marked, Function.comp_apply,
      paint_singleton]
    exact Mentions.self _

theorem mentions_place (front : String) (filename : Text) (number column : String) :
    Mentions (front ++ String.ofList filename ++ ":" ++ number ++ ":" ++ column).toList
      [filename ++ (":" ++ number ++ ":" ++ column).toList] := by
  have whole : front ++ String.ofList filename ++ ":" ++ number ++ ":" ++ column =
      front ++ (String.ofList filename ++ (":" ++ number ++ ":" ++ column)) := by
    simp only [String.append_assoc]
  have place := Mentions.self (String.ofList filename ++ (":" ++ number ++ ":" ++ column))
  rw [String.toList_append, String.toList_ofList] at place
  rw [whole, String.toList_append, String.toList_append, String.toList_ofList]
  exact place.behind _

/-- The framed part of a report mentions what there is to tell. -/
theorem mentions_excerpt (d : Diagnostic) (filename : Text) {line : SourceLine}
    (reached : line.offset ≤ (d.error.span.highlight d.source).1) :
    Mentions (d.excerpt filename line).toList (d.told filename line) := by
  unfold excerpt told
  dsimp only
  -- from the last row up: the lower edge of the frame, and the help above it
  refine .before "\n" (.before _ (.join ?_ ?help))
  -- the arm with the message, and the underline
  refine .before "\n" (.join (.before " " (.before _ (.before _ ?_))) (.self _))
  refine .before "\n" (.before _ (.before _ ?_))
  -- the line
  refine .before "\n" (.join (.before " " (.before _ (.before " " ?_)))
    (mentions_quotedLine d (dropEndWhile isWhite line.text) reached))
  refine .before "\n" (.before _ (.before _ ?_))
  -- the upper edge with the place
  refine .before "\n" (.before _ ?_)
  · exact mentions_place _ filename _ _
  case help =>
    cases d.error.help with
    | none => exact .none
    | some advice =>
      refine .before "\n" ?_
      rw [String.toList_append]
      exact (Mentions.self advice).behind _

theorem reported_render (d : Diagnostic) (filename : Text) :
    d.Reported filename (d.render filename) := by
  refine ⟨?_, fun cause same => Cause.message_injective same⟩
  unfold render
  split
  · next nothing =>
    have empty := displayLines_flatten d.source
    rw [nothing] at empty
    exact ⟨"", by rw [headline_eq, String.append_empty], fun some => absurd empty.symm some⟩
  · next first later lines =>
    have holds := @SourceLine.holdsStart_locate d.source (d.error.span.highlight d.source).1
      later ⟨0, 0, first⟩ [] lines rfl rfl (Nat.zero_le _)
    rw [headline_eq]
    exact ⟨_, rfl, fun _ => ⟨_, holds, mentions_excerpt d filename holds.reached⟩⟩

end Diagnostic

end LineBasic
