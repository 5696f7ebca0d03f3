import LineBasic.Cursor.Matcher
import LineBasic.Proofs.Tokens

/-!
# Attempts in any order

Matchers may be called on a line in any order and any number, with any literal.

* **step** — a call that finds something takes a token (`Matcher.takes_of_look`),
  and a word it takes is as long as it can be (`Matcher.stops_of_look`); hence
  every call leads from one place on the line to a later one (`OnLine.call`);
* **run** — so does every call of every sequence (**`every_call_on_line`**);
* **failures** — every matcher is steady, so a call that finds nothing leaves the
  scanner as it was (`Matcher.run_of_failed`), and striking out failed calls changes
  no other call (**`failed_calls_leave_no_trace`**).
-/

namespace LineBasic

/-! ## What one call comes to -/

/-- The characters that prolong a token of this kind: only words grow. -/
def TokenKind.prolongs : TokenKind → Char → Bool
  | .keyword => isLetter
  | .variable => isNameChar
  | .number => isDigit
  | .string | .literal | .operator | .endOfLine => fun _ => false

theorem TokenKind.plain_of_prolongs {kind : TokenKind} {ch : Char}
    (longer : kind.prolongs ch = true) : kind ≠ .string := by
  rintro rfl
  cases longer

/-- A token found from `c` on stands on the line where the next token had to
begin, behind a quote if it is a string, and the scanner goes on behind it. No
word could be longer. -/
structure Token.Found (line : Text) (c : Cursor) (token : Token) (next : Cursor) : Prop where
  start : token.span.start = c.nextPlace + token.margin
  lexeme : token.span.Holds line token.lexeme
  stop : next.offset = token.span.stop + token.margin
  maximal : ∀ before ch after, line = before ++ ch :: after →
    byteSize before = token.span.stop → token.kind.prolongs ch = false

/-- What a call at `c` comes to on a line: the scanner stands on the line, no
further left than before, with nothing but white space up to the next token. A
token is found where it stands, and an open string is the rest of the line. -/
structure Call (line : Text) (c : Cursor) (attempt : Attempt) (next : Cursor) : Prop where
  onLine : OnLine line next
  inside : next.offset ≤ byteSize line
  forward : c.offset ≤ next.offset
  ahead : next.offset ≤ next.nextPlace
  gap : ∃ gap, (∀ ch ∈ gap, isGap ch = true) ∧
    Span.Holds ⟨next.offset, next.nextPlace⟩ line gap
  found : ∀ token, attempt = .ok (some token) → token.Found line c next
  unclosed : ∀ error, attempt = .error error → next = c ∧
    error.span = ⟨c.nextPlace, byteSize line⟩ ∧ ∃ tail, error.span.Holds line ('"' :: tail)

/-! ## Places on the line -/

namespace OnLine

variable {line : Text} {c next : Cursor}

/-- What is left of the line begins where the cursor stands. -/
theorem holds_rest (on : OnLine line c) : Span.Holds ⟨c.offset, byteSize line⟩ line c.rest := by
  obtain ⟨before, whole, offset⟩ := on
  refine ⟨before, [], ?_, offset, ?_⟩
  · rw [whole, List.append_nil]
  · rw [whole, byteSize_append]

theorem offset_le (on : OnLine line c) : c.offset ≤ byteSize line := by
  obtain ⟨before, rfl, offset⟩ := on
  rw [byteSize_append]
  omega

theorem lineEnd_eq (on : OnLine line c) : c.lineEnd = byteSize line := by
  obtain ⟨before, rfl, offset⟩ := on
  rw [Cursor.lineEnd, byteSize_append, offset]

theorem holds_gap (on : OnLine line c) :
    ∃ gap, (∀ ch ∈ gap, isGap ch = true) ∧ Span.Holds ⟨c.offset, c.nextPlace⟩ line gap := by
  obtain ⟨before, whole, offset⟩ := on
  obtain ⟨gap, all, rest, place⟩ := c.rest_eq_gap_append
  refine ⟨gap, all, before, c.skipGap.rest, ?_, offset, ?_⟩
  · rw [whole, rest]
  · rw [place, offset]

/-- The character at the place of a cursor is the first one that it has left. -/
theorem head?_rest (on : OnLine line c) {before after : Text} {ch : Char}
    (whole : line = before ++ ch :: after) (place : byteSize before = c.offset) :
    c.rest.head? = some ch := by
  obtain ⟨front, split, offset⟩ := on
  have same : front ++ c.rest = before ++ ch :: after := by rw [← split, whole]
  rw [(append_inj_of_byteSize_eq same (by omega)).2]
  rfl

end OnLine

/-! ## One call -/

namespace Cursor

variable {c next : Cursor} {token : Token}

theorem stops_of_scanWord {kind : TokenKind} {first more : Char → Bool}
    (found : scanWord kind first more c = some (token, next)) :
    token.kind = kind ∧ Stops more next.rest := by
  obtain ⟨word, rest, _, stops, _, taken⟩ := scanWord_eq_some_iff.1 found
  obtain ⟨rfl, rfl⟩ := Prod.mk.inj taken
  exact ⟨rfl, stops⟩

end Cursor

namespace Matcher

variable {matcher : Matcher} {c next : Cursor} {token : Token}

/-- What a matcher finds is taken from the line. -/
theorem takes_of_look (found : matcher.look c = .ok (some (token, next))) :
    c.Takes token next := by
  cases matcher with
  | keyword | «variable» | number =>
    exact Cursor.takes_of_scanWord (by simp) (Except.ok.inj found)
  | string => exact Cursor.takes_of_scanString found
  | addOrSub | mulOrDiv => exact Cursor.takes_of_scanOperator (Except.ok.inj found)
  | endOfLine => exact Cursor.takes_of_scanEndOfLine (Except.ok.inj found)
  | literal text => exact Cursor.takes_of_scanLiteral (Except.ok.inj found)

/-- What is left behind a token does not prolong it. -/
theorem stops_of_look (found : matcher.look c = .ok (some (token, next))) :
    Stops token.kind.prolongs next.rest := by
  cases matcher with
  | keyword | «variable» | number =>
    obtain ⟨kind, stops⟩ := Cursor.stops_of_scanWord (Except.ok.inj found)
    rw [kind]
    exact stops
  | string =>
    obtain ⟨_, _, _, _, taken⟩ := Cursor.scanString_eq_string_iff.1 found
    rw [(Prod.mk.inj taken).1]
    exact fun _ _ => rfl
  | addOrSub | mulOrDiv =>
    obtain ⟨_, _, _, kind⟩ := Cursor.literal_of_scanOperator (Except.ok.inj found)
    rw [kind]
    exact fun _ _ => rfl
  | endOfLine =>
    obtain ⟨_, taken⟩ := Cursor.scanEndOfLine_eq_some_iff.1 (Except.ok.inj found)
    rw [(Prod.mk.inj taken).1]
    exact fun _ _ => rfl
  | literal text =>
    obtain ⟨_, form⟩ := Cursor.consumes_of_scanLiteral (Except.ok.inj found)
    rw [form]
    exact fun _ _ => rfl

/-- Only a search for a string can end in an error. -/
theorem scanString_of_look {error : LineError} (failed : matcher.look c = .error error) :
    c.scanString = .error error := by
  cases matcher with
  | string => exact failed
  | _ => cases failed

/-- The three ways a call can come out. -/
theorem run_cases (matcher : Matcher) (c : Cursor) :
    (∃ token next, matcher.look c = .ok (some (token, next)) ∧
      matcher.run c = (.ok (some token), next)) ∨
    (matcher.look c = .ok none ∧ matcher.run c = (.ok none, c)) ∨
    ∃ error, matcher.look c = .error error ∧ matcher.run c = (.error error, c) := by
  rw [run_eq]
  cases seen : matcher.look c with
  | error error => exact .inr (.inr ⟨error, rfl, rfl⟩)
  | ok answer =>
    cases answer with
    | none => exact .inr (.inl ⟨rfl, rfl⟩)
    | some pair => exact .inl ⟨pair.1, pair.2, rfl, rfl⟩

end Matcher

namespace OnLine

variable {line : Text} {c next : Cursor}

/-- A call that leaves the scanner where it was. -/
theorem stays (on : OnLine line c) {attempt : Attempt}
    (found : ∀ token, attempt = .ok (some token) → token.Found line c c)
    (unclosed : ∀ error, attempt = .error error → error.span = ⟨c.nextPlace, byteSize line⟩ ∧
      ∃ tail, error.span.Holds line ('"' :: tail)) : Call line c attempt c where
  onLine := on
  inside := on.offset_le
  forward := Nat.le_refl _
  ahead := c.offset_le_nextPlace
  gap := on.holds_gap
  found := found
  unclosed error same := ⟨rfl, unclosed error same⟩

/-- A call that takes a token which is as long as it can be. -/
theorem moves (on : OnLine line c) {token : Token} (takes : c.Takes token next)
    (stops : Stops token.kind.prolongs next.rest) : Call line c (.ok (some token)) next where
  onLine := on.consumes takes.consumes
  inside := (on.consumes takes.consumes).offset_le
  forward := Nat.le_trans c.offset_le_nextPlace takes.consumes.le
  ahead := next.offset_le_nextPlace
  gap := (on.consumes takes.consumes).holds_gap
  found := by
    rintro _ ⟨⟩
    refine ⟨takes.start, takes.holds on, takes.stop, ?_⟩
    intro before ch after whole place
    cases longer : token.kind.prolongs ch with
    | false => rfl
    | true =>
      -- a word has no quotes, so the character behind it is the first one left
      have stop := takes.stop
      rw [Token.margin_of_plain (TokenKind.plain_of_prolongs longer)] at stop
      have front := (on.consumes takes.consumes).head?_rest whole (by omega)
      rw [stops ch front] at longer
      cases longer
  unclosed := by
    rintro _ ⟨⟩

end OnLine

/-- **Step.** Every call on a line leads to a place on the line. -/
theorem OnLine.call {line : Text} {c : Cursor} (on : OnLine line c) (matcher : Matcher) :
    Call line c (matcher.run c).1 (matcher.run c).2 := by
  rcases matcher.run_cases c with ⟨token, next, found, run⟩ | ⟨_, run⟩ | ⟨error, failed, run⟩
  · rw [run]
    exact on.moves (Matcher.takes_of_look found) (Matcher.stops_of_look found)
  · rw [run]
    refine on.stays ?_ ?_
    · rintro _ ⟨⟩
    · rintro _ ⟨⟩
  · rw [run]
    refine on.stays ?_ ?_
    · rintro _ ⟨⟩
    · rintro _ ⟨⟩
      -- the open string is the rest of the line behind the gap
      obtain ⟨tail, _, front, rfl⟩ :=
        Cursor.scanString_eq_error_iff.1 (Matcher.scanString_of_look failed)
      have holds := on.skipGap.holds_rest
      rw [front] at holds
      show Span.mk c.nextPlace c.skipGap.lineEnd = _ ∧ ∃ tail, Span.Holds _ line ('"' :: tail)
      rw [on.skipGap.lineEnd_eq]
      exact ⟨rfl, tail, holds⟩

/-! ## Sequences of calls -/

/-- Each call of a run is as `P` says, from the cursor held before it to the
cursor after it. -/
inductive EveryCall (P : Cursor → Attempt → Cursor → Prop) :
    Cursor → List (Attempt × Cursor) → Prop
  | none {c} : EveryCall P c []
  | call {c attempt next later} :
      P c attempt next → EveryCall P next later → EveryCall P c ((attempt, next) :: later)

theorem OnLine.everyCall {line : Text} (matchers : List Matcher) :
    ∀ {c : Cursor}, OnLine line c → EveryCall (Call line) c (Matcher.runAll matchers c) := by
  induction matchers with
  | nil =>
    intro c _
    exact .none
  | cons matcher later ih =>
    intro c on
    have call := on.call matcher
    exact .call call (ih call.onLine)

/-- **Every call of every sequence keeps to the line.** However matchers are
called one after another on one line, each call leaves the scanner between two
characters of the line, no further left than before, with nothing but white
space up to the next token. What it finds stands at its span, begins where the
next token had to and is as long as it can be. -/
theorem every_call_on_line (line : Text) (matchers : List Matcher) :
    EveryCall (Call line) (.start line) (Matcher.runAll matchers (.start line)) :=
  (OnLine.start line).everyCall matchers

/-! ## Failed calls -/

/-- Whether an attempt has found nothing, with an error or without. -/
def Attempt.failed : Attempt → Bool
  | .ok (some _) => false
  | .ok none => true
  | .error _ => true

/-- The calls of a run, each with what it came to and the cursor after it. -/
abbrev Transcript := List (Matcher × Attempt × Cursor)

/-- The transcript of matchers called one after another. -/
def Matcher.transcript (matchers : List Matcher) (c : Cursor) : Transcript :=
  matchers.zip (runAll matchers c)

/-- `kept` is what is left of a transcript if some failed calls are struck
out. -/
inductive StruckOut : (all kept : Transcript) → Prop
  | none : StruckOut [] []
  | keep {call all kept} : StruckOut all kept → StruckOut (call :: all) (call :: kept)
  | strike {call all kept} :
      Attempt.failed call.2.1 = true → StruckOut all kept → StruckOut (call :: all) kept

/-- All failed calls may be struck out at once. -/
theorem struckOut_filter (all : Transcript) :
    StruckOut all (all.filter fun call => !Attempt.failed call.2.1) := by
  induction all with
  | nil => exact .none
  | cons call all ih =>
    cases failed : Attempt.failed call.2.1 with
    | true =>
      rw [List.filter_cons_of_neg (by simp [failed])]
      exact .strike failed ih
    | false =>
      rw [List.filter_cons_of_pos (by simp [failed])]
      exact .keep ih

namespace Matcher

theorem transcript_cons (matcher : Matcher) (later : List Matcher) (c : Cursor) :
    transcript (matcher :: later) c =
      (matcher, matcher.run c) :: transcript later (matcher.run c).2 := rfl

/-- A failed call leaves the scanner as it was. -/
theorem run_of_failed {matcher : Matcher} {c : Cursor}
    (failed : Attempt.failed (matcher.run c).1 = true) : (matcher.run c).2 = c := by
  rcases matcher.run_cases c with ⟨token, next, _, run⟩ | ⟨_, run⟩ | ⟨error, _, run⟩
  · rw [run] at failed
    cases failed
  · rw [run]
  · rw [run]

theorem transcript_of_struckOut (matchers : List Matcher) :
    ∀ {c : Cursor} {kept : Transcript}, StruckOut (transcript matchers c) kept →
      transcript (kept.map Prod.fst) c = kept := by
  induction matchers with
  | nil =>
    intro c kept struck
    cases struck
    rfl
  | cons matcher later ih =>
    intro c kept struck
    rw [transcript_cons] at struck
    cases struck with
    | keep rest =>
      rw [List.map_cons, transcript_cons, ih rest]
    | strike failed rest =>
      rw [run_of_failed failed] at rest
      exact ih rest

end Matcher

/-- **Failed calls leave no trace.** If some failed calls are struck out of the
transcript of any calls on a line, then what is left is the transcript of the
calls that are left: each comes to the same token, span or error, with the
scanner at the same place before the same text. -/
theorem failed_calls_leave_no_trace {line : Text} {matchers : List Matcher} {kept : Transcript}
    (struck : StruckOut (Matcher.transcript matchers (.start line)) kept) :
    Matcher.transcript (kept.map Prod.fst) (.start line) = kept :=
  Matcher.transcript_of_struckOut matchers struck

/-- Of eight calls on one line, the five that find nothing may be left out, an
open string among them. -/
theorem failed_calls_around_assignment :
    StruckOut
      (Matcher.transcript [.number, .keyword, .string, .literal ['x', 'y'], .variable, .mulOrDiv,
        .literal ['='], .string] (.start ['L', 'E', 'T', ' ', 'x', '=', ' ', '"', 'a']))
      (Matcher.transcript [.keyword, .variable, .literal ['=']]
        (.start ['L', 'E', 'T', ' ', 'x', '=', ' ', '"', 'a'])) ∧
    Matcher.transcript [.keyword, .variable, .literal ['=']]
        (.start ['L', 'E', 'T', ' ', 'x', '=', ' ', '"', 'a']) =
      (Matcher.transcript [.number, .keyword, .string, .literal ['x', 'y'], .variable, .mulOrDiv,
        .literal ['='], .string] (.start ['L', 'E', 'T', ' ', 'x', '=', ' ', '"', 'a'])).filter
        fun call => !Attempt.failed call.2.1 := by
  have struck := struckOut_filter (Matcher.transcript [.number, .keyword, .string,
    .literal ['x', 'y'], .variable, .mulOrDiv, .literal ['='], .string]
    (.start ['L', 'E', 'T', ' ', 'x', '=', ' ', '"', 'a']))
  have same := failed_calls_leave_no_trace struck
  have left : ((Matcher.transcript [.number, .keyword, .string, .literal ['x', 'y'], .variable,
      .mulOrDiv, .literal ['='], .string]
      (.start ['L', 'E', 'T', ' ', 'x', '=', ' ', '"', 'a'])).filter
        fun call => !Attempt.failed call.2.1).map Prod.fst =
      [.keyword, .variable, .literal ['=']] := by decide +kernel
  rw [left] at same
  exact ⟨same ▸ struck, same⟩

end LineBasic
