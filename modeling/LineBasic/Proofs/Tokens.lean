import LineBasic.Proofs.Places

/-!
# Tokens and the text they stand for

A token is spelled in its line by its lexeme, a string with a quote on either
side (`Token.spelling`). Whatever a matcher finds **takes** this spelling from
behind the gap (`Cursor.Takes`), and the span of the token is where its lexeme
stands (`Cursor.Takes.holds`). All but the end of the line is observed as it is
taken.
-/

namespace LineBasic

/-! ## Places of a text -/

/-- A shorter front of a text is the front of a longer one. -/
theorem exists_append_of_byteSize_le {s t x y : Text} (same : s ++ x = t ++ y)
    (shorter : byteSize s ≤ byteSize t) : ∃ u, t = s ++ u ∧ x = u ++ y := by
  rcases List.append_eq_append_iff.1 same with ⟨u, rfl, rfl⟩ | ⟨u, rfl, rfl⟩
  · exact ⟨u, rfl, rfl⟩
  · rw [byteSize_append] at shorter
    obtain rfl := byteSize_eq_zero_iff.1 (show byteSize u = 0 by omega)
    exact ⟨[], by simp, by simp⟩

theorem append_inj_of_byteSize_eq {s t x y : Text} (same : s ++ x = t ++ y)
    (size : byteSize s = byteSize t) : s = t ∧ x = y := by
  obtain ⟨u, rfl, rfl⟩ := exists_append_of_byteSize_le same (Nat.le_of_eq size)
  rw [byteSize_append] at size
  obtain rfl := byteSize_eq_zero_iff.1 (show byteSize u = 0 by omega)
  simp

/-- The character at a place within a piece of a text belongs to the piece. -/
theorem mem_of_byteSize_lt {front piece rest before after : Text} {ch : Char}
    (same : front ++ (piece ++ rest) = before ++ ch :: after)
    (behind : byteSize front ≤ byteSize before)
    (inside : byteSize before < byteSize front + byteSize piece) : ch ∈ piece := by
  obtain ⟨s, rfl, same'⟩ := exists_append_of_byteSize_le same behind
  rw [byteSize_append] at inside
  obtain ⟨u, rfl, split⟩ := exists_append_of_byteSize_le same'.symm (by omega)
  cases u with
  | nil =>
    rw [List.append_nil] at inside
    omega
  | cons c u =>
    rw [(List.cons.inj split).1]
    simp

/-! ## Spans of a line -/

/-- The span covers exactly this text of the line, so it begins and ends
between characters. -/
def Span.Holds (span : Span) (line text : Text) : Prop :=
  ∃ before after, line = before ++ (text ++ after) ∧ span.start = byteSize before ∧
    span.stop = byteSize before + byteSize text

/-! ## Spelling -/

namespace Token

/-- What stands on either side of a lexeme and belongs to the token: the quotes
of a string. -/
def quote (token : Token) : Text :=
  match token.kind with
  | .string => ['"']
  | _ => []

/-- How many bytes a quote takes, if there is one. -/
def margin (token : Token) : Nat :=
  match token.kind with
  | .string => 1
  | _ => 0

/-- A token as it is spelled in its line. -/
def spelling (token : Token) : Text := token.quote ++ (token.lexeme ++ token.quote)

@[simp] theorem byteSize_quote (token : Token) : byteSize token.quote = token.margin := by
  unfold quote margin
  cases token.kind <;> rfl

theorem quote_of_plain {token : Token} (plain : token.kind ≠ .string) : token.quote = [] := by
  unfold quote
  split
  · next quoted => exact absurd quoted plain
  · rfl

theorem margin_of_plain {token : Token} (plain : token.kind ≠ .string) : token.margin = 0 := by
  rw [← byteSize_quote, quote_of_plain plain]
  rfl

theorem spelling_of_plain {token : Token} (plain : token.kind ≠ .string) :
    token.spelling = token.lexeme := by
  rw [spelling, quote_of_plain plain, List.nil_append, List.append_nil]

theorem spelling_of_string {token : Token} (quoted : token.kind = .string) :
    token.spelling = '"' :: (token.lexeme ++ ['"']) := by
  unfold spelling quote
  rw [quoted]
  rfl

end Token

/-! ## Taking a token -/

namespace Cursor

/-- The token stands behind the gap at `c`, and `next` is the place behind it.
The quotes of a string are left out of its span. -/
structure Takes (c : Cursor) (token : Token) (next : Cursor) : Prop where
  consumes : c.Consumes token.spelling next
  start : token.span.start = c.nextPlace + token.margin
  stop : next.offset = token.span.stop + token.margin

variable {c next : Cursor} {token : Token}

/-- A span is as long as the lexeme in it. -/
theorem Takes.size (takes : c.Takes token next) :
    token.span.stop = token.span.start + byteSize token.lexeme := by
  have whole := takes.consumes.offset
  have stop := takes.stop
  have start := takes.start
  rw [Token.spelling, byteSize_append, byteSize_append, Token.byteSize_quote] at whole
  omega

/-- The lexeme stands on the line where the span says. -/
theorem Takes.holds (takes : c.Takes token next) {line : Text} (on : OnLine line c) :
    token.span.Holds line token.lexeme := by
  obtain ⟨before, whole, offset⟩ := on.skipGap
  have start := takes.start
  rw [skipGap_offset] at offset
  rw [takes.consumes.rest, Token.spelling] at whole
  refine ⟨before ++ token.quote, token.quote ++ next.rest, ?_, ?_, ?_⟩
  · rw [whole]
    simp only [List.append_assoc]
  · rw [start, offset, byteSize_append, Token.byteSize_quote]
  · rw [takes.size, start, offset, byteSize_append, Token.byteSize_quote]

theorem takes_of_plain (plain : token.kind ≠ .string) (consumes : c.Consumes token.lexeme next)
    (span : token.span = ⟨c.nextPlace, next.offset⟩) : c.Takes token next := by
  refine ⟨?_, ?_, ?_⟩
  · rw [Token.spelling_of_plain plain]
    exact consumes
  · rw [Token.margin_of_plain plain, span]
    rfl
  · rw [Token.margin_of_plain plain, span]
    rfl

/-! ## What the matchers take -/

theorem takes_of_scanWord {kind : TokenKind} {first more : Char → Bool} (plain : kind ≠ .string)
    (found : scanWord kind first more c = some (token, next)) : c.Takes token next := by
  obtain ⟨consumes, form, _⟩ := consumes_of_scanWord found
  refine takes_of_plain ?_ consumes (by rw [form])
  rw [form]
  exact plain

theorem takes_of_scanLiteral {text : Text} (found : scanLiteral text c = some (token, next)) :
    c.Takes token next := by
  obtain ⟨consumes, rfl⟩ := consumes_of_scanLiteral found
  exact takes_of_plain (by simp) consumes rfl

theorem trace_of_scanLiteral {text : Text} (found : scanLiteral text c = some (token, next)) :
    next.trace = .matched token :: c.trace := by
  obtain ⟨rest, _, taken⟩ := scanLiteral_eq_some_iff.1 found
  obtain ⟨rfl, rfl⟩ := Prod.mk.inj taken
  rfl

/-- An operator is observed as the literal it is. -/
theorem literal_of_scanOperator {symbols : List Text}
    (found : scanOperator symbols c = some (token, next)) :
    ∃ symbol ∈ symbols, scanLiteral symbol c = some ({ token with kind := .literal }, next) ∧
      token.kind = .operator := by
  rw [scanOperator_eq] at found
  split at found
  · cases found
  · next literal _ first =>
    obtain ⟨rfl, rfl⟩ := Prod.mk.inj (Option.some.inj found)
    obtain ⟨symbol, member, matched⟩ := List.exists_of_findSome?_eq_some first
    obtain ⟨_, form⟩ := consumes_of_scanLiteral matched
    refine ⟨symbol, member, ?_, rfl⟩
    rw [matched, form]

/-- It does not matter to a token that is no string what it is called. -/
theorem Takes.retag {kind : TokenKind} (takes : c.Takes { token with kind := kind } next)
    (before : kind ≠ .string) (after : token.kind ≠ .string) : c.Takes token next := by
  have start := takes.start
  have stop := takes.stop
  have consumes := takes.consumes
  rw [Token.margin_of_plain before] at start stop
  rw [Token.spelling_of_plain before] at consumes
  refine takes_of_plain after consumes ?_
  rw [← Nat.add_zero c.nextPlace, ← start, stop]
  rfl

theorem takes_of_scanOperator {symbols : List Text}
    (found : scanOperator symbols c = some (token, next)) : c.Takes token next := by
  obtain ⟨_, _, matched, operator⟩ := literal_of_scanOperator found
  exact (takes_of_scanLiteral matched).retag (by simp) (by simp [operator])

theorem takes_of_scanEndOfLine (found : c.scanEndOfLine = some (token, next)) :
    c.Takes token next := by
  obtain ⟨none_left, taken⟩ := scanEndOfLine_eq_some_iff.1 found
  obtain ⟨rfl, rfl⟩ := Prod.mk.inj taken
  exact takes_of_plain (by simp) ⟨rfl, rfl⟩ rfl

theorem takes_of_scanString (found : c.scanString = .ok (some (token, next))) :
    c.Takes token next := by
  have consumes := consumes_of_scanString found
  obtain ⟨content, rest, _, _, taken⟩ := scanString_eq_string_iff.1 found
  obtain ⟨rfl, rfl⟩ := Prod.mk.inj taken
  refine ⟨?_, rfl, rfl⟩
  rw [Token.spelling_of_string rfl]
  exact consumes

theorem trace_of_scanString (found : c.scanString = .ok (some (token, next))) :
    next.trace = .matched token :: c.trace := by
  obtain ⟨content, rest, _, _, taken⟩ := scanString_eq_string_iff.1 found
  obtain ⟨rfl, rfl⟩ := Prod.mk.inj taken
  rfl

end Cursor

end LineBasic
