import LineBasic.Proofs.LineReading

/-!
# Places on a line

A cursor stands **on a line** (`OnLine`) when the text before it and the text
it has left make up the line, and its offset counts the bytes of the former.
Every match starts behind a gap, takes a text and leaves the rest (`Consumes`),
so it leads from one place on the line to a later one (`OnLine.consumes`,
`Consumes.le`). The span of a token runs from where the match started to where
it ended.
-/

namespace LineBasic

namespace Cursor

/-! ## What a match takes -/

/-- Behind the gap at `c` stands `text`, and `next` is the place behind it. -/
structure Consumes (c : Cursor) (text : Text) (next : Cursor) : Prop where
  rest : c.skipGap.rest = text ++ next.rest
  offset : next.offset = c.nextPlace + byteSize text

theorem Consumes.le {c next : Cursor} {text : Text} (consumes : c.Consumes text next) :
    c.nextPlace ≤ next.offset := by
  have := consumes.offset
  omega

theorem Consumes.le_nextPlace {c next : Cursor} {text : Text} (consumes : c.Consumes text next) :
    c.nextPlace ≤ next.nextPlace :=
  Nat.le_trans consumes.le next.offset_le_nextPlace

variable {c next : Cursor} {token : Token}

theorem consumes_of_scanWord {kind : TokenKind} {first more : Char → Bool}
    (found : scanWord kind first more c = some (token, next)) :
    c.Consumes token.lexeme next ∧ token = ⟨kind, token.lexeme, ⟨c.nextPlace, next.offset⟩⟩ ∧
      next.trace = .matched token :: c.trace := by
  obtain ⟨word, rest, _, _, front, taken⟩ := scanWord_eq_some_iff.1 found
  obtain ⟨rfl, rfl⟩ := Prod.mk.inj taken
  exact ⟨⟨front, rfl⟩, rfl, rfl⟩

theorem consumes_of_scanLiteral {text : Text} (found : scanLiteral text c = some (token, next)) :
    c.Consumes text next ∧ token = ⟨.literal, text, ⟨c.nextPlace, next.offset⟩⟩ := by
  obtain ⟨rest, front, taken⟩ := scanLiteral_eq_some_iff.1 found
  obtain ⟨rfl, rfl⟩ := Prod.mk.inj taken
  exact ⟨⟨front, rfl⟩, rfl⟩

theorem consumes_of_scanTier {tier : Tier} (found : tier.scan c = some (token, next)) :
    c.Consumes token.lexeme next := by
  obtain ⟨operator, _, rest, front, taken⟩ := Tier.scan_eq_some_iff.1 found
  obtain ⟨rfl, rfl⟩ := Prod.mk.inj taken
  exact ⟨front, rfl⟩

theorem consumes_of_scanString (found : c.scanString = .ok (some (token, next))) :
    c.Consumes ('"' :: (token.lexeme ++ ['"'])) next := by
  obtain ⟨content, rest, _, front, taken⟩ := scanString_eq_string_iff.1 found
  obtain ⟨rfl, rfl⟩ := Prod.mk.inj taken
  refine ⟨?_, ?_⟩
  · rw [front]
    simp
  · -- either quote is one byte
    have quote : ('"' : Char).utf8Size = 1 := rfl
    simp only [byteSize, byteSize_append, quote]
    omega

end Cursor

/-! ## The invariant -/

/-- The cursor stands on the line, behind as many bytes as it counts. -/
def OnLine (line : Text) (c : Cursor) : Prop :=
  ∃ before, line = before ++ c.rest ∧ c.offset = byteSize before

namespace OnLine

variable {line : Text} {c next : Cursor}

theorem start (line : Text) : OnLine line (.start line) := ⟨[], rfl, rfl⟩

theorem observe (on : OnLine line c) (event : Event) : OnLine line (c.observe event) := on

theorem skipGap (on : OnLine line c) : OnLine line c.skipGap := by
  obtain ⟨before, whole, offset⟩ := on
  obtain ⟨gap, _, rest, place⟩ := c.rest_eq_gap_append
  refine ⟨before ++ gap, ?_, ?_⟩
  · rw [whole, rest, List.append_assoc]
  · rw [Cursor.skipGap_offset, place, offset, byteSize_append]

theorem consumes (on : OnLine line c) {text : Text} (consumes : c.Consumes text next) :
    OnLine line next := by
  obtain ⟨before, whole, offset⟩ := on.skipGap
  refine ⟨before ++ text, ?_, ?_⟩
  · rw [whole, consumes.rest, List.append_assoc]
  · rw [consumes.offset, byteSize_append, ← offset, Cursor.skipGap_offset]

end OnLine

end LineBasic
