import LineBasic.Cursor
import LineBasic.Proofs.Characters

/-!
# What the matchers find

One characterisation of each matcher, in terms of the text behind the gap:

* **gap** — `skipGap` ends at the one place where a gap is over
  (`rest_eq_gap_append`, `skipGap_eq`);
* **words** — a word is found exactly where a word that cannot be longer stands
  (`scanWord_eq_some_iff`), and not found exactly where none can begin;
* **literals and operators** — found exactly where they stand;
* **strings** — closed, absent or open (`scanString_eq_string_iff`,
  `scanString_eq_none_iff`, `scanString_eq_error_iff`).

All later facts about reading use these and never open a matcher.
-/

namespace LineBasic

namespace Cursor

/-! ## Gaps -/

theorem offset_le_nextPlace (c : Cursor) : c.offset ≤ c.nextPlace := Nat.le_add_right _ _

@[simp] theorem skipGap_offset (c : Cursor) : c.skipGap.offset = c.nextPlace := rfl

theorem rest_eq_gap_append (c : Cursor) :
    ∃ gap, (∀ ch ∈ gap, isGap ch = true) ∧ c.rest = gap ++ c.skipGap.rest ∧
      c.nextPlace = c.offset + byteSize gap := by
  refine ⟨c.rest.takeWhile isGap, ?_, ?_, rfl⟩
  · intro ch member
    exact List.mem_takeWhile_imp member
  · exact List.takeWhile_append_dropWhile.symm

theorem stops_skipGap (c : Cursor) : Stops isGap c.skipGap.rest := stops_dropWhile isGap c.rest

theorem skipGap_eq {c : Cursor} {gap rest : Text} (all : ∀ ch ∈ gap, isGap ch = true)
    (stops : Stops isGap rest) (whole : c.rest = gap ++ rest) :
    c.skipGap = ⟨c.offset + byteSize gap, rest, c.trace⟩ := by
  unfold skipGap
  rw [whole, takeWhile_of_stops all stops, dropWhile_of_stops all stops]

/-! ## Words -/

theorem scanWord_eq_some_iff {kind : TokenKind} {first more : Char → Bool} {c : Cursor}
    {found : Token × Cursor} :
    scanWord kind first more c = some found ↔
      ∃ word rest, IsWord first more word ∧ Stops more rest ∧ c.skipGap.rest = word ++ rest ∧
        c.skipGap.take kind word rest = found := by
  refine ⟨?_, ?_⟩
  · intro scanned
    rw [scanWord_eq] at scanned
    split at scanned
    · cases scanned
    · next initial tail front =>
      split at scanned
      · next begins =>
        refine ⟨initial :: tail.takeWhile more, tail.dropWhile more, ?_, stops_dropWhile _ _, ?_,
          Option.some.inj scanned⟩
        · exact ⟨initial, _, rfl, begins, fun ch member => List.mem_takeWhile_imp member⟩
        · rw [front, List.cons_append, List.takeWhile_append_dropWhile]
      · cases scanned
  · rintro ⟨_, rest, ⟨initial, tail, rfl, begins, all⟩, stops, front, rfl⟩
    simp only [scanWord_eq, front, List.cons_append, begins, if_true]
    rw [takeWhile_of_stops all stops, dropWhile_of_stops all stops]

theorem scanWord_eq_none_iff {kind : TokenKind} {first more : Char → Bool} {c : Cursor} :
    scanWord kind first more c = none ↔ Stops first c.skipGap.rest := by
  rw [scanWord_eq]
  cases front : c.skipGap.rest with
  | nil => simp [stops_nil]
  | cons initial tail => simp [stops_cons]

/-! ## Literals and operators -/

theorem scanLiteral_eq_some_iff {text : Text} {c : Cursor} {found : Token × Cursor} :
    scanLiteral text c = some found ↔
      ∃ rest, c.skipGap.rest = text ++ rest ∧ c.skipGap.take .literal text rest = found := by
  refine ⟨?_, ?_⟩
  · intro scanned
    rw [scanLiteral_eq] at scanned
    split at scanned
    · cases scanned
    · next rest cut => exact ⟨rest, cutFront?_eq_some_iff.1 cut, Option.some.inj scanned⟩
  · rintro ⟨rest, front, rfl⟩
    simp only [scanLiteral_eq, cutFront?_eq_some_iff.2 front]

theorem scanLiteral_eq_none_iff {symbol : Char} {c : Cursor} :
    scanLiteral [symbol] c = none ↔ c.skipGap.rest.head? ≠ some symbol := by
  refine ⟨?_, ?_⟩
  · intro absent front
    obtain ⟨rest, whole⟩ := List.head?_eq_some_iff.1 front
    rw [scanLiteral_eq_some_iff.2 ⟨rest, whole, rfl⟩] at absent
    cases absent
  · intro absent
    cases scanned : scanLiteral [symbol] c with
    | none => rfl
    | some found =>
      obtain ⟨rest, whole, _⟩ := scanLiteral_eq_some_iff.1 scanned
      exact absurd (by rw [whole]; rfl) absent

/-- An operator is taken as the literal it is, and only then called one. -/
theorem scanOperator_eq_some_iff {a b : Char} {c : Cursor} {found : Token × Cursor} :
    scanOperator [[a], [b]] c = some found ↔
      ∃ symbol rest, (symbol = a ∨ symbol = b) ∧ c.skipGap.rest = symbol :: rest ∧
        found = ({ (c.skipGap.take .literal [symbol] rest).1 with kind := .operator },
          (c.skipGap.take .literal [symbol] rest).2) := by
  refine ⟨?_, ?_⟩
  · intro scanned
    rw [scanOperator_eq] at scanned
    split at scanned
    · cases scanned
    · next token next first =>
      obtain ⟨symbol, member, matched⟩ := List.exists_of_findSome?_eq_some first
      obtain ⟨rest, front, taken⟩ := scanLiteral_eq_some_iff.1 matched
      obtain ⟨one, rfl, either⟩ : ∃ one, symbol = [one] ∧ (one = a ∨ one = b) := by
        rcases List.mem_cons.1 member with rfl | later
        · exact ⟨a, rfl, .inl rfl⟩
        · exact ⟨b, List.mem_singleton.1 later, .inr rfl⟩
      refine ⟨one, rest, either, front, ?_⟩
      rw [taken]
      exact (Option.some.inj scanned).symm
  · rintro ⟨symbol, rest, either, front, rfl⟩
    have here : scanLiteral [symbol] c = some (c.skipGap.take .literal [symbol] rest) :=
      scanLiteral_eq_some_iff.2 ⟨rest, front, rfl⟩
    rcases either with rfl | rfl
    · simp [scanOperator_eq, here]
    · -- the second sign counts only where the first one is not found
      by_cases same : a = symbol
      · subst same
        simp [scanOperator_eq, here]
      · have absent : scanLiteral [a] c = none := by
          rw [scanLiteral_eq_none_iff, front]
          simpa using Ne.symm same
        simp [scanOperator_eq, here, absent]

/-! ## No two kinds of token at one place -/

theorem head?_of_scanWord {kind : TokenKind} {first more : Char → Bool} {c : Cursor}
    {found : Token × Cursor} (scanned : scanWord kind first more c = some found) :
    ∃ initial, c.skipGap.rest.head? = some initial ∧ first initial = true := by
  obtain ⟨_, rest, ⟨initial, tail, rfl, begins, _⟩, _, front, _⟩ := scanWord_eq_some_iff.1 scanned
  exact ⟨initial, by rw [front]; rfl, begins⟩

theorem scanWord_of_head? {kind : TokenKind} {first more : Char → Bool} {c : Cursor}
    {initial : Char} (front : c.skipGap.rest.head? = some initial)
    (other : first initial = false) : scanWord kind first more c = none := by
  rw [scanWord_eq_none_iff]
  intro ch member
  rw [Option.mem_def, front] at member
  cases member
  exact other

theorem scanNumber_of_scanVariable {c : Cursor} {found : Token × Cursor}
    (scanned : c.scanVariable = some found) : c.scanNumber = none := by
  obtain ⟨initial, front, letter⟩ := head?_of_scanWord scanned
  refine scanWord_of_head? front ?_
  cases digit : isDigit initial with
  | false => rfl
  | true =>
    rw [isLetter_of_isDigit digit] at letter
    cases letter

/-! ## The end of the line -/

theorem scanEndOfLine_eq_none_iff {c : Cursor} :
    c.scanEndOfLine = none ↔ c.skipGap.rest ≠ [] := by
  rw [scanEndOfLine_eq]
  cases c.skipGap.rest <;> simp

theorem scanEndOfLine_eq_some_iff {c : Cursor} {found : Token × Cursor} :
    c.scanEndOfLine = some found ↔ c.skipGap.rest = [] ∧
      found = (⟨.endOfLine, [], ⟨c.nextPlace, c.nextPlace⟩⟩, c.skipGap) := by
  rw [scanEndOfLine_eq]
  cases front : c.skipGap.rest with
  | nil => simp [eq_comm]
  | cons ch tail => simp

/-! ## Strings -/

theorem takeWhile_content {content rest : Text} (plain : '"' ∉ content) :
    (content ++ '"' :: rest).takeWhile (· != '"') = content ∧
      (content ++ '"' :: rest).dropWhile (· != '"') = '"' :: rest := by
  have all : ∀ ch ∈ content, (ch != '"') = true := by
    intro ch member
    rw [bne_iff_ne]
    rintro rfl
    exact plain member
  exact ⟨takeWhile_of_stops all (stops_cons.2 rfl), dropWhile_of_stops all (stops_cons.2 rfl)⟩

/-- A text is plain up to its first quote, and either ends there or goes on
with that quote. -/
theorem plain_or_quoted (t : Text) :
    ('"' ∉ t ∧ t.dropWhile (· != '"') = []) ∨
      ∃ content rest, '"' ∉ content ∧ t = content ++ '"' :: rest := by
  have whole : t = t.takeWhile (· != '"') ++ t.dropWhile (· != '"') :=
    List.takeWhile_append_dropWhile.symm
  have plain : '"' ∉ t.takeWhile (· != '"') := fun member => by
    simpa using List.mem_takeWhile_imp member
  cases after : t.dropWhile (· != '"') with
  | nil =>
    rw [after, List.append_nil] at whole
    exact .inl ⟨whole ▸ plain, rfl⟩
  | cons ch rest =>
    have stops := stops_dropWhile (· != '"') t
    rw [after, stops_cons] at stops
    have quote : ch = '"' := by simpa using stops
    rw [after, quote] at whole
    exact .inr ⟨_, rest, plain, whole⟩

theorem scanString_of_closed {c : Cursor} {content rest : Text} (plain : '"' ∉ content)
    (front : c.skipGap.rest = '"' :: (content ++ '"' :: rest)) :
    c.scanString = .ok (some
      (⟨.string, content, ⟨c.nextPlace + 1, c.nextPlace + 1 + byteSize content⟩⟩,
        ⟨c.nextPlace + 1 + byteSize content + 1, rest,
          .matched ⟨.string, content, ⟨c.nextPlace + 1, c.nextPlace + 1 + byteSize content⟩⟩
            :: c.trace⟩)) := by
  simp only [scanString_eq, front, (takeWhile_content plain).1, (takeWhile_content plain).2]
  rfl

theorem scanString_of_open {c : Cursor} {tail : Text} (plain : '"' ∉ tail)
    (front : c.skipGap.rest = '"' :: tail) :
    c.scanString = .error (.at .unterminatedString ⟨c.nextPlace, c.skipGap.lineEnd⟩) := by
  have none_left : tail.dropWhile (· != '"') = [] := by
    rcases plain_or_quoted tail with ⟨_, ends⟩ | ⟨content, rest, _, rfl⟩
    · exact ends
    · exact absurd (List.mem_append_right _ List.mem_cons_self) plain
  simp only [scanString_eq, front, none_left]

theorem scanString_of_absent {c : Cursor} (absent : c.skipGap.rest.head? ≠ some '"') :
    c.scanString = .ok none := by
  rw [scanString_eq]
  split
  · next tail front => exact absurd (by rw [front]; rfl) absent
  · rfl

/-- The three answers to the search for a string. -/
theorem scanString_cases (c : Cursor) :
    (∃ content rest, '"' ∉ content ∧ c.skipGap.rest = '"' :: (content ++ '"' :: rest)) ∨
      (∃ tail, '"' ∉ tail ∧ c.skipGap.rest = '"' :: tail) ∨
      c.skipGap.rest.head? ≠ some '"' := by
  by_cases quoted : c.skipGap.rest.head? = some '"'
  · obtain ⟨tail, front⟩ := List.head?_eq_some_iff.1 quoted
    rcases plain_or_quoted tail with ⟨plain, _⟩ | ⟨content, rest, plain, rfl⟩
    · exact .inr (.inl ⟨tail, plain, front⟩)
    · exact .inl ⟨content, rest, plain, front⟩
  · exact .inr (.inr quoted)

theorem scanString_eq_string_iff {c : Cursor} {found : Token × Cursor} :
    c.scanString = .ok (some found) ↔
      ∃ content rest, '"' ∉ content ∧ c.skipGap.rest = '"' :: (content ++ '"' :: rest) ∧
        found = (⟨.string, content, ⟨c.nextPlace + 1, c.nextPlace + 1 + byteSize content⟩⟩,
          ⟨c.nextPlace + 1 + byteSize content + 1, rest,
            .matched ⟨.string, content, ⟨c.nextPlace + 1, c.nextPlace + 1 + byteSize content⟩⟩
              :: c.trace⟩) := by
  refine ⟨?_, ?_⟩
  · intro scanned
    rcases scanString_cases c with ⟨content, rest, plain, front⟩ | ⟨tail, plain, front⟩ | absent
    · rw [scanString_of_closed plain front] at scanned
      exact ⟨content, rest, plain, front, (Option.some.inj (Except.ok.inj scanned)).symm⟩
    · rw [scanString_of_open plain front] at scanned
      cases scanned
    · rw [scanString_of_absent absent] at scanned
      cases scanned
  · rintro ⟨content, rest, plain, front, rfl⟩
    exact scanString_of_closed plain front

theorem scanString_eq_none_iff {c : Cursor} :
    c.scanString = .ok none ↔ c.skipGap.rest.head? ≠ some '"' := by
  refine ⟨?_, ?_⟩
  · intro scanned
    rcases scanString_cases c with ⟨content, rest, plain, front⟩ | ⟨tail, plain, front⟩ | absent
    · rw [scanString_of_closed plain front] at scanned
      cases scanned
    · rw [scanString_of_open plain front] at scanned
      cases scanned
    · exact absent
  · exact scanString_of_absent

theorem scanString_eq_error_iff {c : Cursor} {error : LineError} :
    c.scanString = .error error ↔
      ∃ tail, '"' ∉ tail ∧ c.skipGap.rest = '"' :: tail ∧
        error = .at .unterminatedString ⟨c.nextPlace, c.skipGap.lineEnd⟩ := by
  refine ⟨?_, ?_⟩
  · intro scanned
    rcases scanString_cases c with ⟨content, rest, plain, front⟩ | ⟨tail, plain, front⟩ | absent
    · rw [scanString_of_closed plain front] at scanned
      cases scanned
    · rw [scanString_of_open plain front] at scanned
      exact ⟨tail, plain, front, (Except.error.inj scanned).symm⟩
    · rw [scanString_of_absent absent] at scanned
      cases scanned
  · rintro ⟨tail, plain, front, rfl⟩
    exact scanString_of_open plain front

end Cursor

end LineBasic
