import LineBasic.Cursor

/-!
# Reading phrases

A phrase is what a grammar rule reads: a value and the cursor behind it. It
carries the proof that something was read, so a rule that repeats another one
ends with the line. A rule that cannot go on rejects the line; the rejection
keeps the place where it gave up.

A token is looked for in two ways. `nextNumber` and its like are a phrase or none.
`seekNumber` and its like are attempts (`Search`): one that fails hands on the cursor
that it has left, for the attempt that comes next.
-/

namespace LineBasic

/-- A value read from the text after `c`, and the cursor behind it. -/
structure Phrase (c : Cursor) (α : Type) where
  value : α
  next : Cursor
  shorter : next.rest.length < c.rest.length

/-- The end of all work on a line: the error, and the place that had been
reached. What was observed up to there is part of the place. -/
structure Rejection where
  error : LineError
  place : Cursor

/-- What a rule gives at `c`. -/
abbrev Reading (c : Cursor) (α : Type) := Except Rejection (Phrase c α)

/-- A grammar rule: it can be tried at any place of a line. -/
abbrev Rule (α : Type) := (c : Cursor) → Reading c α

namespace Cursor

/-- Rejects the line here. -/
def reject {α : Type} (c : Cursor) (cause : Cause) (span : Span) : Except Rejection α :=
  .error ⟨.at cause span, c⟩

/-- Rejects the line for what is missing at the next token. -/
def missing {α : Type} (c : Cursor) (cause : Cause) : Except Rejection α :=
  c.reject cause (.single c.nextPlace)

end Cursor

namespace Phrase

variable {c : Cursor} {α β : Type}

/-- A phrase with another value. -/
def withValue (p : Phrase c α) (value : β) : Phrase c β := ⟨value, p.next, p.shorter⟩

/-- A phrase and the one after it, read as one. -/
def followedBy {γ : Type} (p : Phrase c α) (q : Phrase p.next β) (value : γ) : Phrase c γ :=
  ⟨value, q.next, Nat.lt_trans q.shorter p.shorter⟩

/-- A phrase that goes on elsewhere, with no more text to come. -/
def movedTo (p : Phrase c α) (next : Cursor)
    (notLonger : next.rest.length ≤ p.next.rest.length) : Phrase c α :=
  ⟨p.value, next, Nat.lt_of_le_of_lt notLonger p.shorter⟩

/-- A phrase as seen from a place with no less text to come. -/
def since {d : Cursor} (p : Phrase d α) (notLonger : d.rest.length ≤ c.rest.length) :
    Phrase c α :=
  ⟨p.value, p.next, Nat.lt_of_lt_of_le p.shorter notLonger⟩

/-- A phrase with one more observation behind it. -/
def observed (p : Phrase c α) (event : Event) : Phrase c α :=
  ⟨p.value, p.next.observe event, p.shorter⟩

/-- The phrase of a match that makes progress. -/
def ofMatch (found : Option (Token × Cursor))
    (progress : ∀ token next, found = some (token, next) →
      next.rest.length < c.rest.length) : Option (Phrase c Token) :=
  match found, progress with
  | none, _ => none
  | some (token, next), progress => some ⟨token, next, progress token next rfl⟩

end Phrase

/-- A reading as seen from a place with no less text to come. -/
def Reading.since {c d : Cursor} {α : Type} (reading : Reading d α)
    (notLonger : d.rest.length ≤ c.rest.length) : Reading c α :=
  match reading with
  | .error rejection => .error rejection
  | .ok phrase => .ok (phrase.since notLonger)

/-! ## One token as a phrase -/

namespace Cursor

/-- A run of letters. -/
def nextKeyword (c : Cursor) : Option (Phrase c Token) :=
  Phrase.ofMatch c.scanKeyword fun _ _ => scanWord_shorter

/-- A letter and the letters and digits after it. -/
def nextVariable (c : Cursor) : Option (Phrase c Token) :=
  Phrase.ofMatch c.scanVariable fun _ _ => scanWord_shorter

/-- A run of digits. -/
def nextNumber (c : Cursor) : Option (Phrase c Token) :=
  Phrase.ofMatch c.scanNumber fun _ _ => scanWord_shorter

/-- One punctuation character. -/
def nextSymbol (character : Char) (c : Cursor) : Option (Phrase c Token) :=
  Phrase.ofMatch (c.scanLiteral [character]) fun _ _ => scanLiteral_shorter (by simp)

/-- A plus or a minus sign. -/
def nextAddOrSub (c : Cursor) : Option (Phrase c Token) :=
  Phrase.ofMatch c.scanAddOrSub fun _ _ => scanOperator_shorter (by simp)

/-- A sign of multiplication or division. -/
def nextMulOrDiv (c : Cursor) : Option (Phrase c Token) :=
  Phrase.ofMatch c.scanMulOrDiv fun _ _ => scanOperator_shorter (by simp)

/-- A string in double quotes, or a rejection if it is never closed. -/
def nextString (c : Cursor) : Except Rejection (Option (Phrase c Token)) :=
  match c.scanString, fun token next => @scanString_shorter c next token with
  | .error error, _ => .error ⟨error, c⟩
  | .ok none, _ => .ok none
  | .ok (some (token, next)), progress => .ok (some ⟨token, next, progress token next rfl⟩)

end Cursor

/-! ## Attempts at a token -/

/-- What comes of an attempt at `c`: a token, or the cursor that the failed attempt
leaves to the next one. -/
inductive Search (c : Cursor)
  | found (token : Phrase c Token)
  | failed (left : Cursor) (notLonger : left.rest.length ≤ c.rest.length)

namespace Search

variable {c : Cursor}

/-- The outcome of a matcher that is steady and makes progress. -/
def ofMatcher (matcher : Cursor.Scan (Option Token)) (steady : Cursor.Steady matcher)
    (progress : ∀ token next, matcher.find c = some (token, next) →
      next.rest.length < c.rest.length) : Search c :=
  match run : matcher.run c with
  | (some token, next) => .found ⟨token, next, progress token next (Cursor.Scan.find_of_run run)⟩
  | (none, left) => .failed left (Nat.le_of_eq (by rw [steady.left_eq run]))

end Search

namespace Cursor

/-- A letter and the letters and digits after it. -/
def seekVariable (c : Cursor) : Search c :=
  .ofMatcher matchVariable (steady_matchWord _ _ _) fun _ _ => scanWord_shorter

/-- A run of digits. -/
def seekNumber (c : Cursor) : Search c :=
  .ofMatcher matchNumber (steady_matchWord _ _ _) fun _ _ => scanWord_shorter

/-- One punctuation character. -/
def seekSymbol (character : Char) (c : Cursor) : Search c :=
  .ofMatcher (matchLiteral [character]) (steady_matchLiteral _) fun _ _ =>
    scanLiteral_shorter (by simp)

/-- A plus or a minus sign. -/
def seekAddOrSub (c : Cursor) : Search c :=
  .ofMatcher matchAddOrSub (steady_matchOperator _) fun _ _ => scanOperator_shorter (by simp)

/-- A sign of multiplication or division. -/
def seekMulOrDiv (c : Cursor) : Search c :=
  .ofMatcher matchMulOrDiv (steady_matchOperator _) fun _ _ => scanOperator_shorter (by simp)

/-- A string in double quotes, or a rejection if it is never closed. -/
def seekString (c : Cursor) : Except Rejection (Search c) :=
  match run : matchString.run c with
  | (.error error, left) => .error ⟨error, left⟩
  | (.ok none, left) =>
    .ok (.failed left (Nat.le_of_eq (by rw [steady_matchString run (by simp)])))
  | (.ok (some token), next) =>
    .ok (.found ⟨token, next, scanString_shorter (scanString_of_run run)⟩)

end Cursor

end LineBasic
