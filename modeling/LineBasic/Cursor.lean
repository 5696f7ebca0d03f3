import LineBasic.Event
import LineBasic.LineError
import LineBasic.Unicode.Letter
import LineBasic.Unicode.White

/-!
# Reading tokens off a line

A cursor is a place in a line. A matcher is an action on it: it looks behind the
gap for one kind of token. If it finds one, it moves the cursor behind it and
gives the token. What it does to the cursor if it finds nothing is not assumed
but proved: each matcher is `Steady`, so the cursor is still good for any other
one, and what a matcher finds (`Scan.find`) is all there is to know about it.

Main statements: every matcher is steady (`steady_matchWord`,
`steady_matchLiteral`, `steady_matchOperator`, `steady_matchEndOfLine`,
`steady_matchString`); skipping a gap never lengthens what is left of the line
(`length_skipGap_le`), and a matched word, number, string or nonempty literal
makes it shorter (`scanWord_shorter`, `scanString_shorter`, `scanLiteral_shorter`), so
whoever reads tokens comes to an end.
-/

namespace LineBasic

/-- A place in a line: the bytes before it, the text after it, and what has
been observed on the way, latest first. -/
structure Cursor where
  offset : Nat
  rest : Text
  trace : List Event

/-- The answer of a matcher: a token, none, or an error. -/
abbrev Attempt := Except LineError (Option Token)

namespace Cursor

/-- The beginning of a line. -/
def start (line : Text) : Cursor := ⟨0, line, []⟩

/-- Past the gap, if any, before the next token. -/
def skipGap (c : Cursor) : Cursor :=
  { c with
    offset := c.offset + byteSize (c.rest.takeWhile isGap)
    rest := c.rest.dropWhile isGap }

/-- The place where the next token would start. -/
def nextPlace (c : Cursor) : Nat := c.skipGap.offset

/-- The end of the line, as a place. -/
def lineEnd (c : Cursor) : Nat := c.offset + byteSize c.rest

/-- The same place with one more observation. -/
def observe (c : Cursor) (event : Event) : Cursor := { c with trace := event :: c.trace }

theorem length_dropWhile_le (p : Char → Bool) (t : Text) : (t.dropWhile p).length ≤ t.length :=
  (List.dropWhile_suffix p).length_le

theorem length_skipGap_le (c : Cursor) : c.skipGap.rest.length ≤ c.rest.length :=
  length_dropWhile_le isGap c.rest

/-! ## Matchers -/

/-- An action on a cursor. -/
abbrev Scan (α : Type) := StateM Cursor α

/-- The answer of an action at `c`, and the cursor after it. -/
def Scan.run {α : Type} (action : Scan α) (c : Cursor) : α × Cursor := Id.run (StateT.run action c)

/-- The token of a lexeme that stands right at the cursor, before `rest`, and the
cursor behind it. -/
def take (c : Cursor) (kind : TokenKind) (lexeme rest : Text) : Token × Cursor :=
  let token : Token := ⟨kind, lexeme, ⟨c.offset, c.offset + byteSize lexeme⟩⟩
  (token, ⟨c.offset + byteSize lexeme, rest, .matched token :: c.trace⟩)

/-- Takes a lexeme that stands behind the gap, before `rest`. -/
def accept (kind : TokenKind) (lexeme rest : Text) : Scan (Option Token) := do
  let (token, next) := (← get).skipGap.take kind lexeme rest
  set next
  return some token

/-- A word: one character with property `first` and as many with property
`more` as follow it. -/
def matchWord (kind : TokenKind) (first more : Char → Bool) : Scan (Option Token) := do
  match (← get).skipGap.rest with
  | [] => return none
  | initial :: tail =>
    if first initial then
      accept kind (initial :: tail.takeWhile more) (tail.dropWhile more)
    else return none

/-- A run of letters. -/
def matchKeyword : Scan (Option Token) := matchWord .keyword isLetter isLetter

/-- A letter and the letters and digits after it. -/
def matchVariable : Scan (Option Token) := matchWord .variable isLetter isNameChar

/-- A run of digits. -/
def matchNumber : Scan (Option Token) := matchWord .number isDigit isDigit

/-- Exactly the given text. The empty text stands everywhere. -/
def matchLiteral (text : Text) : Scan (Option Token) := do
  match cutFront? text (← get).skipGap.rest with
  | none => return none
  | some rest => accept .literal text rest

/-- One of several operators, tried as literals one after another. The observer
hears of the one that is found as a literal. -/
def matchOperator : (symbols : List Text) → Scan (Option Token)
  | [] => return none
  | symbol :: others => do
    match ← matchLiteral symbol with
    | some token => return some { token with kind := .operator }
    | none => matchOperator others

/-- A plus or a minus sign. -/
def matchAddOrSub : Scan (Option Token) := matchOperator [['+'], ['-']]

/-- A sign of multiplication or division. -/
def matchMulOrDiv : Scan (Option Token) := matchOperator [['*'], ['/']]

/-- The end of the line, which is an empty token that the observer does not
hear of. -/
def matchEndOfLine : Scan (Option Token) := do
  let place := (← get).skipGap
  if place.rest.isEmpty then
    set place
    return some ⟨.endOfLine, [], ⟨place.offset, place.offset⟩⟩
  else return none

/-- A string in double quotes. A quote that nothing closes makes the whole
line unusable; its error covers the rest of the line. -/
def matchString : Scan Attempt := do
  let place := (← get).skipGap
  match place.rest with
  | '"' :: tail =>
    match tail.dropWhile (· != '"') with
    | [] => return .error (.at .unterminatedString ⟨place.offset, place.lineEnd⟩)
    | _ :: rest =>
      let inside : Cursor := { place with offset := place.offset + 1, rest := tail }
      let (token, closing) := inside.take .string (tail.takeWhile (· != '"')) rest
      set { closing with offset := closing.offset + 1 }
      return .ok (some token)
  | _ => return .ok none

/-! ## What a matcher finds -/

/-- What a matcher finds: a token and the cursor behind it. -/
def Scan.find (matcher : Scan (Option Token)) (c : Cursor) : Option (Token × Cursor) :=
  match matcher.run c with
  | (some token, next) => some (token, next)
  | (none, _) => none

/-- A word, if one stands behind the gap. -/
def scanWord (kind : TokenKind) (first more : Char → Bool) : Cursor → Option (Token × Cursor) :=
  (matchWord kind first more).find

/-- A run of letters. -/
def scanKeyword : Cursor → Option (Token × Cursor) := scanWord .keyword isLetter isLetter

/-- A letter and the letters and digits after it. -/
def scanVariable : Cursor → Option (Token × Cursor) := scanWord .variable isLetter isNameChar

/-- A run of digits. -/
def scanNumber : Cursor → Option (Token × Cursor) := scanWord .number isDigit isDigit

/-- Exactly the given text. -/
def scanLiteral (text : Text) : Cursor → Option (Token × Cursor) := (matchLiteral text).find

/-- The first of several operators that stands there. -/
def scanOperator (symbols : List Text) : Cursor → Option (Token × Cursor) :=
  (matchOperator symbols).find

/-- A plus or a minus sign. -/
def scanAddOrSub : Cursor → Option (Token × Cursor) := scanOperator [['+'], ['-']]

/-- A sign of multiplication or division. -/
def scanMulOrDiv : Cursor → Option (Token × Cursor) := scanOperator [['*'], ['/']]

/-- The end of the line. -/
def scanEndOfLine : Cursor → Option (Token × Cursor) := matchEndOfLine.find

/-- What a search for a string finds, or the error of an open one. -/
def scanString (c : Cursor) : Except LineError (Option (Token × Cursor)) :=
  match matchString.run c with
  | (.error error, _) => .error error
  | (.ok none, _) => .ok none
  | (.ok (some token), next) => .ok (some (token, next))

/-! ## Failed matchers leave the cursor -/

theorem Scan.run_bind {α β : Type} (action : Scan α) (later : α → Scan β) (c : Cursor) :
    Scan.run (action >>= later) c = (later (action.run c).1).run (action.run c).2 := rfl

/-- The matcher moves the cursor only if it finds something. -/
def Steady (matcher : Scan (Option Token)) : Prop :=
  ∀ c, (matcher.run c).1 = none → (matcher.run c).2 = c

theorem Scan.find_of_run {matcher : Scan (Option Token)} {token : Token} {c next : Cursor}
    (run : matcher.run c = (some token, next)) : matcher.find c = some (token, next) := by
  rw [Scan.find, run]

theorem Steady.left_eq {matcher : Scan (Option Token)} (steady : Steady matcher) {c left : Cursor}
    (run : matcher.run c = (none, left)) : left = c := by
  have stays := steady c
  rw [run] at stays
  exact stays rfl

/-- A steady matcher does nothing but what it finds. -/
theorem Steady.run_eq {matcher : Scan (Option Token)} (steady : Steady matcher) (c : Cursor) :
    matcher.run c = match matcher.find c with
      | none => (none, c)
      | some (token, next) => (some token, next) := by
  unfold Scan.find
  match run : matcher.run c with
  | (some token, next) => rfl
  | (none, left) => exact congrArg (Prod.mk none) (steady.left_eq run)

theorem steady_matchWord (kind : TokenKind) (first more : Char → Bool) :
    Steady (matchWord kind first more) := by
  intro c
  cases front : c.skipGap.rest with
  | nil => simp [Scan.run, matchWord, front]
  | cons initial tail =>
    cases begins : first initial with
    | false => simp [Scan.run, matchWord, front, begins]
    | true => simp [Scan.run, matchWord, front, begins, accept]

theorem steady_matchLiteral (text : Text) : Steady (matchLiteral text) := by
  intro c
  cases cut : cutFront? text c.skipGap.rest with
  | none => simp [Scan.run, matchLiteral, cut]
  | some rest => simp [Scan.run, matchLiteral, cut, accept]

theorem matchOperator_cons_run (symbol : Text) (others : List Text) (c : Cursor) :
    (matchOperator (symbol :: others)).run c = match (matchLiteral symbol).run c with
      | (some token, next) => (some { token with kind := .operator }, next)
      | (none, left) => (matchOperator others).run left := by
  rw [matchOperator, Scan.run_bind]
  match (matchLiteral symbol).run c with
  | (some token, next) => rfl
  | (none, left) => rfl

/-- Each sign that is not found leaves the cursor to the next one. -/
theorem steady_matchOperator (symbols : List Text) : Steady (matchOperator symbols) := by
  induction symbols with
  | nil =>
    intro c _
    rfl
  | cons symbol others ih =>
    intro c
    rw [matchOperator_cons_run, (steady_matchLiteral symbol).run_eq]
    cases (matchLiteral symbol).find c with
    | none => exact ih c
    | some found => simp

theorem steady_matchEndOfLine : Steady matchEndOfLine := by
  intro c
  by_cases ends : c.skipGap.rest = []
  · simp [Scan.run, matchEndOfLine, ends]
  · simp [Scan.run, matchEndOfLine, ends]

/-! ## The matchers without their actions -/

theorem scanWord_eq (kind : TokenKind) (first more : Char → Bool) (c : Cursor) :
    scanWord kind first more c = match c.skipGap.rest with
      | [] => none
      | initial :: tail =>
        if first initial then
          some (c.skipGap.take kind (initial :: tail.takeWhile more) (tail.dropWhile more))
        else none := by
  cases front : c.skipGap.rest with
  | nil => simp [scanWord, Scan.find, Scan.run, matchWord, front]
  | cons initial tail =>
    cases begins : first initial with
    | false => simp [scanWord, Scan.find, Scan.run, matchWord, front, begins]
    | true => simp [scanWord, Scan.find, Scan.run, matchWord, front, begins, accept]

theorem scanLiteral_eq (text : Text) (c : Cursor) :
    scanLiteral text c = match cutFront? text c.skipGap.rest with
      | none => none
      | some rest => some (c.skipGap.take .literal text rest) := by
  cases cut : cutFront? text c.skipGap.rest with
  | none => simp [scanLiteral, Scan.find, Scan.run, matchLiteral, cut]
  | some rest => simp [scanLiteral, Scan.find, Scan.run, matchLiteral, cut, accept]

/-- The attempts at an operator come to what they come to at the cursor of the
first one. -/
theorem scanOperator_eq (symbols : List Text) (c : Cursor) :
    scanOperator symbols c = match symbols.findSome? fun symbol => c.scanLiteral symbol with
      | none => none
      | some (token, next) => some ({ token with kind := .operator }, next) := by
  induction symbols with
  | nil => rfl
  | cons symbol others ih =>
    rw [List.findSome?_cons, scanOperator, Scan.find, matchOperator_cons_run,
      (steady_matchLiteral symbol).run_eq]
    have same : scanLiteral symbol c = (matchLiteral symbol).find c := rfl
    rw [same]
    cases (matchLiteral symbol).find c with
    | none => exact ih
    | some found => rfl

theorem scanEndOfLine_eq (c : Cursor) :
    scanEndOfLine c = if c.skipGap.rest.isEmpty then
      some (⟨.endOfLine, [], ⟨c.nextPlace, c.nextPlace⟩⟩, c.skipGap) else none := by
  by_cases ends : c.skipGap.rest = []
  · simp [scanEndOfLine, Scan.find, Scan.run, matchEndOfLine, ends, nextPlace]
  · simp [scanEndOfLine, Scan.find, Scan.run, matchEndOfLine, ends]

/-- The run of a search for a string. -/
theorem matchString_run (c : Cursor) :
    matchString.run c = match c.skipGap.rest with
      | '"' :: tail =>
        match tail.dropWhile (· != '"') with
        | [] => (.error (.at .unterminatedString ⟨c.nextPlace, c.skipGap.lineEnd⟩), c)
        | _ :: rest =>
          let inside : Cursor := { c.skipGap with offset := c.nextPlace + 1, rest := tail }
          let (token, closing) := inside.take .string (tail.takeWhile (· != '"')) rest
          (.ok (some token), { closing with offset := closing.offset + 1 })
      | _ => (.ok none, c) := by
  rw [matchString, Scan.run_bind]
  show Scan.run (match c.skipGap.rest with | '"' :: tail => _ | _ => _) c = _
  split
  · split <;> rfl
  · rfl

theorem scanString_eq (c : Cursor) :
    scanString c = match c.skipGap.rest with
      | '"' :: tail =>
        match tail.dropWhile (· != '"') with
        | [] => .error (.at .unterminatedString ⟨c.nextPlace, c.skipGap.lineEnd⟩)
        | _ :: rest =>
          let inside : Cursor := { c.skipGap with offset := c.nextPlace + 1, rest := tail }
          let (token, closing) := inside.take .string (tail.takeWhile (· != '"')) rest
          .ok (some (token, { closing with offset := closing.offset + 1 }))
      | _ => .ok none := by
  have run := matchString_run c
  rw [scanString]
  split at run
  · split at run
    · simp only [run]
    · simp only [run]
  · simp only [run]

/-- Neither a missing string nor an open one moves the cursor. -/
theorem steady_matchString {c left : Cursor} {answer : Attempt}
    (run : matchString.run c = (answer, left)) (failed : ∀ token, answer ≠ .ok (some token)) :
    left = c := by
  rw [matchString_run] at run
  split at run
  · split at run
    · exact (Prod.mk.inj run).2.symm
    · exact absurd (Prod.mk.inj run).1.symm (failed _)
  · exact (Prod.mk.inj run).2.symm

theorem scanString_of_run {c next : Cursor} {token : Token}
    (run : matchString.run c = (.ok (some token), next)) :
    c.scanString = .ok (some (token, next)) := by
  rw [scanString, run]

/-- A search for a string does nothing but what it finds. -/
theorem matchString_run_eq (c : Cursor) :
    matchString.run c = match c.scanString with
      | .error error => (.error error, c)
      | .ok none => (.ok none, c)
      | .ok (some (token, next)) => (.ok (some token), next) := by
  rw [scanString]
  match run : matchString.run c with
  | (.ok (some token), next) => rfl
  | (.ok none, left) => exact congrArg (Prod.mk _) (steady_matchString run (by simp))
  | (.error error, left) => exact congrArg (Prod.mk _) (steady_matchString run (by simp))

/-! ## Matching makes progress -/

theorem scanWord_shorter {kind : TokenKind} {first more : Char → Bool} {c next : Cursor}
    {token : Token} (found : scanWord kind first more c = some (token, next)) :
    next.rest.length < c.rest.length := by
  have gap := length_skipGap_le c
  rw [scanWord_eq] at found
  split at found
  · cases found
  · next initial tail rest =>
    split at found
    · obtain ⟨_, rfl⟩ := Prod.mk.inj (Option.some.inj found)
      have := length_dropWhile_le more tail
      simp only [rest, List.length_cons] at gap
      simp only
      omega
    · cases found

theorem scanLiteral_shorter {text : Text} (nonempty : text ≠ []) {c next : Cursor} {token : Token}
    (found : scanLiteral text c = some (token, next)) : next.rest.length < c.rest.length := by
  have gap := length_skipGap_le c
  rw [scanLiteral_eq] at found
  split at found
  · cases found
  · next rest cut =>
    obtain ⟨_, rfl⟩ := Prod.mk.inj (Option.some.inj found)
    have whole := congrArg List.length (cutFront?_eq_some_iff.1 cut)
    have := List.length_pos_iff.2 nonempty
    simp only [List.length_append] at whole
    simp only
    omega

theorem scanOperator_shorter {symbols : List Text} (nonempty : ∀ s ∈ symbols, s ≠ [])
    {c next : Cursor} {token : Token} (found : scanOperator symbols c = some (token, next)) :
    next.rest.length < c.rest.length := by
  rw [scanOperator_eq] at found
  split at found
  · cases found
  · next first =>
    obtain ⟨_, rfl⟩ := Prod.mk.inj (Option.some.inj found)
    obtain ⟨symbol, member, matched⟩ := List.exists_of_findSome?_eq_some first
    exact scanLiteral_shorter (nonempty symbol member) matched

theorem scanString_shorter {c next : Cursor} {token : Token}
    (found : scanString c = .ok (some (token, next))) : next.rest.length < c.rest.length := by
  have gap := length_skipGap_le c
  rw [scanString_eq] at found
  split at found
  · next tail rest =>
    split at found
    · cases found
    · next _ after closed =>
      obtain ⟨_, rfl⟩ := Prod.mk.inj (Option.some.inj (Except.ok.inj found))
      have := length_dropWhile_le (· != '"') tail
      simp only [rest, closed, List.length_cons] at gap this
      simp only
      omega
  · cases found

end Cursor

end LineBasic
