import LineBasic.Proofs.Placement

/-!
# Errors are decided by the text up to them

Two lines that begin alike are read alike for as long as the reader has not
looked beyond what they share. Cursors at the same place of two such lines are
**twins** (`Twins`): what they have left begins alike up to byte `n` of the
line and goes on with `b` here and with `b'` there.

* **matchers** — a match that ends before byte `n`, or a failed one that looks
  no further than there, comes out the same at a twin (`Twins.scanWord`, …);
* **reading never looks back** — what it comes to is decided no earlier than at
  the next token (`Reads.le_reach`);
* **simulation** — hence a reading that is decided before byte `n` has a
  parallel one at the twin (`Reads.parallel`, `ReadsLine.parallel`).

An open string is the one error that depends on all the rest of the line, and
only on it having no quote. One parenthesis too many needs nothing behind it
(`rejected_alike_behind`). Main result: **`error_decided_by_text_before`**.
-/

namespace LineBasic

/-- The place whose character decides an error, together with the text before
it. A word is over only where the character behind it says so. -/
def LineError.decidedAt (error : LineError) : Nat :=
  match error.cause with
  | .unknownStatement _ | .variableNotFound _ | .nestingTooDeep _ => error.span.stop
  | _ => error.span.start

/-- The place of the last character that an error depends on. One parenthesis
too many is so whatever stands behind it. -/
def LineError.settledAt (error : LineError) : Nat :=
  match error.cause with
  | .nestingTooDeep _ => error.span.stop - 1
  | _ => error.decidedAt

theorem LineError.settledAt_le (error : LineError) : error.settledAt ≤ error.decidedAt := by
  unfold settledAt
  split
  · next deep =>
    rw [decidedAt, deep]
    exact Nat.sub_le ..
  · exact Nat.le_refl _

/-- The place that decides what reading comes to: an error, or the token that
is not taken any more. -/
def reach {α : Type} : Outcome α → Nat
  | .ok (_, next) => next.nextPlace
  | .error rejection => rejection.error.settledAt

/-! ## Reading never looks back -/

section Reach

variable {scope : Scope} {limit : Nat} {c : Cursor}

theorem Reads.le_reach {category : Category} {n : Nat} {outcome : Outcome Expr}
    (read : Reads scope limit category n c outcome) : c.nextPlace ≤ reach outcome := by
  induction read with
  | number found => exact (Cursor.consumes_of_scanWord found).1.le_nextPlace
  | bound found _ => exact (Cursor.consumes_of_scanWord found).1.le_nextPlace
  | unbound found _ =>
    obtain ⟨consumes, form, _⟩ := Cursor.consumes_of_scanWord found
    rw [form]
    exact consumes.le
  | @tooDeep c token next found =>
    obtain ⟨consumes, form⟩ := Cursor.consumes_of_scanLiteral found
    have behind := consumes.offset
    have paren : byteSize ['('] = 1 := rfl
    rw [form]
    show c.nextPlace ≤ next.offset - 1
    omega
  | groupFails found _ ih =>
    exact Nat.le_trans (Cursor.consumes_of_scanLiteral found).1.le_nextPlace ih
  | unclosed found _ _ ih =>
    exact Nat.le_trans (Cursor.consumes_of_scanLiteral found).1.le_nextPlace ih
  | group found _ closed ih =>
    exact Nat.le_trans (Nat.le_trans (Cursor.consumes_of_scanLiteral found).1.le_nextPlace ih)
      (Cursor.consumes_of_scanLiteral closed).1.le_nextPlace
  | absent => exact Nat.le_refl _
  | firstFails _ ih => exact ih
  | first _ _ ihFirst ihChain => exact Nat.le_trans ihFirst ihChain
  | done => exact Nat.le_refl _
  | operandFails found _ ih =>
    exact Nat.le_trans (Cursor.consumes_of_scanTier found).le_nextPlace ih
  | more found _ _ _ ihRight ihChain =>
    exact Nat.le_trans (Cursor.consumes_of_scanTier found).le_nextPlace
      (Nat.le_trans ihRight ihChain)

theorem ReadsItem.le_reach {outcome : Outcome Item} (read : ReadsItem scope limit c outcome) :
    c.nextPlace ≤ reach outcome := by
  cases read with
  | unterminated found =>
    obtain ⟨_, _, _, rfl⟩ := Cursor.scanString_eq_error_iff.1 found
    exact Nat.le_refl _
  | string found => exact (Cursor.consumes_of_scanString found).le_nextPlace
  | exprFails _ failed => exact failed.le_reach
  | expr _ body => exact body.le_reach

theorem ReadsItems.le_reach {outcome : Outcome (List Item)}
    (read : ReadsItems scope limit c outcome) : c.nextPlace ≤ reach outcome := by
  induction read with
  | firstFails failed => exact failed.le_reach
  | last item _ => exact item.le_reach
  | restFails item found _ ih =>
    exact Nat.le_trans item.le_reach
      (Nat.le_trans (Cursor.consumes_of_scanLiteral found).1.le_nextPlace ih)
  | more item found _ ih =>
    have itemReach := item.le_reach
    exact Nat.le_trans itemReach
      (Nat.le_trans (Cursor.consumes_of_scanLiteral found).1.le_nextPlace ih)

/-! What is decided before byte `n` began before it, too. -/

variable {n : Nat}

theorem Cursor.offset_lt (early : c.nextPlace < n) : c.offset < n :=
  Nat.lt_of_le_of_lt c.offset_le_nextPlace early

theorem Cursor.Consumes.starts_before {text : Text} {next : Cursor}
    (consumes : c.Consumes text next) (early : next.offset < n) : c.nextPlace < n :=
  Nat.lt_of_le_of_lt consumes.le early

theorem Reads.starts_before {category : Category} {m : Nat} {outcome : Outcome Expr}
    (read : Reads scope limit category m c outcome) (early : reach outcome < n) :
    c.nextPlace < n :=
  Nat.lt_of_le_of_lt read.le_reach early

theorem ReadsItem.starts_before {outcome : Outcome Item} (read : ReadsItem scope limit c outcome)
    (early : reach outcome < n) : c.nextPlace < n :=
  Nat.lt_of_le_of_lt read.le_reach early

theorem ReadsItems.starts_before {outcome : Outcome (List Item)}
    (read : ReadsItems scope limit c outcome) (early : reach outcome < n) : c.nextPlace < n :=
  Nat.lt_of_le_of_lt read.le_reach early

end Reach

/-! ## Twins -/

section Twins

variable {n : Nat} {b b' : Text}

/-- Two texts at byte `k` of their lines that are the same up to byte `n`, and
go on with `b` and `b'` from there. -/
def Forks (n : Nat) (b b' : Text) (k : Nat) (s s' : Text) : Prop :=
  ∃ a, s = a ++ b ∧ s' = a ++ b' ∧ k + byteSize a = n

/-- What is before byte `n` and one character more are the same in both texts. -/
theorem Forks.drop {k : Nat} {text rest s' : Text} (forks : Forks n b b' k (text ++ rest) s')
    (early : k + byteSize text < n) :
    ∃ rest', s' = text ++ rest' ∧ rest'.head? = rest.head? ∧
      Forks n b b' (k + byteSize text) rest rest' := by
  obtain ⟨a, whole, rfl, size⟩ := forks
  rcases List.append_eq_append_iff.1 whole with ⟨x, rfl, rfl⟩ | ⟨x, rfl, _⟩
  · rw [byteSize_append] at size
    refine ⟨x ++ b', List.append_assoc .., ?_, x, rfl, rfl, by omega⟩
    -- `x` is not empty, since byte `n` has not been reached
    cases x with
    | nil =>
      rw [byteSize] at size
      omega
    | cons ch x => rfl
  · rw [byteSize_append] at early
    omega

/-- Cursors at one place of two lines that fork later. -/
structure Twins (n : Nat) (b b' : Text) (c d : Cursor) : Prop where
  offset : d.offset = c.offset
  forks : Forks n b b' c.offset c.rest d.rest

namespace Twins

variable {c d next : Cursor} {token : Token}

theorem observe (twins : Twins n b b' c d) (event event' : Event) :
    Twins n b b' (c.observe event) (d.observe event') := ⟨twins.offset, twins.forks⟩

/-- Twins find the same text behind the gap, as far as it is the same. -/
theorem consume (twins : Twins n b b' c d) {text rest : Text}
    (front : c.skipGap.rest = text ++ rest) (early : c.nextPlace + byteSize text < n) :
    ∃ rest', d.skipGap.rest = text ++ rest' ∧ rest'.head? = rest.head? ∧
      d.nextPlace = c.nextPlace ∧ Forks n b b' (c.nextPlace + byteSize text) rest rest' := by
  obtain ⟨gap, all, whole, place⟩ := c.rest_eq_gap_append
  have forks := twins.forks
  rw [whole] at forks
  obtain ⟨behind, whole', same, forks'⟩ := forks.drop (by omega)
  have skipped := Cursor.skipGap_eq all (c.stops_skipGap.of_head? same) whole'
  rw [front, ← place] at forks'
  obtain ⟨rest', rfl, same', forks''⟩ := forks'.drop early
  refine ⟨rest', by rw [skipped], same', ?_, forks''⟩
  rw [← Cursor.skipGap_offset, skipped, place, twins.offset]

/-- Behind the gap, twins find texts that fork later. -/
theorem skipGap (twins : Twins n b b' c d) (early : c.nextPlace < n) :
    d.skipGap.rest.head? = c.skipGap.rest.head? ∧ d.nextPlace = c.nextPlace ∧
      Forks n b b' c.nextPlace c.skipGap.rest d.skipGap.rest := by
  obtain ⟨rest', front, same, place, forks⟩ := twins.consume (List.nil_append _).symm early
  rw [List.nil_append] at front
  rw [front]
  exact ⟨same, place, forks⟩

/-- What one twin takes, the other takes as the same token. -/
theorem take (twins : Twins n b b' c d) {kind : TokenKind} {text rest : Text}
    (front : c.skipGap.rest = text ++ rest) (taken : c.skipGap.take kind text rest = (token, next))
    (early : next.offset < n) :
    ∃ rest' next', d.skipGap.rest = text ++ rest' ∧ rest'.head? = rest.head? ∧
      d.skipGap.take kind text rest' = (token, next') ∧ Twins n b b' next next' := by
  obtain ⟨rfl, rfl⟩ := Prod.mk.inj taken
  obtain ⟨rest', front', same, place, forks⟩ := twins.consume front early
  refine ⟨rest', (d.skipGap.take kind text rest').2, front', same, ?_, ?_, forks⟩
  · simp only [Cursor.take, Cursor.skipGap_offset, place]
  · simp only [Cursor.take, Cursor.skipGap_offset, place]

theorem scanWord (twins : Twins n b b' c d) {kind : TokenKind} {first more : Char → Bool}
    (found : Cursor.scanWord kind first more c = some (token, next)) (early : next.offset < n) :
    ∃ next', Cursor.scanWord kind first more d = some (token, next') ∧
      Twins n b b' next next' := by
  obtain ⟨word, rest, isWord, stops, front, taken⟩ := Cursor.scanWord_eq_some_iff.1 found
  obtain ⟨rest', next', front', same, taken', twins'⟩ := twins.take front taken early
  refine ⟨next', ?_, twins'⟩
  exact Cursor.scanWord_eq_some_iff.2
    ⟨word, rest', isWord, stops.of_head? same, front', taken'⟩

theorem no_scanWord (twins : Twins n b b' c d) {kind : TokenKind} {first more : Char → Bool}
    (absent : Cursor.scanWord kind first more c = none) (early : c.nextPlace < n) :
    Cursor.scanWord kind first more d = none := by
  rw [Cursor.scanWord_eq_none_iff] at absent ⊢
  exact absent.of_head? (twins.skipGap early).1

theorem scanLiteral (twins : Twins n b b' c d) {text : Text}
    (found : Cursor.scanLiteral text c = some (token, next)) (early : next.offset < n) :
    ∃ next', Cursor.scanLiteral text d = some (token, next') ∧ Twins n b b' next next' := by
  obtain ⟨rest, front, taken⟩ := Cursor.scanLiteral_eq_some_iff.1 found
  obtain ⟨rest', next', front', _, taken', twins'⟩ := twins.take front taken early
  exact ⟨next', Cursor.scanLiteral_eq_some_iff.2 ⟨rest', front', taken'⟩, twins'⟩

/-- One character needs nothing behind it to be found. -/
theorem scanSymbol (twins : Twins n b b' c d) {symbol : Char}
    (found : Cursor.scanLiteral [symbol] c = some (token, next)) (early : c.nextPlace < n) :
    ∃ next', Cursor.scanLiteral [symbol] d = some (token, next') := by
  obtain ⟨rest, front, taken⟩ := Cursor.scanLiteral_eq_some_iff.1 found
  obtain ⟨same, place, _⟩ := twins.skipGap early
  obtain ⟨rest', front'⟩ : ∃ rest', d.skipGap.rest = symbol :: rest' := by
    rw [front] at same
    exact List.head?_eq_some_iff.1 same
  refine ⟨(d.skipGap.take .literal [symbol] rest').2,
    Cursor.scanLiteral_eq_some_iff.2 ⟨rest', front', ?_⟩⟩
  rw [← (Prod.mk.inj taken).1]
  simp only [Cursor.take, Cursor.skipGap_offset, place]

theorem no_scanLiteral (twins : Twins n b b' c d) {symbol : Char}
    (absent : Cursor.scanLiteral [symbol] c = none) (early : c.nextPlace < n) :
    Cursor.scanLiteral [symbol] d = none := by
  rw [Cursor.scanLiteral_eq_none_iff] at absent ⊢
  rw [(twins.skipGap early).1]
  exact absent

theorem scanTier (twins : Twins n b b' c d) {tier : Tier}
    (found : tier.scan c = some (token, next)) (early : next.offset < n) :
    ∃ next', tier.scan d = some (token, next') ∧ Twins n b b' next next' := by
  obtain ⟨operator, same, rest, front, taken⟩ := Tier.scan_eq_some_iff.1 found
  obtain ⟨rfl, rfl⟩ := Prod.mk.inj taken
  have front₁ : c.skipGap.rest = [operator.symbol] ++ rest := front
  obtain ⟨rest', next', front', _, taken', twins'⟩ := twins.take front₁ rfl early
  refine ⟨next', Tier.scan_eq_some_iff.2 ⟨operator, same, rest', front', ?_⟩, twins'⟩
  rw [taken']
  rfl

theorem no_scanTier (twins : Twins n b b' c d) {tier : Tier} (absent : tier.scan c = none)
    (early : c.nextPlace < n) : tier.scan d = none := by
  rw [Tier.scan_eq_none_iff] at absent ⊢
  rw [(twins.skipGap early).1]
  exact absent

theorem scanString (twins : Twins n b b' c d)
    (found : c.scanString = .ok (some (token, next))) (early : next.offset < n) :
    ∃ next', d.scanString = .ok (some (token, next')) ∧ Twins n b b' next next' := by
  have whole := (Cursor.consumes_of_scanString found).offset
  obtain ⟨content, rest, plain, front, taken⟩ := Cursor.scanString_eq_string_iff.1 found
  obtain ⟨rfl, rfl⟩ := Prod.mk.inj taken
  have front₁ : c.skipGap.rest = ('"' :: (content ++ ['"'])) ++ rest := by
    rw [front]
    simp
  obtain ⟨rest', front', _, place, forks⟩ := twins.consume front₁ (by rw [← whole]; exact early)
  have front₂ : d.skipGap.rest = '"' :: (content ++ '"' :: rest') := by
    rw [front']
    simp
  have found' := Cursor.scanString_of_closed plain front₂
  rw [place] at found'
  refine ⟨_, found', rfl, ?_⟩
  rw [← whole] at forks
  exact forks

theorem no_scanString (twins : Twins n b b' c d) (absent : c.scanString = .ok none)
    (early : c.nextPlace < n) : d.scanString = .ok none := by
  rw [Cursor.scanString_eq_none_iff] at absent ⊢
  rw [(twins.skipGap early).1]
  exact absent

/-- A string stays open if no quote comes later. -/
theorem unclosed_scanString (twins : Twins n b b' c d) {error : LineError}
    (found : c.scanString = .error error) (early : c.nextPlace < n) (plain' : '"' ∉ b') :
    ∃ stop, d.scanString = .error (.at .unterminatedString ⟨c.nextPlace, stop⟩) := by
  obtain ⟨tail, plain, front, _⟩ := Cursor.scanString_eq_error_iff.1 found
  obtain ⟨_, place, a, whole, whole', size⟩ := twins.skipGap early
  rw [front] at whole
  -- the quote is before byte `n`, so both lines have it
  cases a with
  | nil =>
    rw [byteSize] at size
    omega
  | cons quote a =>
    obtain ⟨rfl, rfl⟩ := List.cons.inj whole
    have plain₂ : '"' ∉ a ++ b' := by
      intro member
      rcases List.mem_append.1 member with early | late
      · exact plain (List.mem_append_left _ early)
      · exact plain' late
    have notClosed := Cursor.scanString_of_open plain₂ whole'
    rw [place] at notClosed
    exact ⟨_, notClosed⟩

theorem no_scanEndOfLine (twins : Twins n b b' c d) (absent : c.scanEndOfLine = none)
    (early : c.nextPlace < n) : d.scanEndOfLine = none := by
  rw [Cursor.scanEndOfLine_eq_none_iff] at absent ⊢
  intro none_left
  have same := (twins.skipGap early).1
  rw [none_left] at same
  exact absent (List.head?_eq_none_iff.1 same.symm)

end Twins

/-! ## Parallel readings -/

/-- The same error, except that open strings may end at different places. -/
structure LineError.Alike (error error' : LineError) : Prop where
  cause : error'.cause = error.cause
  start : error'.span.start = error.span.start
  same : error.cause ≠ .unterminatedString → error' = error

/-- The same value and twin cursors, or errors that are alike. -/
inductive Parallel {α : Type} (n : Nat) (b b' : Text) : Outcome α → Outcome α → Prop
  | ok {value next next'} :
      Twins n b b' next next' → Parallel n b b' (.ok (value, next)) (.ok (value, next'))
  | error {rejection rejection'} : rejection.error.Alike rejection'.error →
      Parallel n b b' (.error rejection) (.error rejection')

/-- The same error is found at twins. -/
theorem Parallel.rejected {α : Type} (error : LineError) (place place' : Cursor) :
    Parallel n b b' (.error ⟨error, place⟩ : Outcome α) (.error ⟨error, place'⟩) :=
  .error ⟨rfl, rfl, fun _ => rfl⟩

/-- Errors for what is missing at twins are the same. -/
theorem Parallel.missing {α : Type} {c d : Cursor} (place : d.nextPlace = c.nextPlace)
    (cause : Cause) :
    Parallel n b b' (.error ⟨.at cause (.single c.nextPlace), c⟩ : Outcome α)
      (.error ⟨.at cause (.single d.nextPlace), d⟩) := by
  rw [place]
  exact .rejected _ _ _

variable {scope : Scope} {limit : Nat} {c : Cursor}

/-- **Reading an expression is decided by what comes before its reach.** -/
theorem Reads.parallel {category : Category} {m : Nat} {outcome : Outcome Expr}
    (read : Reads scope limit category m c outcome) (early : reach outcome < n) :
    ∀ d, Twins n b b' c d →
      ∃ outcome', Parallel n b b' outcome outcome' ∧ Reads scope limit category m d outcome' := by
  induction read with
  | @number m c token next found =>
    intro d twins
    obtain ⟨next', found', twins'⟩ :=
      twins.scanWord found (Cursor.offset_lt early)
    exact ⟨_, .ok twins', .number found'⟩
  | @bound m c token next found isSet =>
    intro d twins
    obtain ⟨next', found', twins'⟩ :=
      twins.scanWord found (Cursor.offset_lt early)
    exact ⟨_, .ok twins', .bound found' isSet⟩
  | @unbound m c token next found unset =>
    -- the error stands behind the word, so the character that ends the word is shared
    intro d twins
    have place : token.span.stop = next.offset := by rw [(Cursor.consumes_of_scanWord found).2.1]
    have behind : token.span.stop < n := early
    obtain ⟨next', found', twins'⟩ := twins.scanWord found (by omega)
    exact ⟨_, .rejected _ _ next', .unbound found' unset⟩
  | @tooDeep c token next found =>
    -- the parenthesis itself is shared, which is all it takes
    intro d twins
    have read : Reads scope limit .factor 0 c _ := .tooDeep found
    have here := read.starts_before early
    obtain ⟨next', found'⟩ := twins.scanSymbol found here
    exact ⟨_, .rejected _ _ next', .tooDeep found'⟩
  | @groupFails m c token next rejection found body ih =>
    intro d twins
    have opened := Cursor.offset_lt (body.starts_before early)
    obtain ⟨next', found', twins'⟩ := twins.scanLiteral found opened
    obtain ⟨_, parallel, body'⟩ := ih early next' twins'
    cases parallel with
    | error alike => exact ⟨_, .error alike, .groupFails found' body'⟩
  | @unclosed m c token next e place found body missing ih =>
    intro d twins
    have decided : place.nextPlace < n := early
    have opened := Cursor.offset_lt (body.starts_before decided)
    obtain ⟨next', found', twins'⟩ := twins.scanLiteral found opened
    obtain ⟨_, parallel, body'⟩ := ih decided next' twins'
    cases parallel with
    | ok twinsBody =>
      exact ⟨_, .missing (twinsBody.skipGap decided).2.1 _,
        .unclosed found' body' (twinsBody.no_scanLiteral missing decided)⟩
  | @group m c token next e place closing after found body closed ih =>
    -- places only move on: the group is opened, read and closed before byte `n`
    intro d twins
    have decided : after.offset < n := Cursor.offset_lt early
    have inside := (Cursor.consumes_of_scanLiteral closed).1.starts_before decided
    have opened := Cursor.offset_lt (body.starts_before inside)
    obtain ⟨next', found', twins'⟩ := twins.scanLiteral found opened
    obtain ⟨_, parallel, body'⟩ := ih inside next' twins'
    cases parallel with
    | ok twinsBody =>
      obtain ⟨after', closed', twinsAfter⟩ := twinsBody.scanLiteral closed decided
      exact ⟨_, .ok twinsAfter, .group found' body' closed'⟩
  | @absent m c noNumber noName noParen =>
    -- all three attempts reject the one character at the error
    intro d twins
    exact ⟨_, .missing (twins.skipGap early).2.1 _, .absent (twins.no_scanWord noNumber early)
      (twins.no_scanWord noName early) (twins.no_scanLiteral noParen early)⟩
  | firstFails _ ih =>
    intro d twins
    obtain ⟨_, parallel, first'⟩ := ih early d twins
    cases parallel with
    | error alike => exact ⟨_, .error alike, .firstFails first'⟩
  | @first tier m c left next outcome first chain ihFirst ihChain =>
    intro d twins
    obtain ⟨_, parallel, first'⟩ := ihFirst (chain.starts_before early) d twins
    cases parallel with
    | ok twins' =>
      obtain ⟨outcome', parallel', chain'⟩ := ihChain early _ twins'
      exact ⟨outcome', parallel', .first first' chain'⟩
  | done absent =>
    -- the chain ends at a character that is no operator, and this one is shared
    intro d twins
    exact ⟨_, .ok twins, .done (twins.no_scanTier absent early)⟩
  | @operandFails tier left m c sign after rejection found right ih =>
    intro d twins
    have signed := Cursor.offset_lt (right.starts_before early)
    obtain ⟨after', found', twins'⟩ := twins.scanTier found signed
    obtain ⟨_, parallel, right'⟩ := ih early after' twins'
    cases parallel with
    | error alike => exact ⟨_, .error alike, .operandFails found' right'⟩
  | @more tier left m c sign after operator right next outcome found known operand chain ihRight
      ihChain =>
    intro d twins
    have decided := chain.starts_before early
    have signed := Cursor.offset_lt (operand.starts_before decided)
    obtain ⟨after', found', twins'⟩ := twins.scanTier found signed
    obtain ⟨_, parallel, operand'⟩ := ihRight decided after' twins'
    cases parallel with
    | ok twinsRight =>
      obtain ⟨outcome', parallel', chain'⟩ := ihChain early _ twinsRight
      exact ⟨outcome', parallel', .more found' known operand' chain'⟩

/-- The continuation leaves a string open if one is the error. -/
def LeavesOpen {α : Type} (b' : Text) (outcome : Outcome α) : Prop :=
  ∀ rejection, outcome = .error rejection → rejection.error.cause = .unterminatedString → '"' ∉ b'

theorem leavesOpen_ok {α : Type} {pair : α × Cursor} :
    LeavesOpen b' (.ok pair : Outcome α) := by
  intro rejection same
  cases same

/-- Whether a string is left open does not depend on what was being read. -/
theorem LeavesOpen.cast {α β : Type} {rejection : Rejection}
    (leaves : LeavesOpen b' (.error rejection : Outcome α)) :
    LeavesOpen b' (.error rejection : Outcome β) := by
  intro other same
  cases same
  exact leaves rejection rfl

theorem ReadsItem.parallel {outcome : Outcome Item} (read : ReadsItem scope limit c outcome)
    (early : reach outcome < n) (leaves : LeavesOpen b' outcome) {d : Cursor}
    (twins : Twins n b b' c d) :
    ∃ outcome', Parallel n b b' outcome outcome' ∧ ReadsItem scope limit d outcome' := by
  have here := read.starts_before early
  cases read with
  | unterminated found =>
    -- the open string may end elsewhere, but it begins at the same place
    obtain ⟨_, _, _, rfl⟩ := Cursor.scanString_eq_error_iff.1 found
    obtain ⟨stop, found'⟩ := twins.unclosed_scanString found here (leaves _ rfl rfl)
    refine ⟨.error ⟨.at .unterminatedString ⟨c.nextPlace, stop⟩, d⟩, .error ⟨rfl, rfl, ?_⟩,
      .unterminated found'⟩
    intro other
    exact absurd rfl other
  | @string token next found =>
    have decided : next.nextPlace < n := early
    obtain ⟨next', found', twins'⟩ :=
      twins.scanString found (Cursor.offset_lt decided)
    exact ⟨_, .ok (twins'.observe _ _), .string found'⟩
  | exprFails noString failed =>
    obtain ⟨_, parallel, failed'⟩ := failed.parallel early d twins
    cases parallel with
    | error alike => exact ⟨_, .error alike, .exprFails (twins.no_scanString noString here) failed'⟩
  | @expr e next noString body =>
    have decided : next.nextPlace < n := early
    obtain ⟨_, parallel, body'⟩ := body.parallel decided d twins
    cases parallel with
    | ok twins' =>
      exact ⟨_, .ok (twins'.observe _ _), .expr (twins.no_scanString noString here) body'⟩

theorem ReadsItems.parallel {outcome : Outcome (List Item)}
    (read : ReadsItems scope limit c outcome) (early : reach outcome < n)
    (leaves : LeavesOpen b' outcome) : ∀ d, Twins n b b' c d →
      ∃ outcome', Parallel n b b' outcome outcome' ∧ ReadsItems scope limit d outcome' := by
  induction read with
  | firstFails failed =>
    intro d twins
    obtain ⟨_, parallel, failed'⟩ := failed.parallel early leaves.cast twins
    cases parallel with
    | error alike => exact ⟨_, .error alike, .firstFails failed'⟩
  | @last c item next first noComma =>
    intro d twins
    have decided : next.nextPlace < n := early
    obtain ⟨_, parallel, first'⟩ := first.parallel decided leavesOpen_ok twins
    cases parallel with
    | ok twins' => exact ⟨_, .ok twins', .last first' (twins'.no_scanLiteral noComma decided)⟩
  | @restFails c item next comma after rejection first found others ih =>
    -- an error further right: all items before it are the same in both lines
    intro d twins
    have signed := Cursor.offset_lt (others.starts_before early)
    have decided := (Cursor.consumes_of_scanLiteral found).1.starts_before signed
    obtain ⟨_, parallel, first'⟩ := first.parallel decided leavesOpen_ok twins
    cases parallel with
    | ok twinsItem =>
      obtain ⟨after', found', twinsAfter⟩ := twinsItem.scanLiteral found signed
      obtain ⟨_, parallel', others'⟩ := ih early leaves after' twinsAfter
      cases parallel' with
      | error alike => exact ⟨_, .error alike, .restFails first' found' others'⟩
  | @more c item next comma after items tail first found others ih =>
    intro d twins
    have signed := Cursor.offset_lt (others.starts_before early)
    have decided := (Cursor.consumes_of_scanLiteral found).1.starts_before signed
    obtain ⟨_, parallel, first'⟩ := first.parallel decided leavesOpen_ok twins
    cases parallel with
    | ok twinsItem =>
      obtain ⟨after', found', twinsAfter⟩ := twinsItem.scanLiteral found signed
      obtain ⟨_, parallel', others'⟩ := ih early leavesOpen_ok after' twinsAfter
      cases parallel' with
      | ok twinsTail => exact ⟨_, .ok twinsTail, .more first' found' others'⟩

/-! ## Lines -/

theorem Twins.closed {c d : Cursor} (twins : Twins n b b' c d) {statement : Statement}
    {rejection : Rejection} (notClosed : Statement.closed statement c = .error rejection)
    (early : rejection.error.settledAt < n) :
    ∃ rejection', rejection.error.Alike rejection'.error ∧
      Statement.closed statement d = .error rejection' := by
  obtain ⟨some_left, rfl⟩ := Statement.closed_eq_error_iff.1 notClosed
  have decided : c.nextPlace < n := early
  obtain ⟨same, place, _⟩ := twins.skipGap decided
  refine ⟨⟨.at .endOfLineExpected (.single d.nextPlace), d⟩, ?_, ?_⟩
  · rw [place]
    exact ⟨rfl, rfl, fun _ => rfl⟩
  · refine Statement.closed_eq_error_iff.2 ⟨?_, rfl⟩
    intro none_left
    rw [none_left] at same
    exact some_left (List.head?_eq_none_iff.1 same.symm)

theorem ReadsLet.parallel {rejection : Rejection}
    (read : ReadsLet scope limit c (.error rejection)) (early : rejection.error.settledAt < n)
    {d : Cursor} (twins : Twins n b b' c d) :
    ∃ rejection', rejection.error.Alike rejection'.error ∧
      ReadsLet scope limit d (.error rejection') := by
  cases read with
  | noVariable absent =>
    have decided : c.nextPlace < n := early
    refine ⟨_, ?_, .noVariable (twins.no_scanWord absent decided)⟩
    rw [(twins.skipGap decided).2.1]
    exact ⟨rfl, rfl, fun _ => rfl⟩
  | @noEquals target next found absent =>
    have decided : next.nextPlace < n := early
    obtain ⟨next', found', twins'⟩ :=
      twins.scanWord found (Cursor.offset_lt decided)
    refine ⟨_, ?_, .noEquals found' (twins'.no_scanLiteral absent decided)⟩
    rw [(twins'.skipGap decided).2.1]
    exact ⟨rfl, rfl, fun _ => rfl⟩
  | @sourceFails target next equals after _ found sign failed =>
    have signed := Cursor.offset_lt (failed.starts_before early)
    have named := Cursor.offset_lt ((Cursor.consumes_of_scanLiteral sign).1.starts_before signed)
    obtain ⟨next', found', twins'⟩ := twins.scanWord found named
    obtain ⟨after', sign', twinsAfter⟩ := twins'.scanLiteral sign signed
    obtain ⟨_, parallel, failed'⟩ := failed.parallel early after' twinsAfter
    cases parallel with
    | error alike => exact ⟨_, alike, .sourceFails found' sign' failed'⟩
  | @source target next equals after e tail _ found sign body notClosed =>
    -- the error is about what is left behind the expression
    have decided : tail.nextPlace < n := by
      obtain ⟨_, rfl⟩ := Statement.closed_eq_error_iff.1 notClosed
      exact early
    have signed := Cursor.offset_lt (body.starts_before decided)
    have named := Cursor.offset_lt ((Cursor.consumes_of_scanLiteral sign).1.starts_before signed)
    obtain ⟨next', found', twins'⟩ := twins.scanWord found named
    obtain ⟨after', sign', twinsAfter⟩ := twins'.scanLiteral sign signed
    obtain ⟨_, parallel, body'⟩ := body.parallel decided after' twinsAfter
    cases parallel with
    | ok twinsTail =>
      obtain ⟨rejection', alike, notClosed'⟩ := twinsTail.closed notClosed early
      exact ⟨rejection', alike, .source found' sign' body' notClosed'⟩

theorem ReadsPrint.parallel {rejection : Rejection}
    (read : ReadsPrint scope limit c (.error rejection)) (early : rejection.error.settledAt < n)
    (leaves : rejection.error.cause = .unterminatedString → '"' ∉ b') {d : Cursor}
    (twins : Twins n b b' c d) :
    ∃ rejection', rejection.error.Alike rejection'.error ∧
      ReadsPrint scope limit d (.error rejection') := by
  cases read with
  | itemsFail noEnd failed =>
    have here := failed.starts_before early
    have leavesOpen : LeavesOpen b' (.error rejection : Outcome (List Item)) := by
      intro other same
      cases same
      exact leaves
    obtain ⟨_, parallel, failed'⟩ := failed.parallel early leavesOpen d twins
    cases parallel with
    | error alike => exact ⟨_, alike, .itemsFail (twins.no_scanEndOfLine noEnd here) failed'⟩
  | @items items tail _ noEnd list notClosed =>
    have decided : tail.nextPlace < n := by
      obtain ⟨_, rfl⟩ := Statement.closed_eq_error_iff.1 notClosed
      exact early
    have here := list.starts_before decided
    obtain ⟨_, parallel, list'⟩ := list.parallel decided leavesOpen_ok d twins
    cases parallel with
    | ok twinsTail =>
      obtain ⟨rejection', alike, notClosed'⟩ := twinsTail.closed notClosed early
      exact ⟨rejection', alike, .items (twins.no_scanEndOfLine noEnd here) list' notClosed'⟩

theorem ReadsLet.le_settledAt {rejection : Rejection}
    (read : ReadsLet scope limit c (.error rejection)) :
    c.nextPlace ≤ rejection.error.settledAt := by
  cases read with
  | noVariable => exact Nat.le_refl _
  | noEquals found _ => exact (Cursor.consumes_of_scanWord found).1.le_nextPlace
  | sourceFails found sign failed =>
    exact Nat.le_trans (Cursor.consumes_of_scanWord found).1.le_nextPlace
      (Nat.le_trans (Cursor.consumes_of_scanLiteral sign).1.le_nextPlace failed.le_reach)
  | source found sign body notClosed =>
    obtain ⟨_, rfl⟩ := Statement.closed_eq_error_iff.1 notClosed
    exact Nat.le_trans (Cursor.consumes_of_scanWord found).1.le_nextPlace
      (Nat.le_trans (Cursor.consumes_of_scanLiteral sign).1.le_nextPlace body.le_reach)

theorem ReadsPrint.le_settledAt {rejection : Rejection}
    (read : ReadsPrint scope limit c (.error rejection)) :
    c.nextPlace ≤ rejection.error.settledAt := by
  cases read with
  | itemsFail _ failed => exact failed.le_reach
  | items _ list notClosed =>
    obtain ⟨_, rfl⟩ := Statement.closed_eq_error_iff.1 notClosed
    exact list.le_reach

/-- **A rejection is decided by what comes before its place**, on the lines
that share this much. -/
theorem ReadsLine.parallel {line line' : Text} {rejection : Rejection}
    (read : ReadsLine scope limit line (.error rejection)) (early : rejection.error.settledAt < n)
    (leaves : rejection.error.cause = .unterminatedString → '"' ∉ b')
    (twins : Twins n b b' (.start line) (.start line')) :
    ∃ rejection', rejection.error.Alike rejection'.error ∧
      ReadsLine scope limit line' (.error rejection') := by
  cases read with
  | noKeyword absent =>
    have decided : (Cursor.start line).nextPlace < n := early
    refine ⟨_, ?_, .noKeyword (twins.no_scanWord absent decided)⟩
    rw [(twins.skipGap decided).2.1]
    exact ⟨rfl, rfl, fun _ => rfl⟩
  | @unknown word next found notLet notPrint =>
    have place : word.span.stop = next.offset := by rw [(Cursor.consumes_of_scanWord found).2.1]
    have behind : word.span.stop < n := early
    obtain ⟨next', found', _⟩ := twins.scanWord found (by omega)
    refine ⟨_, ?_, .unknown found' notLet notPrint⟩
    exact ⟨rfl, rfl, fun _ => rfl⟩
  | @assign word next _ found isLet rest =>
    have dispatched : next.offset < n :=
      Cursor.offset_lt (Nat.lt_of_le_of_lt rest.le_settledAt early)
    obtain ⟨next', found', twins'⟩ := twins.scanWord found dispatched
    obtain ⟨rejection', alike, rest'⟩ := rest.parallel early (twins'.observe _ _)
    exact ⟨rejection', alike, .assign found' isLet rest'⟩
  | @print word next _ found isPrint rest =>
    have dispatched : next.offset < n :=
      Cursor.offset_lt (Nat.lt_of_le_of_lt rest.le_settledAt early)
    obtain ⟨next', found', twins'⟩ := twins.scanWord found dispatched
    obtain ⟨rejection', alike, rest'⟩ := rest.parallel early leaves (twins'.observe _ _)
    exact ⟨rejection', alike, .print found' isPrint rest'⟩

end Twins

/-! ## Execution -/

/-- Lines that share a front are twins from their start. -/
theorem twins_start (front after after' : Text) :
    Twins (byteSize front) after after' (.start (front ++ after)) (.start (front ++ after')) := by
  refine ⟨rfl, front, rfl, rfl, ?_⟩
  show 0 + byteSize front = byteSize front
  omega

/-- A line that begins like a rejected one, up to the last character that the
rejection depends on, is rejected alike. -/
theorem rejected_alike_behind {store : Store} {before after after' : Text} {ch : Char}
    {error : LineError} (failed : (execute store (before ++ ch :: after)).outcome = .error error)
    (settled : error.settledAt ≤ byteSize before)
    (leaves : error.cause = .unterminatedString → '"' ∉ after') :
    ∃ error', error.Alike error' ∧
      (execute store (before ++ ch :: after')).outcome = .error error' := by
  obtain ⟨place₁, read⟩ := outcome_eq_error_iff.1 failed
  have split : ∀ rest, before ++ ch :: rest = (before ++ [ch]) ++ rest := by simp
  rw [split] at read
  have early : error.settledAt < byteSize (before ++ [ch]) := by
    have size := ch.utf8Size_pos
    rw [byteSize_append, byteSize, byteSize]
    omega
  obtain ⟨⟨error', place'⟩, alike, read'⟩ :=
    read.parallel early leaves (twins_start (before ++ [ch]) after after')
  rw [← split] at read'
  exact ⟨error', alike, outcome_eq_error_iff.2 ⟨place', read'⟩⟩

/-- A line that begins like a rejected one, up to the character at the place
that decided the rejection, is rejected alike. -/
theorem rejected_alike {store : Store} {before after after' : Text} {ch : Char} {error : LineError}
    (failed : (execute store (before ++ ch :: after)).outcome = .error error)
    (place : byteSize before = error.decidedAt)
    (leaves : error.cause = .unterminatedString → '"' ∉ after') :
    ∃ error', error.Alike error' ∧
      (execute store (before ++ ch :: after')).outcome = .error error' :=
  rejected_alike_behind failed (place ▸ error.settledAt_le) leaves

/-- **Errors are decided by the text up to them.** However a rejected line goes
on behind the character at the place that decided its error, the error stays
the same. If the error is an open string, a quote stands at its place, and
however the line goes on behind this quote without another one, there is an
open string at the same place. -/
theorem error_decided_by_text_before {store : Store} {line : Text} {error : LineError}
    (failed : (execute store line).outcome = .error error) :
    (error.cause ≠ .unterminatedString →
      ∀ before ch after, line = before ++ ch :: after → byteSize before = error.decidedAt →
        ∀ after', (execute store (before ++ ch :: after')).outcome = .error error) ∧
    (error.cause = .unterminatedString →
      ∃ before after, line = before ++ '"' :: after ∧ byteSize before = error.span.start ∧
        ∀ after', '"' ∉ after' → ∃ error',
          (execute store (before ++ '"' :: after')).outcome = .error error' ∧
            error'.cause = .unterminatedString ∧ error'.span.start = error.span.start) := by
  refine ⟨?_, ?_⟩
  · -- any other error comes out the same, down to its span and help
    rintro other before ch after rfl place after'
    obtain ⟨error', alike, failed'⟩ :=
      rejected_alike failed place fun isOpen => absurd isOpen other
    rw [failed', alike.same other]
  · intro isOpen
    obtain ⟨_, read⟩ := outcome_eq_error_iff.1 failed
    obtain ⟨before, marked, after, rfl, marks, blames⟩ := read.pointed
    -- an open string is blamed on its quote and all that is behind it
    rw [show error.cause = _ from isOpen] at blames
    obtain ⟨⟨tail, rfl, _⟩, rfl⟩ := blames
    rw [List.append_nil] at failed ⊢
    have place : byteSize before = error.decidedAt := by
      rw [LineError.decidedAt, isOpen]
      exact marks.start.symm
    refine ⟨before, tail, rfl, marks.start.symm, ?_⟩
    intro after' plain
    obtain ⟨error', alike, failed'⟩ := rejected_alike failed place fun _ => plain
    exact ⟨error', failed', alike.cause.trans isOpen, alike.start⟩

/-- An undefined variable wins over every mistake behind it. -/
theorem undefined_variable_wins :
    (execute .empty ['p', 'r', 'i', 'n', 't', ' ', '1', '+', 'é', ')', '+']).outcome =
      .error (.at (.variableNotFound ['é']) ⟨8, 10⟩) ∧
    ∀ after, (execute .empty
      (['p', 'r', 'i', 'n', 't', ' ', '1', '+', 'é'] ++ ')' :: after)).outcome =
      .error (.at (.variableNotFound ['é']) ⟨8, 10⟩) := by
  have failed : (execute .empty ['p', 'r', 'i', 'n', 't', ' ', '1', '+', 'é', ')', '+']).outcome =
      .error (.at (.variableNotFound ['é']) ⟨8, 10⟩) := by decide +kernel
  refine ⟨failed, ?_⟩
  exact (error_decided_by_text_before failed).1 (by decide)
    ['p', 'r', 'i', 'n', 't', ' ', '1', '+', 'é'] ')' ['+'] rfl rfl

end LineBasic
