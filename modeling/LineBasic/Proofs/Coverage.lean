import LineBasic.Proofs.Advance

/-!
# No text is skipped or used twice

The tokens matched on a line stand one behind the other, and whatever lies
before the place that was reached is accounted for: it belongs to one of them,
or it is white space or the quote of a string.

* **step** — taking a token keeps this account (`Accounted.advance`), since the
  token begins behind the gap at the cursor and the cursor moves behind it;
* **run** — so it holds wherever a line is given up (`Accounted.advances`) and
  at its end (`Accounted.skipGap`): **`tokens_account_for_line`**.
-/

namespace LineBasic

/-! ## Tokens of a trace -/

/-- The token that an observation is about. -/
def Event.token? : Event → Option Token
  | .matched token => some token
  | _ => none

/-- The tokens matched in the course of some observations. -/
def matchedTokens (events : List Event) : List Token := events.filterMap Event.token?

/-- A token that ends before another one begins. -/
def Token.Precedes (token other : Token) : Prop :=
  token.span.stop ≤ other.span.start ∧ token.span.start < other.span.start

/-- The byte at a place is in the span. -/
def Span.Contains (span : Span) (place : Nat) : Prop := span.start ≤ place ∧ place < span.stop

/-- The place is that of a quote around the token. -/
def Token.QuotedAt (token : Token) (place : Nat) : Prop :=
  token.kind = .string ∧ (place + 1 = token.span.start ∨ place = token.span.stop)

/-- What becomes of a character at a place: it is part of a token, or white
space, or the quote of a string. -/
def AccountsFor (tokens : List Token) (ch : Char) (place : Nat) : Prop :=
  (∃ token ∈ tokens, token.span.Contains place) ∨ isGap ch = true ∨
    (ch = '"' ∧ ∃ token ∈ tokens, token.QuotedAt place)

theorem AccountsFor.mono {tokens more : List Token} {ch : Char} {place : Nat}
    (accounts : AccountsFor tokens ch place) (subset : ∀ token ∈ tokens, token ∈ more) :
    AccountsFor more ch place := by
  rcases accounts with ⟨token, member, inside⟩ | gap | ⟨quote, token, member, around⟩
  · exact .inl ⟨token, subset token member, inside⟩
  · exact .inr (.inl gap)
  · exact .inr (.inr ⟨quote, token, subset token member, around⟩)

/-- A token that precedes another one shares no place with it. -/
theorem Token.Precedes.apart {token other : Token} (precedes : token.Precedes other) {place : Nat}
    (inside : token.span.Contains place) : ¬ other.span.Contains place := by
  intro inside'
  have before := precedes.1
  have stop := inside.2
  have start := inside'.1
  omega

/-- Among tokens one behind the other, a place is in the span of only one. -/
theorem eq_of_contains {tokens : List Token} (ordered : tokens.Pairwise Token.Precedes)
    {token other : Token} (member : token ∈ tokens) (member' : other ∈ tokens) {place : Nat}
    (inside : token.span.Contains place) (inside' : other.span.Contains place) :
    other = token := by
  induction tokens with
  | nil => cases member
  | cons first rest ih =>
    obtain ⟨before, restOrdered⟩ := List.pairwise_cons.1 ordered
    rcases List.mem_cons.1 member with rfl | later
    · rcases List.mem_cons.1 member' with rfl | later'
      · rfl
      · exact absurd inside' ((before other later').apart inside)
    · rcases List.mem_cons.1 member' with rfl | later'
      · exact absurd inside ((before token later).apart inside')
      · exact ih restOrdered later later'

/-! ## The invariant -/

/-- The text up to the cursor is accounted for by the tokens observed so far,
latest first. -/
structure Accounted (line : Text) (c : Cursor) : Prop where
  onLine : OnLine line c
  holds : ∀ token ∈ matchedTokens c.trace, token.span.Holds line token.lexeme
  behind : ∀ token ∈ matchedTokens c.trace,
    token.span.stop ≤ c.offset ∧ token.span.start < c.offset
  ordered : (matchedTokens c.trace).Pairwise fun later earlier => earlier.Precedes later
  covered : ∀ before ch after, line = before ++ ch :: after → byteSize before < c.offset →
    AccountsFor (matchedTokens c.trace) ch (byteSize before)

namespace Accounted

variable {line : Text} {c next : Cursor}

theorem start (line : Text) : Accounted line (.start line) where
  onLine := .start line
  holds := by
    intro token member
    cases member
  behind := by
    intro token member
    cases member
  ordered := .nil
  covered := by
    intro before ch after _ early
    exact absurd early (Nat.not_lt_zero _)

/-- White space in front of the next token is accounted for. -/
theorem covered_gap (accounted : Accounted line c) {before after : Text} {ch : Char}
    (whole : line = before ++ ch :: after) (early : byteSize before < c.nextPlace) :
    AccountsFor (matchedTokens c.trace) ch (byteSize before) := by
  by_cases old : byteSize before < c.offset
  · exact accounted.covered before ch after whole old
  · obtain ⟨front, split, offset⟩ := accounted.onLine
    obtain ⟨gap, all, rest, place⟩ := c.rest_eq_gap_append
    have same : front ++ (gap ++ c.skipGap.rest) = before ++ ch :: after := by
      rw [← rest, ← split, whole]
    exact .inr (.inl (all ch (mem_of_byteSize_lt same (by omega) (by omega))))

/-- The cursor may go on to the next token. -/
theorem skipGap (accounted : Accounted line c) : Accounted line c.skipGap where
  onLine := accounted.onLine.skipGap
  holds := accounted.holds
  behind := by
    intro token member
    have reached := accounted.behind token member
    have onward := c.offset_le_nextPlace
    rw [Cursor.skipGap_offset]
    omega
  ordered := accounted.ordered
  covered _ _ _ whole early := accounted.covered_gap whole early

/-- A character of a taken token is in its span or is one of its quotes. -/
theorem covered_token {token : Token} (takes : c.Takes token next) (on : OnLine line c)
    {before after : Text} {ch : Char} (whole : line = before ++ ch :: after)
    (late : c.nextPlace ≤ byteSize before) (early : byteSize before < next.offset) :
    token.span.Contains (byteSize before) ∨ (ch = '"' ∧ token.QuotedAt (byteSize before)) := by
  have start := takes.start
  have stop := takes.stop
  by_cases inside : token.span.Contains (byteSize before)
  · exact .inl inside
  · -- what is spelled of a token but not in its span are the quotes of a string
    have quoted : token.kind = .string := by
      by_contra plain
      have none_around := Token.margin_of_plain plain
      simp only [Span.Contains] at inside
      omega
    have margin : token.margin = 1 := by
      unfold Token.margin
      rw [quoted]
    have place : byteSize before + 1 = token.span.start ∨ byteSize before = token.span.stop := by
      simp only [Span.Contains] at inside
      omega
    refine .inr ⟨?_, quoted, place⟩
    obtain ⟨front, split, offset⟩ := on.skipGap
    rw [takes.consumes.rest, Token.spelling_of_string quoted] at split
    rw [Cursor.skipGap_offset] at offset
    have size := takes.size
    rcases place with opening | closing
    · have same : front ++ (['"'] ++ (token.lexeme ++ '"' :: next.rest)) =
          before ++ ch :: after := by
        rw [← whole, split]
        simp
      have one : byteSize ['"'] = 1 := rfl
      have member := mem_of_byteSize_lt same (by omega) (by omega)
      exact List.mem_singleton.1 member
    · have same : (front ++ '"' :: token.lexeme) ++ (['"'] ++ next.rest) =
          before ++ ch :: after := by
        rw [← whole, split]
        simp
      have quote : ('"' : Char).utf8Size = 1 := rfl
      have one : byteSize ['"'] = 1 := rfl
      have through : byteSize (front ++ '"' :: token.lexeme) =
          c.nextPlace + 1 + byteSize token.lexeme := by
        rw [byteSize_append, byteSize, quote, ← offset, Nat.add_assoc]
      have member := mem_of_byteSize_lt same (by omega) (by omega)
      exact List.mem_singleton.1 member

/-- **Step.** The account is kept as a token is taken. -/
theorem advance (accounted : Accounted line c) (step : c.Advance next) : Accounted line next := by
  cases step with
  | @remark event other =>
    have same : matchedTokens (c.observe event).trace = matchedTokens c.trace := by
      cases event with
      | matched token => exact absurd rfl (other token)
      | _ => rfl
    refine ⟨accounted.onLine, ?_, ?_, ?_, ?_⟩
    · rw [same]
      exact accounted.holds
    · rw [same]
      exact accounted.behind
    · rw [same]
      exact accounted.ordered
    · rw [same]
      exact accounted.covered
  | @token token _ takes nonempty trace =>
    have tokens : matchedTokens next.trace = token :: matchedTokens c.trace := by
      rw [trace]
      rfl
    have onward := c.offset_le_nextPlace
    have start := takes.start
    have stop := takes.stop
    have size := takes.size
    -- a token that is spelled at all is behind its own start
    have longer : token.span.start < next.offset := by
      have spelled : 0 < byteSize token.spelling := byteSize_pos nonempty
      rw [Token.spelling, byteSize_append, byteSize_append, Token.byteSize_quote] at spelled
      omega
    refine ⟨accounted.onLine.consumes takes.consumes, ?_, ?_, ?_, ?_⟩
    · intro other member
      rw [tokens] at member
      rcases List.mem_cons.1 member with rfl | earlier
      · exact takes.holds accounted.onLine
      · exact accounted.holds other earlier
    · intro other member
      rw [tokens] at member
      rcases List.mem_cons.1 member with rfl | earlier
      · omega
      · have reached := accounted.behind other earlier
        omega
    · rw [tokens]
      refine List.pairwise_cons.2 ⟨?_, accounted.ordered⟩
      intro other earlier
      have reached := accounted.behind other earlier
      unfold Token.Precedes
      omega
    · intro before ch after whole early
      rw [tokens]
      by_cases old : byteSize before < c.nextPlace
      · exact (accounted.covered_gap whole old).mono fun _ => List.mem_cons_of_mem _
      · rcases covered_token takes accounted.onLine whole (by omega) early with inside | quoted
        · exact .inl ⟨token, List.mem_cons_self, inside⟩
        · exact .inr (.inr ⟨quoted.1, token, List.mem_cons_self, quoted.2⟩)

/-- **Run.** The account is kept wherever reading leads. -/
theorem advances (accounted : Accounted line c) (leads : c.Advances next) :
    Accounted line next := by
  induction leads with
  | refl => exact accounted
  | tail _ step ih => exact ih.advance step

end Accounted

/-! ## Lines -/

theorem matchedTokens_reverse (events : List Event) :
    matchedTokens events.reverse = (matchedTokens events).reverse := List.filterMap_reverse ..

/-- What an effect adds to the observations is about no token. -/
theorem matchedTokens_events (effect : Effect) : matchedTokens effect.events = [] := by
  cases effect <;> rfl

/-- The tokens that an execution shows are those of the place that was
reached. -/
theorem matchedTokens_execution (limit : Nat) (store : Store) (line : Text) :
    matchedTokens (executeWithin limit store line).trace =
      (matchedTokens (Outcome.reached (Statement.read store.isSet limit line)).trace).reverse := by
  rw [← matchedTokens_reverse]
  rw [executeWithin_eq]
  cases Statement.read store.isSet limit line with
  | error rejection => rfl
  | ok pair =>
    obtain ⟨statement, lineEnd⟩ := pair
    simp only [matchedTokens, List.filterMap_append]
    rw [← matchedTokens, ← matchedTokens, matchedTokens_events, List.append_nil]
    rfl

/-- Evaluating a line stops where reading it does. -/
theorem Evaluator.reached_line (store : Store) (limit : Nat) (line : Text) :
    Outcome.reached (Evaluator.line store limit line) =
      Outcome.reached (Statement.read store.isSet limit line) := by
  rw [line_eq]
  cases Statement.read store.isSet limit line with
  | error rejection => rfl
  | ok found => rfl

/-- Where reading a line ends, all that is before is accounted for. -/
theorem Finishes.accounted {line : Text} {outcome : Outcome Statement}
    (finishes : Finishes (.start line) outcome) : Accounted line (Outcome.reached outcome) := by
  have begun := Accounted.start line
  cases finishes with
  | rejected leads => exact begun.advances leads
  | read leads _ => exact (begun.advances leads).skipGap

/-- **No text of a line is skipped or used twice.** The tokens matched on a
line stand one behind the other, each where its span says. Every character
before the place that was reached is either part of exactly one of them, or
part of none and white space or a quote around a string. If the line is not
rejected, then this place is its end. -/
theorem tokens_account_for_line (store : Store) (line : Text) :
    (matchedTokens (execute store line).trace).Pairwise Token.Precedes ∧
    (∀ token ∈ matchedTokens (execute store line).trace, token.span.Holds line token.lexeme) ∧
    (∀ before ch after, line = before ++ ch :: after →
      byteSize before < (Outcome.reached (Evaluator.line store nestingLimit line)).offset →
      (∃! token, token ∈ matchedTokens (execute store line).trace ∧
        token.span.Contains (byteSize before)) ∨
      (∀ token ∈ matchedTokens (execute store line).trace,
        ¬ token.span.Contains (byteSize before)) ∧
        (isGap ch = true ∨ (ch = '"' ∧ ∃ token ∈ matchedTokens (execute store line).trace,
          token.QuotedAt (byteSize before)))) ∧
    ∀ effect, (execute store line).outcome = .ok effect →
      (Outcome.reached (Evaluator.line store nestingLimit line)).offset = byteSize line := by
  rw [Evaluator.reached_line]
  have read := Statement.read_iff.1 (rfl : Statement.read store.isSet nestingLimit line = _)
  have accounted := read.finishes.accounted
  have tokens : matchedTokens (execute store line).trace = _ :=
    matchedTokens_execution nestingLimit store line
  have ordered : (matchedTokens (execute store line).trace).Pairwise Token.Precedes := by
    rw [tokens, List.pairwise_reverse]
    exact accounted.ordered
  refine ⟨ordered, ?_, ?_, ?_⟩
  · intro token member
    rw [tokens, List.mem_reverse] at member
    exact accounted.holds token member
  · intro before ch after whole early
    have accounts : AccountsFor (matchedTokens (execute store line).trace) ch
        (byteSize before) := by
      apply (accounted.covered before ch after whole early).mono
      intro token member
      rwa [tokens, List.mem_reverse]
    by_cases inside : ∃ token ∈ matchedTokens (execute store line).trace,
        token.span.Contains (byteSize before)
    · obtain ⟨token, member, contains⟩ := inside
      refine .inl ⟨token, ⟨member, contains⟩, ?_⟩
      rintro other ⟨member', contains'⟩
      exact eq_of_contains ordered member member' contains contains'
    · refine .inr ⟨fun token member contains => inside ⟨token, member, contains⟩, ?_⟩
      rcases accounts with within | gap | quoted
      · exact absurd within inside
      · exact .inl gap
      · exact .inr quoted
  · intro effect done
    obtain ⟨statement, lineEnd, read', _⟩ := outcome_eq_ok_iff.1 done
    rw [Statement.read_iff.2 read']
    cases read'.finishes with
    | @read _ d leads none_left =>
      -- nothing is left behind the gap, so the place is the end of the line
      obtain ⟨before, split, offset⟩ := ((Accounted.start line).advances leads).onLine.skipGap
      rw [none_left, List.append_nil] at split
      rw [split]
      exact offset

end LineBasic
