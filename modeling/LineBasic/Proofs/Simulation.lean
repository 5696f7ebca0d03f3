import LineBasic.Proofs.LineReading

/-!
# Lines read in step

Reading sees a line through its matchers only. If cursors of two lines are
related so that every matcher finds at both nothing, or finds tokens that count
as the same and lead to related cursors again, the two lines are read in step
(`Tracks`): into the same tree, or into errors of one cause whose places
correspond.

What the relation is and which places correspond is left open here. To compare
lines in a new way it is enough to prove its `Tracks`, one field for each
matcher.

* **step** — the fields of `Tracks`;
* **run** — one induction over the rules of reading (`Reads.inStep`), carried on
  to lines (`ReadsLine.inStep`).

Main result: **`Tracks.execute`**, in-step lines have the same effect, or errors
with the same cause and help.
-/

namespace LineBasic

variable {related : Cursor → Cursor → Prop} {samePlace : Span → Span → Prop}

/-! ## What counts as the same -/

/-- Errors that differ at most in their places, which correspond. -/
structure LineError.Like (samePlace : Span → Span → Prop) (error error' : LineError) : Prop where
  cause : error'.cause = error.cause
  help : error'.help = error.help
  place : samePlace error.span error'.span

theorem LineError.like_at {span span' : Span} (cause : Cause) (place : samePlace span span') :
    (LineError.at cause span).Like samePlace (.at cause span') := ⟨rfl, rfl, place⟩

/-- Two matches with the same answer, where `view` is what counts of a lexeme. -/
inductive MatchInStep (related : Cursor → Cursor → Prop) (samePlace : Span → Span → Prop)
    (view : Text → Text) : Option (Token × Cursor) → Option (Token × Cursor) → Prop
  | absent : MatchInStep related samePlace view none none
  | found {token token' next next'} :
      view token'.lexeme = view token.lexeme → samePlace token.span token'.span →
      related next next' →
      MatchInStep related samePlace view (some (token, next)) (some (token', next'))

/-- Two searches for a string with the same answer. -/
inductive StringInStep (related : Cursor → Cursor → Prop) (samePlace : Span → Span → Prop) :
    Except LineError (Option (Token × Cursor)) → Except LineError (Option (Token × Cursor)) → Prop
  | closed {found found'} : MatchInStep related samePlace id found found' →
      StringInStep related samePlace (.ok found) (.ok found')
  | unclosed {error error'} : error.Like samePlace error' →
      StringInStep related samePlace (.error error) (.error error')

/-- The characters that are looked for one at a time and are no operators. -/
def separators : List Char := ['(', ')', ',', '=']

/-- Every matcher gives the same answer at related cursors. -/
structure Tracks (related : Cursor → Cursor → Prop) (samePlace : Span → Span → Prop) : Prop where
  observe {c d : Cursor} (event event' : Event) : related c d →
    related (c.observe event) (d.observe event')
  nextPlace {c d : Cursor} : related c d →
    samePlace (.single c.nextPlace) (.single d.nextPlace)
  keyword {c d : Cursor} : related c d →
    MatchInStep related samePlace fold c.scanKeyword d.scanKeyword
  name {c d : Cursor} : related c d →
    MatchInStep related samePlace fold c.scanVariable d.scanVariable
  number {c d : Cursor} : related c d →
    MatchInStep related samePlace id c.scanNumber d.scanNumber
  symbol {c d : Cursor} {symbol : Char} : symbol ∈ separators → related c d →
    MatchInStep related samePlace id (c.scanLiteral [symbol]) (d.scanLiteral [symbol])
  sign {c d : Cursor} (tier : Tier) : related c d →
    MatchInStep related samePlace id (tier.scan c) (tier.scan d)
  string {c d : Cursor} : related c d → StringInStep related samePlace c.scanString d.scanString
  lineEnd {c d : Cursor} : related c d →
    MatchInStep related samePlace id c.scanEndOfLine d.scanEndOfLine

namespace MatchInStep

variable {view : Text → Text} {match₁ match₂ : Option (Token × Cursor)}

theorem of_absent (inStep : MatchInStep related samePlace view match₁ match₂)
    (absent : match₁ = none) : match₂ = none := by
  subst absent
  cases inStep
  rfl

theorem of_found (inStep : MatchInStep related samePlace view match₁ match₂) {token : Token}
    {next : Cursor} (found : match₁ = some (token, next)) :
    ∃ token' next', match₂ = some (token', next') ∧ view token'.lexeme = view token.lexeme ∧
      samePlace token.span token'.span ∧ related next next' := by
  subst found
  cases inStep with
  | found lexeme place next => exact ⟨_, _, rfl, lexeme, place, next⟩

end MatchInStep

namespace StringInStep

variable {search search' : Except LineError (Option (Token × Cursor))}

theorem of_absent (inStep : StringInStep related samePlace search search')
    (absent : search = .ok none) : search' = .ok none := by
  subst absent
  cases inStep with
  | closed found =>
    cases found
    rfl

theorem of_found (inStep : StringInStep related samePlace search search') {token : Token}
    {next : Cursor} (found : search = .ok (some (token, next))) :
    ∃ token' next', search' = .ok (some (token', next')) ∧ token'.lexeme = token.lexeme ∧
      related next next' := by
  subst found
  cases inStep with
  | closed found =>
    cases found with
    | found lexeme _ next => exact ⟨_, _, rfl, lexeme, next⟩

theorem of_unclosed (inStep : StringInStep related samePlace search search') {error : LineError}
    (unclosed : search = .error error) :
    ∃ error', search' = .error error' ∧ error.Like samePlace error' := by
  subst unclosed
  cases inStep with
  | unclosed like => exact ⟨_, rfl, like⟩

end StringInStep

/-! ## Reading in step -/

/-- Readings with the same result: one value and related cursors, or errors that
are alike. -/
inductive OutcomeInStep {α : Type} (related : Cursor → Cursor → Prop)
    (samePlace : Span → Span → Prop) : Outcome α → Outcome α → Prop
  | ok {value next next'} : related next next' →
      OutcomeInStep related samePlace (.ok (value, next)) (.ok (value, next'))
  | error {rejection rejection'} : rejection.error.Like samePlace rejection'.error →
      OutcomeInStep related samePlace (.error rejection) (.error rejection')

section Reading

variable {scope : Scope} {limit : Nat} (tracks : Tracks related samePlace)
include tracks

/-- **Run.** Expressions at related cursors are read in step. -/
theorem Reads.inStep {category : Category} {m : Nat} {c : Cursor} {outcome : Outcome Expr}
    (read : Reads scope limit category m c outcome) : ∀ d, related c d →
      ∃ outcome', OutcomeInStep related samePlace outcome outcome' ∧
        Reads scope limit category m d outcome' := by
  induction read with
  | number found =>
    intro d rel
    obtain ⟨token', next', found', lexeme, _, rel'⟩ := (tracks.number rel).of_found found
    rw [id_eq, id_eq] at lexeme
    refine ⟨_, .ok rel', ?_⟩
    rw [← lexeme]
    exact .number found'
  | bound found isSet =>
    intro d rel
    obtain ⟨token', next', found', folded, _, rel'⟩ := (tracks.name rel).of_found found
    refine ⟨_, .ok rel', ?_⟩
    rw [← folded] at isSet ⊢
    exact .bound found' isSet
  | unbound found unset =>
    intro d rel
    obtain ⟨token', next', found', folded, place, _⟩ := (tracks.name rel).of_found found
    rw [← folded] at unset ⊢
    exact ⟨_, .error (LineError.like_at _ place), .unbound found' unset⟩
  | tooDeep found =>
    intro d rel
    obtain ⟨_, next', found', _, place, _⟩ := (tracks.symbol (by decide) rel).of_found found
    exact ⟨_, .error (LineError.like_at _ place), .tooDeep found'⟩
  | groupFails found _ ih =>
    intro d rel
    obtain ⟨_, next', found', _, _, rel'⟩ := (tracks.symbol (by decide) rel).of_found found
    obtain ⟨_, inStep, body'⟩ := ih next' rel'
    cases inStep with
    | error like => exact ⟨_, .error like, .groupFails found' body'⟩
  | unclosed found _ missing ih =>
    intro d rel
    obtain ⟨_, next', found', _, _, rel'⟩ := (tracks.symbol (by decide) rel).of_found found
    obtain ⟨_, inStep, body'⟩ := ih next' rel'
    cases inStep with
    | ok relBody =>
      exact ⟨_, .error (LineError.like_at _ (tracks.nextPlace relBody)),
        .unclosed found' body' ((tracks.symbol (by decide) relBody).of_absent missing)⟩
  | group found _ closed ih =>
    intro d rel
    obtain ⟨_, next', found', _, _, rel'⟩ := (tracks.symbol (by decide) rel).of_found found
    obtain ⟨_, inStep, body'⟩ := ih next' rel'
    cases inStep with
    | ok relBody =>
      obtain ⟨_, after', closed', _, _, relAfter⟩ :=
        (tracks.symbol (by decide) relBody).of_found closed
      exact ⟨_, .ok relAfter, .group found' body' closed'⟩
  | absent noNumber noName noParen =>
    intro d rel
    exact ⟨_, .error (LineError.like_at _ (tracks.nextPlace rel)),
      .absent ((tracks.number rel).of_absent noNumber) ((tracks.name rel).of_absent noName)
        ((tracks.symbol (by decide) rel).of_absent noParen)⟩
  | firstFails _ ih =>
    intro d rel
    obtain ⟨_, inStep, first'⟩ := ih d rel
    cases inStep with
    | error like => exact ⟨_, .error like, .firstFails first'⟩
  | first _ _ ihFirst ihChain =>
    intro d rel
    obtain ⟨_, inStep, first'⟩ := ihFirst d rel
    cases inStep with
    | ok relNext =>
      obtain ⟨outcome', inStep', chain'⟩ := ihChain _ relNext
      exact ⟨outcome', inStep', .first first' chain'⟩
  | done absent =>
    intro d rel
    exact ⟨_, .ok rel, .done ((tracks.sign _ rel).of_absent absent)⟩
  | operandFails found _ ih =>
    intro d rel
    obtain ⟨_, after', found', _, _, relAfter⟩ := (tracks.sign _ rel).of_found found
    obtain ⟨_, inStep, right'⟩ := ih after' relAfter
    cases inStep with
    | error like => exact ⟨_, .error like, .operandFails found' right'⟩
  | more found known _ _ ihRight ihChain =>
    -- the same sign is found, so both chains go on with the same operator
    intro d rel
    obtain ⟨sign', after', found', lexeme, _, relAfter⟩ := (tracks.sign _ rel).of_found found
    obtain ⟨_, inStep, operand'⟩ := ihRight after' relAfter
    rw [id_eq, id_eq] at lexeme
    rw [← lexeme] at known
    cases inStep with
    | ok relRight =>
      obtain ⟨outcome', inStep', chain'⟩ := ihChain _ relRight
      exact ⟨outcome', inStep', .more found' known operand' chain'⟩

theorem ReadsItem.inStep {c d : Cursor} {outcome : Outcome Item}
    (read : ReadsItem scope limit c outcome) (rel : related c d) :
    ∃ outcome', OutcomeInStep related samePlace outcome outcome' ∧
      ReadsItem scope limit d outcome' := by
  cases read with
  | unterminated found =>
    obtain ⟨error', found', like⟩ := (tracks.string rel).of_unclosed found
    exact ⟨_, .error like, .unterminated found'⟩
  | string found =>
    obtain ⟨token', next', found', lexeme, rel'⟩ := (tracks.string rel).of_found found
    have read : ReadsItem scope limit d (.ok (.string token'.lexeme, _)) := .string found'
    rw [lexeme] at read
    exact ⟨_, .ok (tracks.observe _ _ rel'), read⟩
  | exprFails noString failed =>
    obtain ⟨_, inStep, failed'⟩ := failed.inStep tracks d rel
    cases inStep with
    | error like =>
      exact ⟨_, .error like, .exprFails ((tracks.string rel).of_absent noString) failed'⟩
  | expr noString body =>
    obtain ⟨_, inStep, body'⟩ := body.inStep tracks d rel
    cases inStep with
    | ok rel' =>
      exact ⟨_, .ok (tracks.observe _ _ rel'),
        .expr ((tracks.string rel).of_absent noString) body'⟩

theorem ReadsItems.inStep {c : Cursor} {outcome : Outcome (List Item)}
    (read : ReadsItems scope limit c outcome) : ∀ d, related c d →
      ∃ outcome', OutcomeInStep related samePlace outcome outcome' ∧
        ReadsItems scope limit d outcome' := by
  induction read with
  | firstFails failed =>
    intro d rel
    obtain ⟨_, inStep, failed'⟩ := failed.inStep tracks rel
    cases inStep with
    | error like => exact ⟨_, .error like, .firstFails failed'⟩
  | last first noComma =>
    intro d rel
    obtain ⟨_, inStep, first'⟩ := first.inStep tracks rel
    cases inStep with
    | ok rel' =>
      exact ⟨_, .ok rel', .last first' ((tracks.symbol (by decide) rel').of_absent noComma)⟩
  | restFails first found _ ih =>
    intro d rel
    obtain ⟨_, inStep, first'⟩ := first.inStep tracks rel
    cases inStep with
    | ok relItem =>
      obtain ⟨_, after', found', _, _, relAfter⟩ :=
        (tracks.symbol (by decide) relItem).of_found found
      obtain ⟨_, inStep', others'⟩ := ih after' relAfter
      cases inStep' with
      | error like => exact ⟨_, .error like, .restFails first' found' others'⟩
  | more first found _ ih =>
    intro d rel
    obtain ⟨_, inStep, first'⟩ := first.inStep tracks rel
    cases inStep with
    | ok relItem =>
      obtain ⟨_, after', found', _, _, relAfter⟩ :=
        (tracks.symbol (by decide) relItem).of_found found
      obtain ⟨_, inStep', others'⟩ := ih after' relAfter
      cases inStep' with
      | ok relTail => exact ⟨_, .ok relTail, .more first' found' others'⟩

/-! ## Lines -/

theorem Tracks.closed {c d : Cursor} (rel : related c d) (statement : Statement) :
    OutcomeInStep related samePlace (Statement.closed statement c)
      (Statement.closed statement d) := by
  unfold Statement.closed
  have ends := tracks.lineEnd rel
  cases here : c.scanEndOfLine with
  | none =>
    rw [ends.of_absent here]
    exact .error (LineError.like_at _ (tracks.nextPlace rel))
  | some found =>
    obtain ⟨_, _, there, _, _, rel'⟩ := ends.of_found here
    rw [there]
    exact .ok rel'

theorem ReadsLet.inStep {c d : Cursor} {outcome : Outcome Statement}
    (read : ReadsLet scope limit c outcome) (rel : related c d) :
    ∃ outcome', OutcomeInStep related samePlace outcome outcome' ∧
      ReadsLet scope limit d outcome' := by
  cases read with
  | noVariable absent =>
    exact ⟨_, .error (LineError.like_at _ (tracks.nextPlace rel)),
      .noVariable ((tracks.name rel).of_absent absent)⟩
  | noEquals found absent =>
    obtain ⟨_, next', found', _, _, rel'⟩ := (tracks.name rel).of_found found
    exact ⟨_, .error (LineError.like_at _ (tracks.nextPlace rel')),
      .noEquals found' ((tracks.symbol (by decide) rel').of_absent absent)⟩
  | sourceFails found sign failed =>
    obtain ⟨_, next', found', _, _, rel'⟩ := (tracks.name rel).of_found found
    obtain ⟨_, after', sign', _, _, relAfter⟩ := (tracks.symbol (by decide) rel').of_found sign
    obtain ⟨_, inStep, failed'⟩ := failed.inStep tracks after' relAfter
    cases inStep with
    | error like => exact ⟨_, .error like, .sourceFails found' sign' failed'⟩
  | source found sign body closing =>
    -- the target is told by its folded name only
    obtain ⟨target', next', found', folded, _, rel'⟩ := (tracks.name rel).of_found found
    obtain ⟨_, after', sign', _, _, relAfter⟩ := (tracks.symbol (by decide) rel').of_found sign
    obtain ⟨_, inStep, body'⟩ := body.inStep tracks after' relAfter
    cases inStep with
    | ok relTail =>
      rw [← folded] at closing
      subst closing
      exact ⟨_, tracks.closed relTail _, .source found' sign' body' rfl⟩

theorem ReadsPrint.inStep {c d : Cursor} {outcome : Outcome Statement}
    (read : ReadsPrint scope limit c outcome) (rel : related c d) :
    ∃ outcome', OutcomeInStep related samePlace outcome outcome' ∧
      ReadsPrint scope limit d outcome' := by
  cases read with
  | bare ends =>
    obtain ⟨_, _, ends', _, _, rel'⟩ := (tracks.lineEnd rel).of_found ends
    exact ⟨_, .ok rel', .bare ends'⟩
  | itemsFail noEnd failed =>
    obtain ⟨_, inStep, failed'⟩ := failed.inStep tracks d rel
    cases inStep with
    | error like =>
      exact ⟨_, .error like, .itemsFail ((tracks.lineEnd rel).of_absent noEnd) failed'⟩
  | items noEnd list closing =>
    obtain ⟨_, inStep, list'⟩ := list.inStep tracks d rel
    cases inStep with
    | ok relTail =>
      subst closing
      exact ⟨_, tracks.closed relTail _,
        .items ((tracks.lineEnd rel).of_absent noEnd) list' rfl⟩

/-- **Lines whose starts are related are read in step.** -/
theorem ReadsLine.inStep {line line' : Text} {outcome : Outcome Statement}
    (read : ReadsLine scope limit line outcome) (rel : related (.start line) (.start line')) :
    ∃ outcome', OutcomeInStep related samePlace outcome outcome' ∧
      ReadsLine scope limit line' outcome' := by
  cases read with
  | noKeyword absent =>
    exact ⟨_, .error (LineError.like_at _ (tracks.nextPlace rel)),
      .noKeyword ((tracks.keyword rel).of_absent absent)⟩
  | unknown found notLet notPrint =>
    obtain ⟨_, next', found', folded, place, _⟩ := (tracks.keyword rel).of_found found
    rw [← folded] at notLet notPrint ⊢
    exact ⟨_, .error (LineError.like_at _ place), .unknown found' notLet notPrint⟩
  | assign found isLet rest =>
    obtain ⟨_, next', found', folded, _, rel'⟩ := (tracks.keyword rel).of_found found
    rw [← folded] at isLet
    obtain ⟨outcome', inStep, rest'⟩ := rest.inStep tracks (tracks.observe _ _ rel')
    exact ⟨outcome', inStep, .assign found' isLet rest'⟩
  | print found isPrint rest =>
    obtain ⟨_, next', found', folded, _, rel'⟩ := (tracks.keyword rel).of_found found
    rw [← folded] at isPrint
    obtain ⟨outcome', inStep, rest'⟩ := rest.inStep tracks (tracks.observe _ _ rel')
    exact ⟨outcome', inStep, .print found' isPrint rest'⟩

end Reading

/-! ## Execution -/

/-- The same effect, or errors that are alike. -/
inductive AnswerInStep (samePlace : Span → Span → Prop) :
    Except LineError Effect → Except LineError Effect → Prop
  | ok {effect} : AnswerInStep samePlace (.ok effect) (.ok effect)
  | error {error error'} : error.Like samePlace error' →
      AnswerInStep samePlace (.error error) (.error error')

theorem AnswerInStep.of_ok {effect : Effect} {answer : Except LineError Effect}
    (inStep : AnswerInStep samePlace (.ok effect) answer) : answer = .ok effect := by
  cases inStep
  rfl

theorem AnswerInStep.of_error {error : LineError} {answer : Except LineError Effect}
    (inStep : AnswerInStep samePlace (.error error) answer) :
    ∃ error', answer = .error error' ∧ error.Like samePlace error' := by
  cases inStep with
  | error like => exact ⟨_, rfl, like⟩

/-- **Lines whose starts are related have the same effect or errors that are
alike, and leave the same store.** -/
theorem Tracks.execute (tracks : Tracks related samePlace) {line line' : Text}
    (rel : related (.start line) (.start line')) (store : Store) :
    AnswerInStep samePlace (execute store line).outcome (execute store line').outcome ∧
      (execute store line').store = (execute store line).store := by
  have read : ReadsLine store.isSet nestingLimit line _ := Statement.read_iff.1 rfl
  obtain ⟨outcome', inStep, read'⟩ := read.inStep tracks rel
  rw [← Statement.read_iff] at read'
  subst read'
  rw [LineBasic.execute, LineBasic.execute, executeWithin_eq, executeWithin_eq]
  generalize Statement.read store.isSet nestingLimit line = outcome at inStep
  generalize Statement.read store.isSet nestingLimit line' = outcome' at inStep
  cases inStep with
  | ok => exact ⟨.ok, rfl⟩
  | error like => exact ⟨.error like, rfl⟩

end LineBasic
