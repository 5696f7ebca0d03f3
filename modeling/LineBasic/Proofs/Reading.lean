import LineBasic.Expr.Reader
import LineBasic.Proofs.Grammar
import LineBasic.Proofs.Matching

/-!
# How expressions are read, step by step

`Reads` is the reader of expressions as a relation: one rule for each way in
which a factor, a group of operands or the chain behind an operand can be read
or rejected. It leaves out the proofs of progress that phrases carry, and the
order in which alternatives are tried, which never matters.

**`outcome_expression_iff`** — the reader gives exactly the outcome that the
rules derive. An invariant of reading, or a simulation between two readings,
is therefore one induction over `Reads`.
-/

namespace LineBasic

/-- What a rule comes to: a value and the cursor behind it, or the end of all
work on the line. -/
abbrev Outcome (α : Type) := Except Rejection (α × Cursor)

/-- A reading without its proof of progress. -/
def Reading.outcome {c : Cursor} {α : Type} : Reading c α → Outcome α
  | .error rejection => .error rejection
  | .ok phrase => .ok (phrase.value, phrase.next)

namespace Reading

theorem eq_error_of_outcome {c : Cursor} {α : Type} {reading : Reading c α} {rejection : Rejection}
    (same : outcome reading = .error rejection) : reading = .error rejection := by
  cases reading with
  | error other =>
    cases same
    rfl
  | ok phrase => cases same

theorem eq_ok_of_outcome {c next : Cursor} {α : Type} {reading : Reading c α} {value : α}
    (same : outcome reading = .ok (value, next)) :
    ∃ phrase, reading = .ok phrase ∧ phrase.value = value ∧ phrase.next = next := by
  cases reading with
  | error other => cases same
  | ok phrase =>
    cases same
    exact ⟨phrase, rfl, rfl, rfl⟩

end Reading

/-! ## Tokens as phrases -/

namespace Phrase

variable {c : Cursor} {found : Option (Token × Cursor)}
  {progress : ∀ token next, found = some (token, next) → next.rest.length < c.rest.length}

theorem ofMatch_of_none (absent : found = none) : ofMatch found progress = none := by
  subst absent
  rfl

theorem ofMatch_of_some {token : Token} {next : Cursor} (present : found = some (token, next)) :
    ∃ p : Phrase c Token, ofMatch found progress = some p ∧ p.value = token ∧ p.next = next := by
  subst present
  exact ⟨_, rfl, rfl, rfl⟩

theorem eq_none_of_ofMatch (absent : ofMatch found progress = none) : found = none := by
  cases found with
  | none => rfl
  | some pair => cases absent

theorem eq_some_of_ofMatch {p : Phrase c Token} (present : ofMatch found progress = some p) :
    found = some (p.value, p.next) := by
  cases found with
  | none => cases present
  | some pair =>
    cases present
    rfl

end Phrase

namespace Cursor

variable {c next : Cursor} {token : Token}

theorem nextKeyword_of_scan (found : c.scanKeyword = some (token, next)) :
    ∃ p, c.nextKeyword = some p ∧ p.value = token ∧ p.next = next :=
  Phrase.ofMatch_of_some found

theorem nextNumber_of_scan (found : c.scanNumber = some (token, next)) :
    ∃ p, c.nextNumber = some p ∧ p.value = token ∧ p.next = next :=
  Phrase.ofMatch_of_some found

theorem nextVariable_of_scan (found : c.scanVariable = some (token, next)) :
    ∃ p, c.nextVariable = some p ∧ p.value = token ∧ p.next = next :=
  Phrase.ofMatch_of_some found

theorem nextSymbol_of_scan {symbol : Char} (found : c.scanLiteral [symbol] = some (token, next)) :
    ∃ p, c.nextSymbol symbol = some p ∧ p.value = token ∧ p.next = next :=
  Phrase.ofMatch_of_some found

theorem nextNumber_of_scanVariable (found : c.scanVariable = some (token, next)) :
    c.nextNumber = none :=
  Phrase.ofMatch_of_none (scanNumber_of_scanVariable found)

theorem noWord_of_scanParen (found : c.scanLiteral ['('] = some (token, next)) :
    c.nextNumber = none ∧ c.nextVariable = none := by
  obtain ⟨rest, front, _⟩ := scanLiteral_eq_some_iff.1 found
  have paren : c.skipGap.rest.head? = some '(' := by
    rw [front]
    rfl
  refine ⟨?_, ?_⟩
  · exact Phrase.ofMatch_of_none (scanWord_of_head? paren (by decide))
  · exact Phrase.ofMatch_of_none (scanWord_of_head? paren (by decide))

/-- The search for a string as a phrase follows the plain one. -/
theorem nextString_cases (c : Cursor) :
    (∃ error, c.scanString = .error error ∧ c.nextString = .error ⟨error, c⟩) ∨
      (c.scanString = .ok none ∧ c.nextString = .ok none) ∨
      ∃ p : Phrase c Token, c.scanString = .ok (some (p.value, p.next)) ∧
        c.nextString = .ok (some p) := by
  unfold nextString
  split
  · next error _ found _ => exact .inl ⟨error, found, rfl⟩
  · next found _ => exact .inr (.inl ⟨found, rfl⟩)
  · next token next _ found _ => exact .inr (.inr ⟨_, found, rfl⟩)

theorem nextString_of_error {c : Cursor} {error : LineError}
    (found : c.scanString = .error error) : c.nextString = .error ⟨error, c⟩ := by
  rcases c.nextString_cases with ⟨_, scanned, result⟩ | ⟨scanned, result⟩ | ⟨_, scanned, result⟩
  all_goals
    rw [found] at scanned
    cases scanned
  exact result

theorem nextString_of_none {c : Cursor} (found : c.scanString = .ok none) :
    c.nextString = .ok none := by
  rcases c.nextString_cases with ⟨_, scanned, result⟩ | ⟨scanned, result⟩ | ⟨_, scanned, result⟩
  all_goals
    rw [found] at scanned
    cases scanned
  exact result

theorem nextString_of_some {c next : Cursor} {token : Token}
    (found : c.scanString = .ok (some (token, next))) :
    ∃ p, c.nextString = .ok (some p) ∧ p.value = token ∧ p.next = next := by
  rcases c.nextString_cases with ⟨_, scanned, result⟩ | ⟨scanned, result⟩ | ⟨_, scanned, result⟩
  all_goals
    rw [found] at scanned
    cases scanned
  exact ⟨_, result, rfl, rfl⟩

end Cursor

/-! ## Operators by precedence -/

namespace Tier

/-- Looks for an operator of the group. -/
def scan : Tier → Cursor → Option (Token × Cursor)
  | product => Cursor.scanMulOrDiv
  | sum => Cursor.scanAddOrSub

/-- Looks for an operator of the group, as a phrase. -/
def next : Tier → (c : Cursor) → Option (Phrase c Token)
  | product => Cursor.nextMulOrDiv
  | sum => Cursor.nextAddOrSub

theorem scan_eq_some_iff {tier : Tier} {c : Cursor} {found : Token × Cursor} :
    tier.scan c = some found ↔
      ∃ operator : Operator, operator.tier = tier ∧ ∃ rest,
        c.skipGap.rest = operator.symbol :: rest ∧
        found = ({ (c.skipGap.take .literal [operator.symbol] rest).1 with kind := .operator },
          (c.skipGap.take .literal [operator.symbol] rest).2) := by
  refine ⟨?_, ?_⟩
  · intro scanned
    cases tier with
    | product =>
      obtain ⟨symbol, rest, either, front, taken⟩ := Cursor.scanOperator_eq_some_iff.1 scanned
      rcases either with rfl | rfl
      · exact ⟨.mul, rfl, rest, front, taken⟩
      · exact ⟨.div, rfl, rest, front, taken⟩
    | sum =>
      obtain ⟨symbol, rest, either, front, taken⟩ := Cursor.scanOperator_eq_some_iff.1 scanned
      rcases either with rfl | rfl
      · exact ⟨.add, rfl, rest, front, taken⟩
      · exact ⟨.sub, rfl, rest, front, taken⟩
  · rintro ⟨operator, rfl, rest, front, taken⟩
    cases operator with
    | add => exact Cursor.scanOperator_eq_some_iff.2 ⟨_, rest, .inl rfl, front, taken⟩
    | sub => exact Cursor.scanOperator_eq_some_iff.2 ⟨_, rest, .inr rfl, front, taken⟩
    | mul => exact Cursor.scanOperator_eq_some_iff.2 ⟨_, rest, .inl rfl, front, taken⟩
    | div => exact Cursor.scanOperator_eq_some_iff.2 ⟨_, rest, .inr rfl, front, taken⟩

theorem scan_eq_none_iff {tier : Tier} {c : Cursor} :
    tier.scan c = none ↔
      ∀ operator : Operator, operator.tier = tier →
        c.skipGap.rest.head? ≠ some operator.symbol := by
  refine ⟨?_, ?_⟩
  · intro absent operator same front
    obtain ⟨rest, whole⟩ := List.head?_eq_some_iff.1 front
    rw [scan_eq_some_iff.2 ⟨operator, same, rest, whole, rfl⟩] at absent
    cases absent
  · intro absent
    cases scanned : tier.scan c with
    | none => rfl
    | some found =>
      obtain ⟨operator, same, rest, front, _⟩ := scan_eq_some_iff.1 scanned
      exact absurd (by rw [front]; rfl) (absent operator same)

theorem next_of_none {tier : Tier} {c : Cursor} (absent : tier.scan c = none) :
    tier.next c = none := by
  cases tier with
  | product => exact Phrase.ofMatch_of_none absent
  | sum => exact Phrase.ofMatch_of_none absent

theorem next_of_some {tier : Tier} {c : Cursor} {token : Token} {after : Cursor}
    (present : tier.scan c = some (token, after)) :
    ∃ p : Phrase c Token, tier.next c = some p ∧ p.value = token ∧ p.next = after := by
  cases tier with
  | product => exact Phrase.ofMatch_of_some present
  | sum => exact Phrase.ofMatch_of_some present

theorem scan_of_next_none {tier : Tier} {c : Cursor} (absent : tier.next c = none) :
    tier.scan c = none := by
  cases tier with
  | product => exact Phrase.eq_none_of_ofMatch absent
  | sum => exact Phrase.eq_none_of_ofMatch absent

theorem scan_of_next_some {tier : Tier} {c : Cursor} {p : Phrase c Token}
    (present : tier.next c = some p) : tier.scan c = some (p.value, p.next) := by
  cases tier with
  | product => exact Phrase.eq_some_of_ofMatch present
  | sum => exact Phrase.eq_some_of_ofMatch present

/-- A sign that is found stands for an operator of its group. -/
theorem ofSymbol?_of_scan {tier : Tier} {c : Cursor} {token : Token} {after : Cursor}
    (present : tier.scan c = some (token, after)) :
    ∃ operator, Operator.ofSymbol? token.lexeme = some operator ∧ operator.tier = tier := by
  obtain ⟨operator, same, rest, _, taken⟩ := scan_eq_some_iff.1 present
  refine ⟨operator, ?_, same⟩
  rw [(Prod.mk.inj taken).1]
  exact operator.ofSymbol?_symbol

end Tier

/-! ## The rules of reading -/

/-- Reading at a cursor, with `allowance` more parentheses to open out of
`limit` in all, and what comes of it. -/
inductive Reads (scope : Scope) (limit : Nat) :
    Category → (allowance : Nat) → Cursor → Outcome Expr → Prop
  | number {n c token next} :
      c.scanNumber = some (token, next) →
      Reads scope limit .factor n c (.ok (.number token.lexeme, next))
  | bound {n c token next} :
      c.scanVariable = some (token, next) → scope (fold token.lexeme) = true →
      Reads scope limit .factor n c (.ok (.variable (fold token.lexeme), next))
  | unbound {n c token next} :
      c.scanVariable = some (token, next) → scope (fold token.lexeme) = false →
      Reads scope limit .factor n c
        (.error ⟨.at (.variableNotFound (fold token.lexeme)) token.span, next⟩)
  | tooDeep {c token next} :
      c.scanLiteral ['('] = some (token, next) →
      Reads scope limit .factor 0 c (.error ⟨.at (.nestingTooDeep limit) token.span, next⟩)
  | groupFails {n c token next rejection} :
      c.scanLiteral ['('] = some (token, next) →
      Reads scope limit (.grouped .sum) n next (.error rejection) →
      Reads scope limit .factor (n + 1) c (.error rejection)
  | unclosed {n c token next e body} :
      c.scanLiteral ['('] = some (token, next) →
      Reads scope limit (.grouped .sum) n next (.ok (e, body)) →
      body.scanLiteral [')'] = none →
      Reads scope limit .factor (n + 1) c
        (.error ⟨.at .missingRightParen (.single body.nextPlace), body⟩)
  | group {n c token next e body closing after} :
      c.scanLiteral ['('] = some (token, next) →
      Reads scope limit (.grouped .sum) n next (.ok (e, body)) →
      body.scanLiteral [')'] = some (closing, after) →
      Reads scope limit .factor (n + 1) c (.ok (.group e, after))
  | absent {n c} :
      c.scanNumber = none → c.scanVariable = none → c.scanLiteral ['('] = none →
      Reads scope limit .factor n c (.error ⟨.at .expressionExpected (.single c.nextPlace), c⟩)
  | firstFails {tier n c rejection} :
      Reads scope limit tier.operand n c (.error rejection) →
      Reads scope limit (.grouped tier) n c (.error rejection)
  | first {tier n c left next outcome} :
      Reads scope limit tier.operand n c (.ok (left, next)) →
      Reads scope limit (.chain tier left) n next outcome →
      Reads scope limit (.grouped tier) n c outcome
  | done {tier left n c} :
      tier.scan c = none →
      Reads scope limit (.chain tier left) n c (.ok (left, c))
  | operandFails {tier left n c sign after rejection} :
      tier.scan c = some (sign, after) →
      Reads scope limit tier.operand n after (.error rejection) →
      Reads scope limit (.chain tier left) n c (.error rejection)
  | more {tier left n c sign after operator right next outcome} :
      tier.scan c = some (sign, after) → Operator.ofSymbol? sign.lexeme = some operator →
      Reads scope limit tier.operand n after (.ok (right, next)) →
      Reads scope limit (.chain tier (.binary operator left right)) n next outcome →
      Reads scope limit (.chain tier left) n c outcome

/-! ## The reader follows the rules -/

namespace Expr

/-- The rule for what stands in parentheses, where more may be opened. -/
def inner (scope : Scope) (limit : Nat) : (allowance : Nat) → Option (Rule Expr)
  | 0 => none
  | allowance + 1 => some (expression scope limit allowance)

theorem expression_eq (scope : Scope) (limit allowance : Nat) :
    expression scope limit allowance = sums (factor scope limit (inner scope limit allowance)) := by
  cases allowance <;> rfl

/-- The rule for the operands of a group. -/
def operandRule (scope : Scope) (limit allowance : Nat) : Tier → Rule Expr
  | .product => factor scope limit (inner scope limit allowance)
  | .sum => leftGrouped Cursor.nextMulOrDiv (factor scope limit (inner scope limit allowance))

variable {scope : Scope} {limit : Nat}

theorem reads_factor {n : Nat}
    (deeper : ∀ m, n = m + 1 → ∀ c,
      Reads scope limit (.grouped .sum) m c (Reading.outcome (expression scope limit m c)))
    (c : Cursor) :
    Reads scope limit .factor n c
      (Reading.outcome (factor scope limit (inner scope limit n) c)) := by
  unfold factor
  cases number : c.nextNumber with
  | some literal => exact .number (Phrase.eq_some_of_ofMatch number)
  | none =>
    cases word : c.nextVariable with
    | some word' =>
      have found := Phrase.eq_some_of_ofMatch word
      cases bound : scope (fold word'.value.lexeme) with
      | true =>
        simp only [bound, if_true]
        exact .bound found bound
      | false =>
        simp only [bound, Bool.false_eq_true, if_false]
        exact .unbound found bound
    | none =>
      cases opened : c.nextSymbol '(' with
      | none =>
        exact .absent (Phrase.eq_none_of_ofMatch number) (Phrase.eq_none_of_ofMatch word)
          (Phrase.eq_none_of_ofMatch opened)
      | some opening =>
        have found := Phrase.eq_some_of_ofMatch opened
        cases n with
        | zero => exact .tooDeep found
        | succ m =>
          have read := deeper m rfl opening.next
          simp only [inner]
          cases body : expression scope limit m opening.next with
          | error rejection =>
            rw [body] at read
            exact .groupFails found read
          | ok phrase =>
            rw [body] at read
            simp only
            cases closed : phrase.next.nextSymbol ')' with
            | none => exact .unclosed found read (Phrase.eq_none_of_ofMatch closed)
            | some closing => exact .group found read (Phrase.eq_some_of_ofMatch closed)

/-- Going on after an operand follows the rules, if reading operands does. -/
theorem reads_chain {tier : Tier} {n : Nat} {operand : Rule Expr}
    (operands : ∀ c, Reads scope limit tier.operand n c (Reading.outcome (operand c)))
    {c : Cursor} (left : Phrase c Expr) :
    Reads scope limit (.chain tier left.value) n left.next
      (Reading.outcome (chain tier.next operand left)) := by
  fun_induction chain tier.next operand left with
  | case1 left absent => exact .done (Tier.scan_of_next_none absent)
  | case2 left sign found rejection failed =>
    have read := operands sign.next
    rw [failed] at read
    exact .operandFails (Tier.scan_of_next_some found) read
  | case3 left sign found right read unknown =>
    -- every sign that is found stands for an operator
    obtain ⟨operator, known, _⟩ := Tier.ofSymbol?_of_scan (Tier.scan_of_next_some found)
    rw [known] at unknown
    cases unknown
  | case4 left sign found right readRight operation known ih =>
    have read := operands sign.next
    rw [readRight] at read
    exact .more (Tier.scan_of_next_some found) known read ih

theorem reads_leftGrouped (tier : Tier) {n : Nat} {operand : Rule Expr}
    (operands : ∀ c, Reads scope limit tier.operand n c (Reading.outcome (operand c)))
    (c : Cursor) :
    Reads scope limit (.grouped tier) n c
      (Reading.outcome (leftGrouped tier.next operand c)) := by
  have read := operands c
  unfold leftGrouped
  cases front : operand c with
  | error rejection =>
    rw [front] at read
    exact .firstFails read
  | ok first =>
    rw [front] at read
    exact .first read (reads_chain operands first)

/-- Sums of products follow the rules, if reading factors does. -/
theorem reads_sums {n : Nat}
    (factors : ∀ c, Reads scope limit .factor n c
      (Reading.outcome (factor scope limit (inner scope limit n) c)))
    (c : Cursor) :
    Reads scope limit (.grouped .sum) n c (Reading.outcome (expression scope limit n c)) := by
  have products := reads_leftGrouped .product factors
  rw [expression_eq]
  exact reads_leftGrouped .sum products c

theorem reads_expression (scope : Scope) (limit n : Nat) (c : Cursor) :
    Reads scope limit (.grouped .sum) n c (Reading.outcome (expression scope limit n c)) := by
  induction n generalizing c with
  | zero =>
    apply reads_sums
    apply reads_factor
    intro m none_deeper
    cases none_deeper
  | succ m ih =>
    apply reads_sums
    apply reads_factor
    intro m' same
    cases same
    exact ih

/-- What the reader itself gives for a category. The cursor that a chain began
at does not matter. -/
def Gives (scope : Scope) (limit n : Nat) (c : Cursor) (outcome : Outcome Expr) : Category → Prop
  | .factor => Reading.outcome (factor scope limit (inner scope limit n) c) = outcome
  | .grouped tier =>
    Reading.outcome (leftGrouped tier.next (operandRule scope limit n tier) c) = outcome
  | .chain tier left => ∀ (d : Cursor) (p : Phrase d Expr), p.value = left → p.next = c →
    Reading.outcome (chain tier.next (operandRule scope limit n tier) p) = outcome

theorem Gives.operand {n : Nat} {c : Cursor} {outcome : Outcome Expr} {tier : Tier}
    (given : Gives scope limit n c outcome tier.operand) :
    Reading.outcome (operandRule scope limit n tier c) = outcome := by
  cases tier with
  | product => exact given
  | sum => exact given

theorem Gives.expression {n : Nat} {c : Cursor} {outcome : Outcome Expr}
    (given : Gives scope limit n c outcome (.grouped .sum)) :
    Reading.outcome (expression scope limit n c) = outcome := by
  rw [expression_eq]
  exact given

/-- The rules leave the reader no other outcome. -/
theorem gives_of_reads {category : Category} {n : Nat} {c : Cursor} {outcome : Outcome Expr}
    (read : Reads scope limit category n c outcome) :
    Gives scope limit n c outcome category := by
  induction read with
  -- a factor: the alternatives before the one that applies find nothing
  | @number n c token next found =>
    obtain ⟨p, scanned, rfl, rfl⟩ := Cursor.nextNumber_of_scan found
    show Reading.outcome (factor scope limit (inner scope limit n) c) = _
    unfold factor
    rw [scanned]
    rfl
  | @bound n c token next found isSet =>
    have noNumber := Cursor.nextNumber_of_scanVariable found
    obtain ⟨p, scanned, rfl, rfl⟩ := Cursor.nextVariable_of_scan found
    show Reading.outcome (factor scope limit (inner scope limit n) c) = _
    unfold factor
    rw [noNumber, scanned]
    simp only [isSet, if_true]
    rfl
  | @unbound n c token next found unset =>
    have noNumber := Cursor.nextNumber_of_scanVariable found
    obtain ⟨p, scanned, rfl, rfl⟩ := Cursor.nextVariable_of_scan found
    show Reading.outcome (factor scope limit (inner scope limit n) c) = _
    unfold factor
    rw [noNumber, scanned]
    simp only [unset, Bool.false_eq_true, if_false]
    rfl
  | @tooDeep c token next found =>
    obtain ⟨noNumber, noName⟩ := Cursor.noWord_of_scanParen found
    obtain ⟨p, scanned, rfl, rfl⟩ := Cursor.nextSymbol_of_scan found
    show Reading.outcome (factor scope limit (inner scope limit 0) c) = _
    unfold factor
    rw [noNumber, noName, scanned]
    rfl
  | @groupFails n c token next rejection found _ ih =>
    obtain ⟨noNumber, noName⟩ := Cursor.noWord_of_scanParen found
    obtain ⟨p, scanned, rfl, rfl⟩ := Cursor.nextSymbol_of_scan found
    have body := Reading.eq_error_of_outcome ih.expression
    show Reading.outcome (factor scope limit (inner scope limit (n + 1)) c) = _
    unfold factor
    rw [noNumber, noName, scanned]
    simp only [inner, body]
    rfl
  | @unclosed n c token next e place found _ missing ih =>
    obtain ⟨noNumber, noName⟩ := Cursor.noWord_of_scanParen found
    obtain ⟨p, scanned, rfl, rfl⟩ := Cursor.nextSymbol_of_scan found
    obtain ⟨q, body, rfl, rfl⟩ := Reading.eq_ok_of_outcome ih.expression
    have noParen : q.next.nextSymbol ')' = none := Phrase.ofMatch_of_none missing
    show Reading.outcome (factor scope limit (inner scope limit (n + 1)) c) = _
    unfold factor
    rw [noNumber, noName, scanned]
    simp only [inner, body, noParen]
    rfl
  | @group n c token next e place closing after found _ closed ih =>
    obtain ⟨noNumber, noName⟩ := Cursor.noWord_of_scanParen found
    obtain ⟨p, scanned, rfl, rfl⟩ := Cursor.nextSymbol_of_scan found
    obtain ⟨q, body, rfl, rfl⟩ := Reading.eq_ok_of_outcome ih.expression
    obtain ⟨r, paren, rfl, rfl⟩ := Cursor.nextSymbol_of_scan closed
    show Reading.outcome (factor scope limit (inner scope limit (n + 1)) c) = _
    unfold factor
    rw [noNumber, noName, scanned]
    simp only [inner, body, paren]
    rfl
  | @absent n c noNumber noName noParen =>
    have none₁ : c.nextNumber = none := Phrase.ofMatch_of_none noNumber
    have none₂ : c.nextVariable = none := Phrase.ofMatch_of_none noName
    have none₃ : c.nextSymbol '(' = none := Phrase.ofMatch_of_none noParen
    show Reading.outcome (factor scope limit (inner scope limit n) c) = _
    unfold factor
    rw [none₁, none₂, none₃]
    rfl
  -- operands and the chain behind them
  | @firstFails tier n c rejection _ ih =>
    have failed := Reading.eq_error_of_outcome ih.operand
    show Reading.outcome (leftGrouped tier.next (operandRule scope limit n tier) c) = _
    unfold leftGrouped
    rw [failed]
    rfl
  | @first tier n c left next outcome _ _ ihFirst ihChain =>
    obtain ⟨p, read, value, place⟩ := Reading.eq_ok_of_outcome ihFirst.operand
    show Reading.outcome (leftGrouped tier.next (operandRule scope limit n tier) c) = _
    unfold leftGrouped
    rw [read]
    exact ihChain c p value place
  | @done tier left n c absent =>
    rintro d p rfl rfl
    unfold chain
    rw [Tier.next_of_none absent]
    rfl
  | @operandFails tier left n c sign after rejection found _ ih =>
    rintro d p rfl rfl
    obtain ⟨s, scanned, rfl, rfl⟩ := Tier.next_of_some found
    unfold chain
    rw [scanned]
    simp only [Reading.eq_error_of_outcome ih.operand]
    rfl
  | @more tier left n c sign after operator right next outcome found known _ _ ihRight ihChain =>
    rintro d p rfl rfl
    obtain ⟨s, scanned, rfl, rfl⟩ := Tier.next_of_some found
    obtain ⟨q, read, rfl, rfl⟩ := Reading.eq_ok_of_outcome ihRight.operand
    unfold chain
    rw [scanned]
    simp only [read, known]
    exact ihChain d _ rfl rfl

/-- **The reader gives exactly what the rules derive.** -/
theorem outcome_expression_iff {n : Nat} {c : Cursor} {outcome : Outcome Expr} :
    Reading.outcome (expression scope limit n c) = outcome ↔
      Reads scope limit (.grouped .sum) n c outcome := by
  refine ⟨?_, ?_⟩
  · rintro rfl
    exact reads_expression scope limit n c
  · intro read
    exact (gives_of_reads read).expression

end Expr

end LineBasic
