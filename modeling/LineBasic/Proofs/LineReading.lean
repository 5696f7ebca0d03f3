import LineBasic.Proofs.Evaluation

/-!
# How lines are read, step by step

The rules of `Reads` continued up to whole lines: an item of a `PRINT` list
(`ReadsItem`), the list (`ReadsItems`), what follows either statement word
(`ReadsLet`, `ReadsPrint`) and the line (`ReadsLine`).

* **`read_iff`** — reading a line gives exactly the outcome the rules derive;
* **`outcome_eq_error_iff`**, **`outcome_eq_ok_iff`** — hence so does executing
  it, and a rejected line leaves the store alone.
-/

namespace LineBasic

section Rules

variable (scope : Scope) (limit : Nat)

/-- Reading one item of a `PRINT` list. -/
inductive ReadsItem : Cursor → Outcome Item → Prop
  | unterminated {c error} :
      c.scanString = .error error → ReadsItem c (.error ⟨error, c⟩)
  | string {c token next} :
      c.scanString = .ok (some (token, next)) →
      ReadsItem c (.ok (.string token.lexeme, next.observe (.printable .string)))
  | exprFails {c rejection} :
      c.scanString = .ok none → Reads scope limit (.grouped .sum) limit c (.error rejection) →
      ReadsItem c (.error rejection)
  | expr {c e next} :
      c.scanString = .ok none → Reads scope limit (.grouped .sum) limit c (.ok (e, next)) →
      ReadsItem c (.ok (.expr e, next.observe (.printable .number)))

/-- Reading the items of a `PRINT` list, of which there is at least one. -/
inductive ReadsItems : Cursor → Outcome (List Item) → Prop
  | firstFails {c rejection} :
      ReadsItem scope limit c (.error rejection) → ReadsItems c (.error rejection)
  | last {c item next} :
      ReadsItem scope limit c (.ok (item, next)) → next.scanLiteral [','] = none →
      ReadsItems c (.ok ([item], next))
  | restFails {c item next comma after rejection} :
      ReadsItem scope limit c (.ok (item, next)) →
      next.scanLiteral [','] = some (comma, after) →
      ReadsItems after (.error rejection) → ReadsItems c (.error rejection)
  | more {c item next comma after items tail} :
      ReadsItem scope limit c (.ok (item, next)) →
      next.scanLiteral [','] = some (comma, after) →
      ReadsItems after (.ok (items, tail)) → ReadsItems c (.ok (item :: items, tail))

/-- Reading what follows `LET`. -/
inductive ReadsLet : Cursor → Outcome Statement → Prop
  | noVariable {c} :
      c.scanVariable = none →
      ReadsLet c (.error ⟨.at .variableExpected (.single c.nextPlace), c⟩)
  | noEquals {c target next} :
      c.scanVariable = some (target, next) → next.scanLiteral ['='] = none →
      ReadsLet c (.error ⟨.at .equalsExpected (.single next.nextPlace), next⟩)
  | sourceFails {c target next equals after rejection} :
      c.scanVariable = some (target, next) → next.scanLiteral ['='] = some (equals, after) →
      Reads scope limit (.grouped .sum) limit after (.error rejection) →
      ReadsLet c (.error rejection)
  | source {c target next equals after e tail outcome} :
      c.scanVariable = some (target, next) → next.scanLiteral ['='] = some (equals, after) →
      Reads scope limit (.grouped .sum) limit after (.ok (e, tail)) →
      Statement.closed (.assign (fold target.lexeme) e) tail = outcome → ReadsLet c outcome

/-- Reading what follows `PRINT`. -/
inductive ReadsPrint : Cursor → Outcome Statement → Prop
  | bare {c token lineEnd} :
      c.scanEndOfLine = some (token, lineEnd) → ReadsPrint c (.ok (.print [], lineEnd))
  | itemsFail {c rejection} :
      c.scanEndOfLine = none → ReadsItems scope limit c (.error rejection) →
      ReadsPrint c (.error rejection)
  | items {c items tail outcome} :
      c.scanEndOfLine = none → ReadsItems scope limit c (.ok (items, tail)) →
      Statement.closed (.print items) tail = outcome → ReadsPrint c outcome

/-- Reading a line. -/
inductive ReadsLine (line : Text) : Outcome Statement → Prop
  | noKeyword :
      (Cursor.start line).scanKeyword = none →
      ReadsLine line
        (.error ⟨.at .statementExpected (.single (Cursor.start line).nextPlace), .start line⟩)
  | unknown {word next} :
      (Cursor.start line).scanKeyword = some (word, next) →
      fold word.lexeme ≠ ['l', 'e', 't'] → fold word.lexeme ≠ ['p', 'r', 'i', 'n', 't'] →
      ReadsLine line (.error ⟨.at (.unknownStatement (fold word.lexeme)) word.span,
        next.observe (.dispatching (fold word.lexeme))⟩)
  | assign {word next outcome} :
      (Cursor.start line).scanKeyword = some (word, next) →
      fold word.lexeme = ['l', 'e', 't'] →
      ReadsLet scope limit (next.observe (.dispatching (fold word.lexeme))) outcome →
      ReadsLine line outcome
  | print {word next outcome} :
      (Cursor.start line).scanKeyword = some (word, next) →
      fold word.lexeme = ['p', 'r', 'i', 'n', 't'] →
      ReadsPrint scope limit (next.observe (.dispatching (fold word.lexeme))) outcome →
      ReadsLine line outcome

end Rules

variable {scope : Scope} {limit : Nat}

/-! ## Items -/

namespace Item

/-- The rule for items of a line. -/
abbrev lineRule (scope : Scope) (limit : Nat) : Rule Item :=
  rule (Expr.expression scope limit limit)

theorem outcome_rule_iff {c : Cursor} {outcome : Outcome Item} :
    Reading.outcome (lineRule scope limit c) = outcome ↔ ReadsItem scope limit c outcome := by
  refine ⟨?_, ?_⟩
  · rintro rfl
    unfold lineRule rule
    rcases c.nextString_cases with ⟨error, scanned, found⟩ | ⟨scanned, found⟩ | ⟨p, scanned, found⟩
    · rw [found]
      exact .unterminated scanned
    · rw [found]
      have read := Expr.reads_expression scope limit limit c
      cases body : Expr.expression scope limit limit c with
      | error rejection =>
        rw [body] at read
        exact .exprFails scanned read
      | ok e =>
        rw [body] at read
        exact .expr scanned read
    · rw [found]
      exact .string scanned
  · intro read
    unfold lineRule rule
    cases read with
    | unterminated found =>
      rw [Cursor.nextString_of_error found]
      rfl
    | string found =>
      obtain ⟨p, scanned, rfl, rfl⟩ := Cursor.nextString_of_some found
      rw [scanned]
      rfl
    | exprFails noString failed =>
      rw [Cursor.nextString_of_none noString]
      simp only [Reading.eq_error_of_outcome (Expr.outcome_expression_iff.2 failed)]
      rfl
    | expr noString body =>
      obtain ⟨q, read, rfl, rfl⟩ := Reading.eq_ok_of_outcome (Expr.outcome_expression_iff.2 body)
      rw [Cursor.nextString_of_none noString]
      simp only [read]
      rfl

theorem outcome_list_iff {c : Cursor} {outcome : Outcome (List Item)} :
    Reading.outcome (list (lineRule scope limit) c) = outcome ↔
      ReadsItems scope limit c outcome := by
  refine ⟨?_, ?_⟩
  · rintro rfl
    fun_induction list (lineRule scope limit) c with
    | case1 c rejection failed =>
      exact .firstFails (outcome_rule_iff.1 (by rw [failed]; rfl))
    | case2 c first read noComma =>
      exact .last (outcome_rule_iff.1 (by rw [read]; rfl)) (Phrase.eq_none_of_ofMatch noComma)
    | case3 c first read comma found rejection failed ih =>
      rw [failed] at ih
      exact .restFails (outcome_rule_iff.1 (by rw [read]; rfl))
        (Phrase.eq_some_of_ofMatch found) ih
    | case4 c first read comma found others readOthers ih =>
      rw [readOthers] at ih
      exact .more (outcome_rule_iff.1 (by rw [read]; rfl)) (Phrase.eq_some_of_ofMatch found) ih
  · intro read
    induction read with
    | firstFails failed =>
      unfold list
      simp only [Reading.eq_error_of_outcome (outcome_rule_iff.2 failed)]
      rfl
    | last item absent =>
      obtain ⟨p, read, rfl, rfl⟩ := Reading.eq_ok_of_outcome (outcome_rule_iff.2 item)
      have noComma : p.next.nextSymbol ',' = none := Phrase.ofMatch_of_none absent
      unfold list
      simp only [read, noComma]
      rfl
    | restFails item found _ ih =>
      obtain ⟨p, read, rfl, rfl⟩ := Reading.eq_ok_of_outcome (outcome_rule_iff.2 item)
      obtain ⟨q, scanned, rfl, rfl⟩ := Cursor.nextSymbol_of_scan found
      unfold list
      simp only [read, scanned, Reading.eq_error_of_outcome ih]
      rfl
    | more item found _ ih =>
      obtain ⟨p, read, rfl, rfl⟩ := Reading.eq_ok_of_outcome (outcome_rule_iff.2 item)
      obtain ⟨q, scanned, rfl, rfl⟩ := Cursor.nextSymbol_of_scan found
      obtain ⟨r, others, rfl, rfl⟩ := Reading.eq_ok_of_outcome ih
      unfold list
      simp only [read, scanned, others]
      rfl

end Item

/-! ## Statements -/

namespace Statement

theorem outcome_afterLet_iff {c : Cursor} {outcome : Outcome Statement} :
    afterLet (Expr.expression scope limit limit) c = outcome ↔
      ReadsLet scope limit c outcome := by
  refine ⟨?_, ?_⟩
  · rintro rfl
    unfold afterLet
    cases target : c.nextVariable with
    | none => exact .noVariable (Phrase.eq_none_of_ofMatch target)
    | some name =>
      have named := Phrase.eq_some_of_ofMatch target
      simp only
      cases equals : name.next.nextSymbol '=' with
      | none => exact .noEquals named (Phrase.eq_none_of_ofMatch equals)
      | some sign =>
        have read := Expr.reads_expression scope limit limit sign.next
        simp only
        cases source : Expr.expression scope limit limit sign.next with
        | error rejection =>
          rw [source] at read
          exact .sourceFails named (Phrase.eq_some_of_ofMatch equals) read
        | ok e =>
          rw [source] at read
          exact .source named (Phrase.eq_some_of_ofMatch equals) read rfl
  · intro read
    unfold afterLet
    cases read with
    | noVariable absent =>
      have noName : c.nextVariable = none := Phrase.ofMatch_of_none absent
      rw [noName]
      rfl
    | noEquals found absent =>
      obtain ⟨p, scanned, rfl, rfl⟩ := Cursor.nextVariable_of_scan found
      have noSign : p.next.nextSymbol '=' = none := Phrase.ofMatch_of_none absent
      simp only [scanned, noSign]
      rfl
    | sourceFails found sign failed =>
      obtain ⟨p, scanned, rfl, rfl⟩ := Cursor.nextVariable_of_scan found
      obtain ⟨q, signed, rfl, rfl⟩ := Cursor.nextSymbol_of_scan sign
      simp only [scanned, signed,
        Reading.eq_error_of_outcome (Expr.outcome_expression_iff.2 failed)]
    | source found sign body closing =>
      obtain ⟨p, scanned, rfl, rfl⟩ := Cursor.nextVariable_of_scan found
      obtain ⟨q, signed, rfl, rfl⟩ := Cursor.nextSymbol_of_scan sign
      obtain ⟨r, read, rfl, rfl⟩ := Reading.eq_ok_of_outcome (Expr.outcome_expression_iff.2 body)
      simp only [scanned, signed, read]
      exact closing

theorem outcome_afterPrint_iff {c : Cursor} {outcome : Outcome Statement} :
    afterPrint (Expr.expression scope limit limit) c = outcome ↔
      ReadsPrint scope limit c outcome := by
  refine ⟨?_, ?_⟩
  · rintro rfl
    unfold afterPrint
    cases ends : c.scanEndOfLine with
    | some found => exact .bare ends
    | none =>
      simp only
      cases list : Item.list (Item.lineRule scope limit) c with
      | error rejection =>
        exact .itemsFail ends (Item.outcome_list_iff.1 (by rw [list]; rfl))
      | ok items => exact .items ends (Item.outcome_list_iff.1 (by rw [list]; rfl)) rfl
  · intro read
    unfold afterPrint
    cases read with
    | bare ends => rw [ends]
    | itemsFail ends failed =>
      rw [ends]
      simp only [Reading.eq_error_of_outcome (Item.outcome_list_iff.2 failed)]
    | items ends list closing =>
      obtain ⟨p, read, rfl, rfl⟩ := Reading.eq_ok_of_outcome (Item.outcome_list_iff.2 list)
      rw [ends]
      simp only [read]
      exact closing

/-- **Reading a line gives exactly the outcome that the rules derive.** -/
theorem read_iff {line : Text} {outcome : Outcome Statement} :
    read scope limit line = outcome ↔ ReadsLine scope limit line outcome := by
  refine ⟨?_, ?_⟩
  · rintro rfl
    unfold read
    simp only
    cases keyword : (Cursor.start line).nextKeyword with
    | none => exact .noKeyword (Phrase.eq_none_of_ofMatch keyword)
    | some word =>
      have found := Phrase.eq_some_of_ofMatch keyword
      simp only
      split
      · next isLet => exact .assign found isLet (outcome_afterLet_iff.1 rfl)
      · -- both statement words are ruled out one after the other
        next notLet =>
        split
        · next isPrint => exact .print found isPrint (outcome_afterPrint_iff.1 rfl)
        · next notPrint => exact .unknown found notLet notPrint
  · intro derived
    unfold read
    cases derived with
    | noKeyword absent =>
      have noWord : (Cursor.start line).nextKeyword = none := Phrase.ofMatch_of_none absent
      simp only [noWord]
      rfl
    | unknown found notLet notPrint =>
      obtain ⟨p, scanned, rfl, rfl⟩ := Cursor.nextKeyword_of_scan found
      simp only [scanned, notLet, notPrint, if_false]
      rfl
    | assign found isLet rest =>
      obtain ⟨p, scanned, rfl, rfl⟩ := Cursor.nextKeyword_of_scan found
      simp only [scanned, isLet, if_true]
      rw [isLet] at rest
      exact outcome_afterLet_iff.2 rest
    | print found isPrint rest =>
      obtain ⟨p, scanned, rfl, rfl⟩ := Cursor.nextKeyword_of_scan found
      have notLet : ['p', 'r', 'i', 'n', 't'] ≠ ['l', 'e', 't'] := by decide
      simp only [scanned, isPrint, if_neg notLet, if_true]
      rw [isPrint] at rest
      exact outcome_afterPrint_iff.2 rest

theorem closed_eq_error_iff {statement : Statement} {c : Cursor} {rejection : Rejection} :
    closed statement c = .error rejection ↔
      c.skipGap.rest ≠ [] ∧
        rejection = ⟨.at .endOfLineExpected (.single c.nextPlace), c⟩ := by
  unfold closed
  cases ends : c.scanEndOfLine with
  | none =>
    have some_left := Cursor.scanEndOfLine_eq_none_iff.1 ends
    refine ⟨?_, ?_⟩
    · intro same
      exact ⟨some_left, (Except.error.inj same).symm⟩
    · rintro ⟨_, rfl⟩
      rfl
  | some found =>
    have none_left := (Cursor.scanEndOfLine_eq_some_iff.1 ends).1
    simp [none_left]

theorem closed_eq_ok_iff {statement found : Statement} {c lineEnd : Cursor} :
    closed statement c = .ok (found, lineEnd) ↔
      c.skipGap.rest = [] ∧ found = statement ∧ lineEnd = c.skipGap := by
  unfold closed
  cases ends : c.scanEndOfLine with
  | none =>
    have some_left := Cursor.scanEndOfLine_eq_none_iff.1 ends
    refine ⟨?_, ?_⟩
    · intro same
      cases same
    · rintro ⟨none_left, _⟩
      exact absurd none_left some_left
  | some pair =>
    obtain ⟨none_left, rfl⟩ := Cursor.scanEndOfLine_eq_some_iff.1 ends
    simp [none_left, eq_comm]

end Statement

/-! ## Execution -/

theorem outcome_eq_error_iff {store : Store} {line : Text} {error : LineError} :
    (executeWithin limit store line).outcome = .error error ↔
      ∃ place, ReadsLine store.isSet limit line (.error ⟨error, place⟩) := by
  simp only [← Statement.read_iff]
  rw [executeWithin_eq]
  cases Statement.read store.isSet limit line with
  | error rejection =>
    obtain ⟨other, place⟩ := rejection
    simp
  | ok pair => simp

theorem outcome_eq_ok_iff {store : Store} {line : Text} {effect : Effect} :
    (executeWithin limit store line).outcome = .ok effect ↔
      ∃ statement lineEnd, ReadsLine store.isSet limit line (.ok (statement, lineEnd)) ∧
        statement.effect store = effect := by
  simp only [← Statement.read_iff]
  rw [executeWithin_eq]
  cases Statement.read store.isSet limit line with
  | error rejection => simp
  | ok pair =>
    obtain ⟨statement, lineEnd⟩ := pair
    simp

end LineBasic
