import LineBasic.Execution
import LineBasic.Statement.Reader
import LineBasic.Proofs.Reading

/-!
# Evaluating in one pass is reading, then evaluating

The evaluator has the numbers at hand while it decides how to go on. The reader of
trees has only the names that have values. Both come to the same, rule by rule:

* **attempts** — an attempt at a token finds what the matcher finds, and if it fails
  it has not moved (`Search.ofMatcher_eq`);
* **expressions** — the number of an expression is the value of its tree, and each is
  rejected where the other is, with the same error (`Evaluator.expression_eq`), by
  induction along the chain of operands and on the parentheses that may be open;
* **lists** — what has been written before a comma stays in front of what the rest of
  the list writes (`Evaluator.items_eq`).

Main result: **`Evaluator.line_eq`**. So no number ever decides how a line is read.
-/

namespace LineBasic

/-! ## Attempts -/

namespace Search

variable {c : Cursor}

/-- The attempt that finds a phrase, or fails on the spot. -/
def ofPhrase? : Option (Phrase c Token) → Search c
  | some token => .found token
  | none => .failed c (Nat.le_refl _)

theorem ofMatcher_eq {matcher : Cursor.Scan (Option Token)} {steady : Cursor.Steady matcher}
    {progress : ∀ token next, matcher.find c = some (token, next) →
      next.rest.length < c.rest.length} :
    ofMatcher matcher steady progress = ofPhrase? (Phrase.ofMatch (matcher.find c) progress) := by
  unfold ofMatcher
  split
  · next token next run =>
    obtain ⟨p, present, rfl, rfl⟩ :=
      @Phrase.ofMatch_of_some c _ progress _ _ (Cursor.Scan.find_of_run run)
    rw [present]
    rfl
  · next left run =>
    obtain rfl := steady.left_eq run
    rw [Phrase.ofMatch_of_none (by rw [Cursor.Scan.find, run])]
    rfl

end Search

namespace Cursor

variable (c : Cursor)

theorem seekVariable_eq : c.seekVariable = .ofPhrase? c.nextVariable := Search.ofMatcher_eq

theorem seekNumber_eq : c.seekNumber = .ofPhrase? c.nextNumber := Search.ofMatcher_eq

theorem seekSymbol_eq (symbol : Char) : c.seekSymbol symbol = .ofPhrase? (c.nextSymbol symbol) :=
  Search.ofMatcher_eq

theorem seekAddOrSub_eq : c.seekAddOrSub = .ofPhrase? c.nextAddOrSub := Search.ofMatcher_eq

theorem seekMulOrDiv_eq : c.seekMulOrDiv = .ofPhrase? c.nextMulOrDiv := Search.ofMatcher_eq

theorem matchKeyword_run : matchKeyword.run c = match c.scanKeyword with
    | none => (none, c)
    | some (token, next) => (some token, next) := (steady_matchWord _ _ _).run_eq c

theorem matchEndOfLine_run : matchEndOfLine.run c = match c.scanEndOfLine with
    | none => (none, c)
    | some (token, next) => (some token, next) := steady_matchEndOfLine.run_eq c

theorem seekString_eq : c.seekString = match c.nextString with
    | .error rejection => .error rejection
    | .ok found => .ok (.ofPhrase? found) := by
  unfold seekString
  split
  · next error left run =>
    obtain rfl := steady_matchString run (by simp)
    rw [nextString_of_error (by rw [scanString, run])]
  · next left run =>
    obtain rfl := steady_matchString run (by simp)
    rw [nextString_of_none (by rw [scanString, run])]
    rfl
  · next token next run =>
    obtain ⟨p, found, rfl, rfl⟩ := nextString_of_some (scanString_of_run run)
    rw [found]
    rfl

end Cursor

/-! ## Values of what is read -/

/-- A reading with another value. -/
def Reading.mapValue {c : Cursor} {α β : Type} (f : α → β) : Reading c α → Reading c β
  | .error rejection => .error rejection
  | .ok phrase => .ok (phrase.withValue (f phrase.value))

/-- A reading with other values goes on where the reading does. -/
theorem Reading.exists_of_mapValue {c : Cursor} {α β : Type} {f : α → β} {reading : Reading c α}
    {p : Phrase c β} (read : reading.mapValue f = .ok p) :
    ∃ q, reading = .ok q ∧ p.next = q.next := by
  cases reading with
  | error rejection => cases read
  | ok phrase =>
    cases read
    exact ⟨phrase, rfl, rfl⟩

theorem Reading.since_self {c : Cursor} {α : Type} (reading : Reading c α)
    (notLonger : c.rest.length ≤ c.rest.length) : reading.since notLonger = reading := by
  cases reading with
  | error rejection => rfl
  | ok phrase => rfl

theorem Reading.since_since {c d e : Cursor} {α : Type} (reading : Reading e α)
    (notLonger : e.rest.length ≤ d.rest.length) (notLonger' : d.rest.length ≤ c.rest.length) :
    (reading.since notLonger).since notLonger' =
      reading.since (Nat.le_trans notLonger notLonger') := by
  cases reading with
  | error rejection => rfl
  | ok phrase => rfl

/-- A rule with other values. -/
def Rule.mapValue {α β : Type} (f : α → β) (rule : Rule α) : Rule β := fun c =>
  (rule c).mapValue f

namespace Evaluator

variable {store : Store} {limit : Nat}

/-! ## Expressions -/

/-- The numbers of what a rule of trees reads. -/
abbrev numbers (store : Store) (rule : Rule Expr) : Rule Float := rule.mapValue (Expr.value store)

section Chains

variable {operator : (c : Cursor) → Option (Phrase c Token)}
  {operator' : (c : Cursor) → Search c} {operand : Rule Expr}

/-- An operator is applied to the numbers when it is put between the trees. -/
theorem chain_eq (signs : ∀ c, operator' c = .ofPhrase? (operator c)) {c : Cursor}
    (left : Phrase c Expr) :
    chain operator' (numbers store operand) (left.withValue (left.value.value store)) =
      (Expr.chain operator operand left).mapValue (Expr.value store) := by
  fun_induction Expr.chain operator operand left with
  | case1 left noSign =>
    rw [chain]
    dsimp only [Phrase.withValue]
    rw [signs, noSign]
    rfl
  | case2 left sign found rejection fails =>
    rw [chain]
    dsimp only [Phrase.withValue]
    rw [signs, found]
    simp only [Search.ofPhrase?, numbers, Rule.mapValue, fails, Reading.mapValue]
  | case3 left sign found right read unknown =>
    rw [chain]
    dsimp only [Phrase.withValue]
    rw [signs, found]
    simp only [Search.ofPhrase?, numbers, Rule.mapValue, read, unknown, Reading.mapValue]
    rfl
  | case4 left sign found right read operation known ih =>
    rw [← ih, chain]
    dsimp only [Phrase.withValue]
    rw [signs, found]
    simp only [Search.ofPhrase?, numbers, Rule.mapValue, read, known, Reading.mapValue]
    rfl

theorem leftGrouped_eq (signs : ∀ c, operator' c = .ofPhrase? (operator c)) :
    leftGrouped operator' (numbers store operand) =
      numbers store (Expr.leftGrouped operator operand) := by
  funext c
  simp only [leftGrouped, numbers, Rule.mapValue, Expr.leftGrouped]
  cases operand c with
  | error rejection => rfl
  | ok first => exact chain_eq signs first

end Chains

theorem sums_eq (factor : Rule Expr) :
    sums (numbers store factor) = numbers store (Expr.sums factor) := by
  unfold sums Expr.sums
  rw [leftGrouped_eq Cursor.seekMulOrDiv_eq, leftGrouped_eq Cursor.seekAddOrSub_eq]

/-- A variable is rejected by its name. -/
theorem lookUp_eq {c : Cursor} (word : Phrase c Token) :
    lookUp store word =
      Reading.mapValue (Expr.value store)
        (let name := fold word.value.lexeme
        if store.isSet name then .ok (word.withValue (.variable name))
        else word.next.reject (.variableNotFound name) word.value.span) := by
  simp only [lookUp]
  split
  · next absent => simp [Store.isSet, absent, Cursor.reject, Reading.mapValue]
  · next x found => simp [Store.isSet, found, Reading.mapValue, Phrase.withValue, Expr.value]

/-- A group is rejected for its parentheses, or for what is rejected in it. -/
theorem group_eq (inner : Option (Rule Expr)) {c : Cursor} (opening : Phrase c Token) :
    group limit (inner.map (numbers store)) opening =
      Reading.mapValue (Expr.value store)
        (match inner with
        | none => opening.next.reject (.nestingTooDeep limit) opening.value.span
        | some rule =>
          match rule opening.next with
          | .error rejection => .error rejection
          | .ok body =>
            match body.next.nextSymbol ')' with
            | none => body.next.missing .missingRightParen
            | some closing =>
              .ok ((opening.followedBy body ()).followedBy closing (.group body.value))) := by
  cases inner with
  | none => rfl
  | some rule =>
    simp only [group, Option.map_some, numbers, Rule.mapValue]
    cases rule opening.next with
    | error rejection => rfl
    | ok body =>
      dsimp only [Reading.mapValue, Phrase.withValue]
      rw [Cursor.seekSymbol_eq]
      cases body.next.nextSymbol ')' with
      | none => rfl
      | some closing => rfl

/-- A factor is told by its first token, whatever the numbers are. -/
theorem factor_eq (inner : Option (Rule Expr)) :
    factor store limit (inner.map (numbers store)) =
      numbers store (Expr.factor store.isSet limit inner) := by
  funext c
  simp only [factor, numbers, Rule.mapValue, Expr.factor]
  rw [c.seekNumber_eq]
  cases c.nextNumber with
  | some literal => rfl
  | none =>
    dsimp only [Search.ofPhrase?]
    rw [c.seekVariable_eq]
    cases c.nextVariable with
    | some word => exact (Reading.since_self _ _).trans (lookUp_eq word)
    | none =>
      dsimp only [Search.ofPhrase?]
      rw [c.seekSymbol_eq]
      cases c.nextSymbol '(' with
      | none => rfl
      | some opening => exact (Reading.since_self _ _).trans (group_eq inner opening)

/-- The number of an expression is the value of its tree. -/
theorem expression_eq (store : Store) (limit allowance : Nat) :
    expression store limit allowance =
      numbers store (Expr.expression store.isSet limit allowance) := by
  induction allowance with
  | zero =>
    rw [expression, Expr.expression, ← sums_eq, ← factor_eq]
    rfl
  | succ allowance ih =>
    rw [expression, Expr.expression, ← sums_eq, ← factor_eq, ih]
    rfl

/-- The rule within parentheses, if they are allowed. -/
def inner (store : Store) (limit : Nat) : (allowance : Nat) → Option (Rule Float)
  | 0 => none
  | allowance + 1 => some (expression store limit allowance)

theorem inner_eq (store : Store) (limit allowance : Nat) :
    inner store limit allowance =
      (Expr.inner store.isSet limit allowance).map (numbers store) := by
  cases allowance with
  | zero => rfl
  | succ allowance => exact congrArg some (expression_eq store limit allowance)

/-- The rule for the operands of a group of operators. -/
def operandRule (store : Store) (limit allowance : Nat) : Tier → Rule Float
  | .product => factor store limit (inner store limit allowance)
  | .sum => leftGrouped Cursor.seekMulOrDiv (factor store limit (inner store limit allowance))

theorem operandRule_eq (store : Store) (limit allowance : Nat) (tier : Tier) :
    operandRule store limit allowance tier =
      numbers store (Expr.operandRule store.isSet limit allowance tier) := by
  cases tier with
  | product => rw [operandRule, inner_eq, factor_eq, Expr.operandRule]
  | sum =>
    rw [operandRule, inner_eq, factor_eq, leftGrouped_eq Cursor.seekMulOrDiv_eq,
      Expr.operandRule]

/-! ## Values -/

/-- A value is a string, or the number of an expression. -/
theorem item_eq (rule : Rule Expr) :
    item (numbers store rule) = (Item.rule rule).mapValue (Item.value store) := by
  funext c
  simp only [item, Rule.mapValue, Item.rule]
  rw [c.seekString_eq]
  match c.nextString with
  | .error rejection => rfl
  | .ok (some quoted) => rfl
  | .ok none =>
    dsimp only [Search.ofPhrase?]
    cases rule c with
    | error rejection => rfl
    | ok e => rfl

/-- The texts of values, one after another. -/
def texts (store : Store) (items : List Item) : Text :=
  items.flatMap fun item => (item.value store).display

/-- What the list writes behind a comma comes behind what has been written. -/
theorem items_eq (rule : Rule Item) {c : Cursor} (written : Phrase c Text) :
    items (rule.mapValue (Item.value store)) written =
      match written.next.nextSymbol ',' with
      | none => .ok written
      | some comma =>
        match Item.list rule comma.next with
        | .error rejection => .error rejection
        | .ok others => .ok ((written.followedBy comma ()).followedBy others
            (written.value ++ texts store others.value)) := by
  rw [items, Cursor.seekSymbol_eq]
  cases written.next.nextSymbol ',' with
  | none => rfl
  | some comma =>
    dsimp only [Search.ofPhrase?]
    rw [Item.list]
    simp only [Rule.mapValue]
    cases rule comma.next with
    | error rejection => rfl
    | ok first =>
      dsimp only [Reading.mapValue]
      rw [items_eq rule]
      dsimp only [Phrase.followedBy, Phrase.withValue]
      cases first.next.nextSymbol ',' with
      | none => simp [texts]
      | some comma' =>
        dsimp only
        cases Item.list rule comma'.next with
        | error rejection => rfl
        | ok others => simp [texts]
termination_by written.next.rest.length
decreasing_by exact Nat.lt_trans first.shorter comma.shorter

/-! ## Lines -/

/-- The effect of a statement that has been read. -/
def effects (store : Store) : Statement.Result → Result
  | .error rejection => .error rejection
  | .ok (statement, lineEnd) => .ok (statement.effect store, lineEnd)

theorem closed_eq (statement : Statement) (c : Cursor) :
    closed (statement.effect store) c = effects store (Statement.closed statement c) := by
  unfold closed Statement.closed
  rw [c.matchEndOfLine_run]
  cases c.scanEndOfLine with
  | none => rfl
  | some found => rfl

theorem afterLet_eq (rule : Rule Expr) (c : Cursor) :
    afterLet (numbers store rule) c = effects store (Statement.afterLet rule c) := by
  unfold afterLet Statement.afterLet
  rw [c.seekVariable_eq]
  cases c.nextVariable with
  | none => rfl
  | some target =>
    dsimp only [Search.ofPhrase?]
    rw [Cursor.seekSymbol_eq]
    cases target.next.nextSymbol '=' with
    | none => rfl
    | some equals =>
      dsimp only [Search.ofPhrase?, numbers, Rule.mapValue]
      cases rule equals.next with
      | error rejection => rfl
      | ok source => exact closed_eq (.assign (fold target.value.lexeme) source.value) source.next

theorem afterPrint_eq (rule : Rule Expr) (c : Cursor) :
    afterPrint (numbers store rule) c = effects store (Statement.afterPrint rule c) := by
  unfold afterPrint Statement.afterPrint
  rw [c.matchEndOfLine_run]
  cases c.scanEndOfLine with
  | some found => rfl
  | none =>
    rw [Item.list]
    simp only [item_eq, Rule.mapValue]
    cases Item.rule rule c with
    | error rejection => rfl
    | ok first =>
      dsimp only [Reading.mapValue]
      rw [items_eq]
      dsimp only [Phrase.withValue]
      cases first.next.nextSymbol ',' with
      | none =>
        rw [← closed_eq]
        simp [Statement.effect]
      | some comma =>
        dsimp only
        cases Item.list (Item.rule rule) comma.next with
        | error rejection => rfl
        | ok others => exact closed_eq (.print (first.value :: others.value)) others.next

/-- **Evaluating a line as it is read is reading it and then taking the effect of its
statement.** -/
theorem line_eq (store : Store) (limit : Nat) (text : Text) :
    line store limit text = effects store (Statement.read store.isSet limit text) := by
  simp only [line, Statement.read, Cursor.matchKeyword_run]
  cases found : (Cursor.start text).nextKeyword with
  | none =>
    rw [Phrase.eq_none_of_ofMatch found]
    rfl
  | some first =>
    rw [Phrase.eq_some_of_ofMatch found]
    dsimp only
    rw [expression_eq, afterLet_eq, afterPrint_eq]
    split
    · rfl
    · split <;> rfl

end Evaluator

/-- **Executing a line is reading its statement and then taking its effect.** -/
theorem executeWithin_eq (limit : Nat) (store : Store) (line : Text) :
    executeWithin limit store line = match Statement.read store.isSet limit line with
      | .error rejection => ⟨.error rejection.error, store, rejection.place.trace.reverse⟩
      | .ok (statement, lineEnd) =>
        let effect := statement.effect store
        ⟨.ok effect, effect.update store, lineEnd.trace.reverse ++ effect.events⟩ := by
  rw [executeWithin, Evaluator.line_eq]
  cases Statement.read store.isSet limit line with
  | error rejection => rfl
  | ok found => rfl

end LineBasic
