import LineBasic.Cursor.Matcher
import LineBasic.Proofs.Evaluation

/-!
# Alternatives exclude each other

What a matcher looks for begins with a letter, a digit or a punctuation character of
its own, or is the end of the line. No two of these classes meet, so behind the gap
the next character alone tells which matchers can answer (`TokenGroup.of?`).

* **matchers** — a group of matchers answers exactly if the next character is one of
  its own (`TokenGroup.answers_iff`); keywords and variables begin in the same way,
  and a keyword is the front of the variable there (`Cursor.keyword_prefix`);
* **factors** — hence at most one form of factor is found at a place, and the form
  that is found does not depend on which one is tried first
  (`Expr.factorTrying_of_all`), also where each attempt goes on with the cursor that the
  one before it has left (`Evaluator.factorTrying_of_all`).

Main result: **`order_of_alternatives_never_counts`**.
-/

namespace LineBasic

/-! ## Groups of matchers -/

/-- The kinds of tokens by how they begin. -/
inductive TokenGroup
  | word
  | number
  | string
  | addOrSub
  | mulOrDiv
  | equals
  | comma
  | openParen
  | closeParen
  | endOfLine
  deriving DecidableEq, Repr

namespace TokenGroup

/-- The matchers that look for a kind. -/
def matchers : TokenGroup → List Matcher
  | word => [.keyword, .variable]
  | number => [.number]
  | string => [.string]
  | addOrSub => [.addOrSub]
  | mulOrDiv => [.mulOrDiv]
  | equals => [.literal ['=']]
  | comma => [.literal [',']]
  | openParen => [.literal ['(']]
  | closeParen => [.literal [')']]
  | endOfLine => [.endOfLine]

/-- How a kind begins behind the gap: with what character, or with none if there is
nothing left of the line. -/
def Begins (first : Option Char) : TokenGroup → Prop
  | word => ∃ ch, first = some ch ∧ isLetter ch = true
  | number => ∃ ch, first = some ch ∧ isDigit ch = true
  | string => first = some '"'
  | addOrSub => first = some '+' ∨ first = some '-'
  | mulOrDiv => first = some '*' ∨ first = some '/'
  | equals => first = some '='
  | comma => first = some ','
  | openParen => first = some '('
  | closeParen => first = some ')'
  | endOfLine => first = none

/-- The kind that begins with a punctuation character. -/
def ofMark? : Char → Option TokenGroup
  | '"' => some string
  | '+' | '-' => some addOrSub
  | '*' | '/' => some mulOrDiv
  | '=' => some equals
  | ',' => some comma
  | '(' => some openParen
  | ')' => some closeParen
  | _ => none

/-- The kind that begins in a way. -/
def of? : Option Char → Option TokenGroup
  | none => some endOfLine
  | some ch =>
    if isLetter ch then some word else if isDigit ch then some number else ofMark? ch

theorem of?_of_isDigit {ch : Char} (digit : isDigit ch = true) :
    of? (some ch) = some number := by
  simp [of?, digit, isLetter_of_isDigit digit]

theorem of?_of_mark {ch : Char} (mark : ch ∈ punctuation) : of? (some ch) = ofMark? ch := by
  obtain ⟨_, letter, digit⟩ := punctuation_apart mark
  simp [of?, letter, digit]

/-- **No two kinds begin alike**: how a kind begins tells which one it is. -/
theorem of?_eq_some_iff {first : Option Char} {group : TokenGroup} :
    of? first = some group ↔ group.Begins first := by
  constructor
  · intro found
    cases first with
    | none =>
      cases found
      rfl
    | some ch =>
      simp only [of?] at found
      split at found
      · next letter =>
        cases found
        exact ⟨ch, rfl, letter⟩
      split at found
      · next digit =>
        cases found
        exact ⟨ch, rfl, digit⟩
      · unfold ofMark? at found
        split at found <;> cases found <;> simp [Begins]
  · intro begins
    cases group with
    | word =>
      obtain ⟨ch, rfl, letter⟩ := begins
      simp [of?, letter]
    | number =>
      obtain ⟨ch, rfl, digit⟩ := begins
      exact of?_of_isDigit digit
    | addOrSub | mulOrDiv =>
      rcases begins with rfl | rfl
      · exact of?_of_mark (by decide)
      · exact of?_of_mark (by decide)
    | string | equals | comma | openParen | closeParen =>
      obtain rfl := begins
      exact of?_of_mark (by decide)
    | endOfLine =>
      obtain rfl := begins
      rfl

end TokenGroup

/-! ## What answers where -/

/-- A matcher does not fail: it finds a token, or an error. -/
def Matcher.Answers (matcher : Matcher) (c : Cursor) : Prop := (matcher.run c).1 ≠ .ok none

/-- Some matcher of the group does not fail. -/
def TokenGroup.Answers (group : TokenGroup) (c : Cursor) : Prop :=
  ∃ matcher ∈ group.matchers, matcher.Answers c

theorem Matcher.answers_iff {matcher : Matcher} {c : Cursor} :
    matcher.Answers c ↔ matcher.look c ≠ .ok none := by
  rw [Answers, run_eq]
  match matcher.look c with
  | .error error => simp
  | .ok none => simp
  | .ok (some (token, next)) => simp

theorem Matcher.look_of_run {matcher : Matcher} {c next : Cursor} {token : Token}
    (found : matcher.run c = (.ok (some token), next)) :
    matcher.look c = .ok (some (token, next)) := by
  rw [run_eq] at found
  split at found
  · cases found
  · cases found
  · next looked =>
    cases found
    exact looked

theorem not_stops_iff {p : Char → Bool} {t : Text} :
    ¬ Stops p t ↔ ∃ ch, t.head? = some ch ∧ p ch = true := by
  simp [Stops]

section Answers

variable {c : Cursor}

theorem Matcher.answers_scanWord_iff {matcher : Matcher} {kind : TokenKind}
    {first more : Char → Bool} (looks : matcher.look c = .ok (Cursor.scanWord kind first more c)) :
    matcher.Answers c ↔ ∃ ch, c.skipGap.rest.head? = some ch ∧ first ch = true := by
  rw [answers_iff, looks, ← not_stops_iff, ← @Cursor.scanWord_eq_none_iff kind first more]
  simp

theorem Matcher.answers_scanOperator_iff {matcher : Matcher} {a b : Char}
    (looks : matcher.look c = .ok (Cursor.scanOperator [[a], [b]] c)) :
    matcher.Answers c ↔ c.skipGap.rest.head? = some a ∨ c.skipGap.rest.head? = some b := by
  rw [answers_iff, looks, ne_eq, Except.ok.injEq]
  constructor
  · intro present
    obtain ⟨found, scanned⟩ := Option.ne_none_iff_exists'.1 present
    obtain ⟨symbol, rest, either, front, _⟩ := Cursor.scanOperator_eq_some_iff.1 scanned
    rw [front]
    exact either.imp (congrArg some) (congrArg some)
  · intro either absent
    obtain ⟨symbol, isSign, front⟩ : ∃ symbol, (symbol = a ∨ symbol = b) ∧
        c.skipGap.rest.head? = some symbol := by
      rcases either with front | front
      · exact ⟨a, .inl rfl, front⟩
      · exact ⟨b, .inr rfl, front⟩
    obtain ⟨rest, whole⟩ := List.head?_eq_some_iff.1 front
    rw [Cursor.scanOperator_eq_some_iff.2 ⟨symbol, rest, isSign, whole, rfl⟩] at absent
    cases absent

theorem Matcher.answers_literal_iff {symbol : Char} :
    (Matcher.literal [symbol]).Answers c ↔ c.skipGap.rest.head? = some symbol := by
  have absent := @Cursor.scanLiteral_eq_none_iff symbol c
  rw [answers_iff, look, ne_eq, Except.ok.injEq, absent, ne_eq, not_not]

theorem Matcher.answers_string_iff :
    Matcher.string.Answers c ↔ c.skipGap.rest.head? = some '"' := by
  rw [answers_iff, look, ne_eq, Cursor.scanString_eq_none_iff, ne_eq, not_not]

theorem Matcher.answers_endOfLine_iff :
    Matcher.endOfLine.Answers c ↔ c.skipGap.rest.head? = none := by
  rw [answers_iff, look, ne_eq, Except.ok.injEq, Cursor.scanEndOfLine_eq_none_iff, ne_eq, not_not,
    List.head?_eq_none_iff]

/-- A keyword and a variable begin alike. -/
theorem Matcher.answers_keyword_iff : Matcher.keyword.Answers c ↔ Matcher.variable.Answers c := by
  have keyword : Matcher.keyword.Answers c ↔ _ := answers_scanWord_iff rfl
  have word : Matcher.variable.Answers c ↔ _ := answers_scanWord_iff rfl
  rw [keyword, word]

/-- **Step.** The next character behind the gap tells which kind of token answers. -/
theorem TokenGroup.answers_iff {group : TokenGroup} :
    group.Answers c ↔ of? c.skipGap.rest.head? = some group := by
  rw [of?_eq_some_iff]
  unfold Answers
  cases group with
  | word =>
    have same := @Matcher.answers_keyword_iff c
    have word : Matcher.variable.Answers c ↔ _ := Matcher.answers_scanWord_iff rfl
    simp [matchers, Begins, same, word]
  | number =>
    have number : Matcher.number.Answers c ↔ _ := Matcher.answers_scanWord_iff rfl
    simp [matchers, Begins, number]
  | addOrSub =>
    have sign : Matcher.addOrSub.Answers c ↔ _ := Matcher.answers_scanOperator_iff rfl
    simp [matchers, Begins, sign]
  | mulOrDiv =>
    have sign : Matcher.mulOrDiv.Answers c ↔ _ := Matcher.answers_scanOperator_iff rfl
    simp [matchers, Begins, sign]
  | string => simp [matchers, Begins, Matcher.answers_string_iff]
  | equals | comma | openParen | closeParen =>
    simp [matchers, Begins, Matcher.answers_literal_iff]
  | endOfLine => simp only [matchers, Begins, List.mem_singleton, exists_eq_left,
      Matcher.answers_endOfLine_iff]

/-- **No two kinds of token answer at one place.** -/
theorem TokenGroup.Answers.unique {group group' : TokenGroup} (answers : group.Answers c)
    (answers' : group'.Answers c) : group = group' := by
  rw [answers_iff] at answers answers'
  exact Option.some.inj (answers.symm.trans answers')

end Answers

/-! ## Keywords and variables -/

/-- Where a keyword and a variable are found, the keyword is the front of the
variable. -/
theorem Cursor.keyword_prefix {c next next' : Cursor} {keyword name : Token}
    (found : c.scanKeyword = some (keyword, next)) (found' : c.scanVariable = some (name, next')) :
    keyword.lexeme <+: name.lexeme := by
  obtain ⟨letters, rest, isWord, stops, front, taken⟩ := scanWord_eq_some_iff.1 found
  obtain ⟨word, rest', isName, stops', front', taken'⟩ := scanWord_eq_some_iff.1 found'
  obtain ⟨rfl, _⟩ := Prod.mk.inj taken
  obtain ⟨rfl, _⟩ := Prod.mk.inj taken'
  show letters <+: word
  -- the characters of a name go on where the letters end
  rw [← takeWhile_of_stops (isName.all fun _ => isNameChar_of_isLetter) stops', ← front', front,
    List.takeWhile_append_of_pos fun ch member =>
      isNameChar_of_isLetter (isWord.all (fun _ => id) ch member)]
  exact List.prefix_append _ _

/-! ## Forms of factors -/

/-- The three forms of a factor. -/
inductive FactorForm
  | number
  | variable
  | group
  deriving DecidableEq, Repr

/-- The kind of token that a form begins with. -/
def FactorForm.begins : FactorForm → TokenGroup
  | number => .number
  | «variable» => .word
  | group => .openParen

/-- The token that a form begins with, as a phrase. -/
def FactorForm.next? (c : Cursor) : FactorForm → Option (Phrase c Token)
  | number => c.nextNumber
  | «variable» => c.nextVariable
  | group => c.nextSymbol '('

/-- The token that a form begins with answers there. -/
theorem FactorForm.answers_of_next? {c : Cursor} {form : FactorForm}
    (present : form.next? c ≠ none) : form.begins.Answers c := by
  obtain ⟨token, found⟩ := Option.ne_none_iff_exists'.1 present
  cases form with
  | number =>
    refine ⟨.number, List.mem_cons_self, Matcher.answers_iff.2 ?_⟩
    simp [Matcher.look, Phrase.eq_some_of_ofMatch found]
  | «variable» =>
    refine ⟨.variable, by simp [begins, TokenGroup.matchers], Matcher.answers_iff.2 ?_⟩
    simp [Matcher.look, Phrase.eq_some_of_ofMatch found]
  | group =>
    refine ⟨.literal ['('], List.mem_cons_self, Matcher.answers_iff.2 ?_⟩
    simp [Matcher.look, Phrase.eq_some_of_ofMatch found]

theorem FactorForm.begins_injective {form form' : FactorForm}
    (same : form.begins = form'.begins) : form = form' := by
  cases form <;> cases form' <;> simp_all [begins]

/-- Where at most one candidate has a result, all orders of all candidates find the
same. -/
theorem findSome?_eq_of_unique {α β : Type} {f : α → Option β}
    (unique : ∀ a b, f a ≠ none → f b ≠ none → a = b) {order order' : List α}
    (all : ∀ a, a ∈ order) (all' : ∀ a, a ∈ order') : order.findSome? f = order'.findSome? f := by
  cases found : order.findSome? f with
  | none =>
    have nowhere := List.findSome?_eq_none_iff.1 found
    exact (List.findSome?_eq_none_iff.2 fun a _ => nowhere a (all a)).symm
  | some x =>
    obtain ⟨a, _, here⟩ := List.exists_of_findSome?_eq_some found
    cases found' : order'.findSome? f with
    | none =>
      rw [List.findSome?_eq_none_iff.1 found' a (all' a)] at here
      cases here
    | some y =>
      obtain ⟨b, _, here'⟩ := List.exists_of_findSome?_eq_some found'
      have same : a = b := unique a b (by simp [here]) (by simp [here'])
      rw [← here, same, here']

namespace Expr

variable (scope : Scope) (limit : Nat) (inner : Option (Rule Expr))

/-- Reads a factor of one form, if the next token is one that it begins with. -/
def attempt (c : Cursor) : FactorForm → Option (Reading c Expr)
  | .number => c.nextNumber.map fun literal =>
    .ok (literal.withValue (.number literal.value.lexeme))
  | .variable => c.nextVariable.map fun word =>
    let name := fold word.value.lexeme
    if scope name then .ok (word.withValue (.variable name))
    else word.next.reject (.variableNotFound name) word.value.span
  | .group => (c.nextSymbol '(').map fun opening =>
    match inner with
    | none => opening.next.reject (.nestingTooDeep limit) opening.value.span
    | some rule =>
      match rule opening.next with
      | .error rejection => .error rejection
      | .ok body =>
        match body.next.nextSymbol ')' with
        | none => body.next.missing .missingRightParen
        | some closing => .ok ((opening.followedBy body ()).followedBy closing (.group body.value))

/-- Tries forms of a factor one after the other. -/
def factorTrying (order : List FactorForm) : Rule Expr := fun c =>
  match order.findSome? (attempt scope limit inner c) with
  | none => c.missing .expressionExpected
  | some reading => reading

theorem factorTrying_eq_factor :
    factorTrying scope limit inner [.number, .variable, .group] = factor scope limit inner := by
  funext c
  unfold factorTrying factor
  simp only [List.findSome?_cons, List.findSome?_nil, attempt]
  cases c.nextNumber with
  | some literal => rfl
  | none =>
    cases c.nextVariable with
    | some word => rfl
    | none =>
      cases c.nextSymbol '(' with
      | some opening => rfl
      | none => rfl

variable {scope limit inner}

/-- A form that is tried with a result begins there. -/
theorem answers_of_attempt {c : Cursor} {form : FactorForm}
    (present : attempt scope limit inner c form ≠ none) : form.begins.Answers c := by
  refine FactorForm.answers_of_next? ?_
  cases form with
  | number => exact mt Option.map_eq_none_iff.2 present
  | «variable» => exact mt Option.map_eq_none_iff.2 present
  | group => exact mt Option.map_eq_none_iff.2 present

/-- At most one form of factor is found at a place. -/
theorem attempt_unique {c : Cursor} {form form' : FactorForm}
    (present : attempt scope limit inner c form ≠ none)
    (present' : attempt scope limit inner c form' ≠ none) : form = form' :=
  FactorForm.begins_injective
    ((answers_of_attempt present).unique (answers_of_attempt present'))

/-- **Trying the forms of a factor in any order is reading a factor.** -/
theorem factorTrying_of_all {order : List FactorForm} (all : ∀ form, form ∈ order) :
    factorTrying scope limit inner order = factor scope limit inner := by
  have standard : ∀ form, form ∈ [FactorForm.number, .variable, .group] := by
    intro form
    cases form <;> decide
  rw [← factorTrying_eq_factor]
  funext c
  unfold factorTrying
  rw [findSome?_eq_of_unique (fun _ _ => attempt_unique) all standard]

end Expr

/-! ## Attempts one after another -/

namespace FactorForm

/-- Looks for the token that a form begins with. -/
def seek (c : Cursor) : FactorForm → Search c
  | number => c.seekNumber
  | «variable» => c.seekVariable
  | group => c.seekSymbol '('

theorem seek_eq (form : FactorForm) (c : Cursor) : form.seek c = .ofPhrase? (form.next? c) := by
  cases form with
  | number => exact c.seekNumber_eq
  | «variable» => exact c.seekVariable_eq
  | group => exact c.seekSymbol_eq '('

end FactorForm

namespace Evaluator

variable (store : Store) (limit : Nat) (inner : Option (Rule Float))

/-- Evaluates a factor of one form, behind the token that it begins with. -/
def behind {c : Cursor} (token : Phrase c Token) : FactorForm → Reading c Float
  | .number => .ok (token.withValue (literalValue token.value.lexeme))
  | .variable => lookUp store token
  | .group => group limit inner token

/-- Tries forms of a factor one after the other, each with the cursor that the one
before it has left. -/
def factorTrying : (order : List FactorForm) → Rule Float
  | [], c => c.missing .expressionExpected
  | form :: later, c =>
    match form.seek c with
    | .found token => behind store limit inner token form
    | .failed left notLonger => (factorTrying later left).since notLonger

theorem factorTrying_eq_factor :
    factorTrying store limit inner [.number, .variable, .group] = factor store limit inner := by
  funext c
  simp only [factorTrying, factor, FactorForm.seek, behind]
  cases c.seekNumber with
  | found literal => rfl
  | failed c₁ le₁ =>
    dsimp only
    cases c₁.seekVariable with
    | found word => rfl
    | failed c₂ le₂ =>
      dsimp only
      cases c₂.seekSymbol '(' with
      | found opening => exact Reading.since_since _ _ _
      | failed c₃ le₃ => rfl

/-- Every attempt finds what it would find at the cursor of the first one. -/
theorem factorTrying_eq (order : List FactorForm) (c : Cursor) :
    factorTrying store limit inner order c =
      match order.findSome? fun form =>
        (form.next? c).map fun token => behind store limit inner token form with
      | none => c.missing .expressionExpected
      | some reading => reading := by
  induction order with
  | nil => rfl
  | cons form later ih =>
    rw [factorTrying, form.seek_eq, List.findSome?_cons]
    cases form.next? c with
    | some token => rfl
    | none => exact (Reading.since_self _ _).trans ih

variable {store limit inner}

/-- **Trying the forms of a factor in any order is evaluating a factor.** -/
theorem factorTrying_of_all {order : List FactorForm} (all : ∀ form, form ∈ order) :
    factorTrying store limit inner order = factor store limit inner := by
  have standard : ∀ form, form ∈ [FactorForm.number, .variable, .group] := by
    intro form
    cases form <;> decide
  rw [← factorTrying_eq_factor]
  funext c
  rw [factorTrying_eq, factorTrying_eq]
  rw [findSome?_eq_of_unique ?_ all standard]
  intro form form' present present'
  exact FactorForm.begins_injective
    ((FactorForm.answers_of_next? (mt Option.map_eq_none_iff.2 present)).unique
      (FactorForm.answers_of_next? (mt Option.map_eq_none_iff.2 present')))

end Evaluator

/-- **The order of alternatives never counts.** Which matchers do not fail at a place
is told by the next character behind the gap alone, and these are of one kind only. Of
that kind, keywords and variables are found in the same places, and the keyword is the
front of the variable. So the forms of a factor may be tried in any order, even if each
attempt goes on with the cursor that the one before it has left. -/
theorem order_of_alternatives_never_counts :
    (∀ (c : Cursor) (group : TokenGroup),
      group.Answers c ↔ TokenGroup.of? c.skipGap.rest.head? = some group) ∧
    (∀ (c : Cursor) (group group' : TokenGroup),
      group.Answers c → group'.Answers c → group = group') ∧
    (∀ c : Cursor, (Matcher.keyword.Answers c ↔ Matcher.variable.Answers c) ∧
      ∀ keyword name next next', Matcher.keyword.run c = (.ok (some keyword), next) →
        Matcher.variable.run c = (.ok (some name), next') → keyword.lexeme <+: name.lexeme) ∧
    (∀ scope limit inner order, (∀ form, form ∈ order) →
      Expr.factorTrying scope limit inner order = Expr.factor scope limit inner) ∧
    ∀ store limit inner order, (∀ form, form ∈ order) →
      Evaluator.factorTrying store limit inner order = Evaluator.factor store limit inner := by
  refine ⟨fun c group => TokenGroup.answers_iff, fun c group group' => TokenGroup.Answers.unique,
    fun c => ⟨Matcher.answers_keyword_iff, ?_⟩,
    fun scope limit inner order => Expr.factorTrying_of_all,
    fun store limit inner order => Evaluator.factorTrying_of_all⟩
  intro keyword name next next' found found'
  exact Cursor.keyword_prefix (Except.ok.inj (Matcher.look_of_run found))
    (Except.ok.inj (Matcher.look_of_run found'))

/-- Parentheses may be tried first, and numbers last. -/
theorem factor_from_group_to_number :
    (∀ form, form ∈ [FactorForm.group, .variable, .number]) ∧
    Expr.factorTrying (fun _ => true) 200 none [.group, .variable, .number] =
      Expr.factor (fun _ => true) 200 none ∧
    Evaluator.factorTrying .empty 200 none [.group, .variable, .number] =
      Evaluator.factor .empty 200 none := by
  have all : ∀ form, form ∈ [FactorForm.group, .variable, .number] := by
    intro form
    cases form <;> decide
  obtain ⟨_, _, _, reading, evaluating⟩ := order_of_alternatives_never_counts
  exact ⟨all, reading _ _ _ _ all, evaluating _ _ _ _ all⟩

end LineBasic
