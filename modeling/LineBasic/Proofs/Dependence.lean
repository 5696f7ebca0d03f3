import LineBasic.Proofs.Coverage
import LineBasic.Proofs.Recognition

/-!
# What a line depends on

The variables matched while a line is read tell all that its outcome depends
on. Those matched as operands are looked up in the store (`operandTokens`); the
target of an assignment is only written to.

* **reading** — what reading comes to hinges on these names alone (`Hinges`,
  `Reads.hinges`, `ReadsLine.hinges`), and each of them is in scope unless it is
  the undefined variable that ends the work;
* **names** — every name of a tree that was read has been looked up
  (`ReadsLine.names_lookedUp`);
* **values** — a tree means the same to stores that agree on its names
  (`Expr.value_congr`, `Statement.effect_congr`).

Main result: **`outcome_depends_on_operands`**.
-/

namespace LineBasic

/-! ## Variables of a trace -/

/-- The statement word that an observation tells. -/
def Event.word? : Event → Option Text
  | .dispatching word => some word
  | _ => none

/-- The variables matched in the course of some observations. -/
def variableTokens (events : List Event) : List Token :=
  (matchedTokens events).filter fun token => token.kind = .variable

/-- The variables matched as operands. On the line of an assignment, the first
one is its target. -/
def operandTokens (events : List Event) : List Token :=
  if events.findSome? Event.word? = some ['l', 'e', 't'] then (variableTokens events).tail
  else variableTokens events

theorem variableTokens_append (events later : List Event) :
    variableTokens (events ++ later) = variableTokens events ++ variableTokens later := by
  simp [variableTokens, matchedTokens]

theorem variableTokens_reverse (events : List Event) :
    variableTokens events.reverse = (variableTokens events).reverse := by
  simp [variableTokens, matchedTokens_reverse, List.filter_reverse]

/-- What an effect adds to the observations is about no operand. -/
theorem operandTokens_append_events (events : List Event) (effect : Effect) :
    operandTokens (events ++ effect.events) = operandTokens events := by
  have noWord : effect.events.findSome? Event.word? = none := by cases effect <;> rfl
  have noVariable : variableTokens effect.events = [] := by cases effect <;> rfl
  rw [operandTokens, operandTokens, variableTokens_append, noVariable, List.append_nil,
    List.findSome?_append, noWord, Option.or_none]

/-! ## Steps that match no variable -/

namespace Cursor

/-- A step whose observation is about no variable. -/
def Plain (c next : Cursor) : Prop :=
  ∃ event, next.trace = event :: c.trace ∧ variableTokens [event] = []

variable {c next : Cursor} {token : Token}

theorem plain_of_trace (trace : next.trace = .matched token :: c.trace)
    (other : token.kind ≠ .variable) : c.Plain next := by
  refine ⟨.matched token, trace, ?_⟩
  simp [variableTokens, matchedTokens, Event.token?, other]

theorem plain_of_scanWord {kind : TokenKind} {first more : Char → Bool} (other : kind ≠ .variable)
    (found : scanWord kind first more c = some (token, next)) : c.Plain next := by
  obtain ⟨_, form, trace⟩ := consumes_of_scanWord found
  refine plain_of_trace trace ?_
  rw [form]
  exact other

theorem plain_of_scanLiteral {text : Text} (found : scanLiteral text c = some (token, next)) :
    c.Plain next := by
  refine plain_of_trace (trace_of_scanLiteral found) ?_
  rw [(consumes_of_scanLiteral found).2]
  simp

theorem plain_of_scanTier {tier : Tier} (found : tier.scan c = some (token, next)) :
    c.Plain next := by
  obtain ⟨operator, _, rest, front, taken⟩ := Tier.scan_eq_some_iff.1 found
  have literal : scanLiteral [operator.symbol] c =
      some (c.skipGap.take .literal [operator.symbol] rest) :=
    scanLiteral_eq_some_iff.2 ⟨rest, front, rfl⟩
  obtain ⟨_, rfl⟩ := Prod.mk.inj taken
  exact plain_of_scanLiteral literal

theorem plain_of_scanString (found : c.scanString = .ok (some (token, next))) : c.Plain next := by
  refine plain_of_trace (trace_of_scanString found) ?_
  obtain ⟨_, _, _, _, taken⟩ := scanString_eq_string_iff.1 found
  rw [(Prod.mk.inj taken).1]
  simp

theorem plain_printable (c : Cursor) (kind : ValueKind) : c.Plain (c.observe (.printable kind)) :=
  ⟨_, rfl, rfl⟩

end Cursor

open Cursor Outcome

/-! ## What reading hinges on -/

/-- Two scopes agree on the names of these variables. -/
def AgreeOn (tokens : List Token) (scope scope' : Scope) : Prop :=
  ∀ token ∈ tokens, scope' (fold token.lexeme) = scope (fold token.lexeme)

/-- The outcome of a reading hinges on these variables: each of them is in scope
or is what the line is rejected for, and every scope that agrees on them reads
alike. -/
structure Hinges {α : Type} (scope : Scope) (tokens : List Token) (outcome : Outcome α)
    (reads : Scope → Prop) : Prop where
  inScope : ∀ token ∈ tokens, scope (fold token.lexeme) = true ∨
    ∃ rejection, outcome = .error rejection ∧
      rejection.error.cause = .variableNotFound (fold token.lexeme)
  transfer : ∀ scope', AgreeOn tokens scope scope' → reads scope'

/-- The outcome hinges on the variables matched behind `c`. -/
inductive HingesFrom {α : Type} (scope : Scope) (c : Cursor) (outcome : Outcome α)
    (reads : Scope → Prop) : Prop
  | on (events : List Event) :
      (reached outcome).trace = events ++ c.trace →
      Hinges scope (variableTokens events) outcome reads → HingesFrom scope c outcome reads

/-- Where nothing is looked up, the scope does not matter. -/
theorem Hinges.nothing {α : Type} {scope : Scope} {outcome : Outcome α} {reads : Scope → Prop}
    (always : ∀ scope', reads scope') : Hinges scope [] outcome reads := by
  refine ⟨?_, fun scope' _ => always scope'⟩
  intro token member
  cases member

/-- The order of the variables does not matter. -/
theorem Hinges.congr {α : Type} {scope : Scope} {tokens tokens' : List Token}
    {outcome : Outcome α} {reads : Scope → Prop} (hinges : Hinges scope tokens outcome reads)
    (same : ∀ token, token ∈ tokens' ↔ token ∈ tokens) : Hinges scope tokens' outcome reads := by
  refine ⟨?_, ?_⟩
  · intro token member
    exact hinges.inScope token ((same token).1 member)
  · intro scope' agree
    exact hinges.transfer scope' fun token member => agree token ((same token).2 member)

theorem Hinges.map {α : Type} {scope : Scope} {tokens : List Token} {outcome : Outcome α}
    {part reads : Scope → Prop} (hinges : Hinges scope tokens outcome part)
    (onward : ∀ scope', part scope' → reads scope') : Hinges scope tokens outcome reads :=
  ⟨hinges.inScope, fun scope' agree => onward scope' (hinges.transfer scope' agree)⟩

namespace HingesFrom

variable {α β : Type} {scope : Scope} {c d next : Cursor} {reads : Scope → Prop}

/-- Where nothing is matched, the scope is not asked. -/
theorem still {outcome : Outcome α} (trace : (reached outcome).trace = c.trace)
    (always : ∀ scope', reads scope') : HingesFrom scope c outcome reads :=
  .on [] trace (.nothing always)

theorem plain {outcome : Outcome α} (plain : c.Plain (reached outcome))
    (always : ∀ scope', reads scope') : HingesFrom scope c outcome reads := by
  obtain ⟨event, trace, none_matched⟩ := plain
  refine .on [event] trace ?_
  rw [none_matched]
  exact .nothing always

/-- A variable is matched and looked up. -/
theorem lookup {outcome : Outcome α} {token : Token}
    (found : c.scanVariable = some (token, reached outcome))
    (inScope : scope (fold token.lexeme) = true ∨ ∃ rejection, outcome = .error rejection ∧
      rejection.error.cause = .variableNotFound (fold token.lexeme))
    (transfer : ∀ scope' : Scope, scope' (fold token.lexeme) = scope (fold token.lexeme) →
      reads scope') : HingesFrom scope c outcome reads := by
  obtain ⟨_, form, trace⟩ := consumes_of_scanWord found
  have kind : token.kind = .variable := by rw [form]
  have matched : variableTokens [.matched token] = [token] := by
    simp [variableTokens, matchedTokens, Event.token?, kind]
  refine .on [.matched token] trace ⟨?_, ?_⟩
  · intro other member
    rw [matched, List.mem_singleton] at member
    rw [member]
    exact inScope
  · intro scope' agree
    rw [matched] at agree
    exact transfer scope' (agree token List.mem_cons_self)

/-- Two readings, one behind the other, hinge on the variables of both. -/
theorem andThen {value : α} {outcome : Outcome β} {part rest : Scope → Prop}
    (first : HingesFrom scope c (.ok (value, next) : Outcome α) part)
    (second : HingesFrom scope next outcome rest)
    (both : ∀ scope', part scope' → rest scope' → reads scope') :
    HingesFrom scope c outcome reads := by
  obtain ⟨events, trace, hinges⟩ := first
  obtain ⟨later, trace', hinges'⟩ := second
  have whole : (reached outcome).trace = (later ++ events) ++ c.trace := by
    rw [trace', List.append_assoc, ← trace]
    rfl
  refine .on (later ++ events) whole ⟨?_, ?_⟩
  · intro token member
    rw [variableTokens_append] at member
    rcases List.mem_append.1 member with late | early
    · exact hinges'.inScope token late
    · -- the first reading was no rejection
      rcases hinges.inScope token early with inScope | ⟨_, same, _⟩
      · exact .inl inScope
      · cases same
  · intro scope' agree
    rw [variableTokens_append] at agree
    obtain ⟨agreeLate, agreeEarly⟩ := List.forall_mem_append.1 agree
    exact both scope' (hinges.transfer scope' agreeEarly) (hinges'.transfer scope' agreeLate)

/-- What is made of the value that was read does not matter. -/
theorem withValue {value : α} {value' : β} {part : Scope → Prop}
    (hinges : HingesFrom scope c (.ok (value, next) : Outcome α) part)
    (onward : ∀ scope', part scope' → reads scope') :
    HingesFrom scope c (.ok (value', next) : Outcome β) reads := by
  have same : HingesFrom scope next (.ok (value', next) : Outcome β) fun _ => True :=
    .still rfl fun _ => trivial
  exact hinges.andThen same fun scope' inner _ => onward scope' inner

/-- A step without a variable adds nothing to hinge on. -/
theorem after {outcome : Outcome α} {part : Scope → Prop}
    (hinges : HingesFrom scope next outcome part) (plain : c.Plain next)
    (onward : ∀ scope', part scope' → reads scope') : HingesFrom scope c outcome reads := by
  have step : HingesFrom scope c (.ok ((), next) : Outcome Unit) fun _ => True :=
    .plain plain fun _ => trivial
  exact step.andThen hinges fun scope' _ => onward scope'

/-- A rejection is one whatever was being read. -/
theorem fails {rejection : Rejection} {part : Scope → Prop}
    (hinges : HingesFrom scope c (.error rejection : Outcome α) part)
    (stops : ∀ scope', part scope' → reads scope') :
    HingesFrom scope c (.error rejection : Outcome β) reads := by
  obtain ⟨events, trace, hinges⟩ := hinges
  refine .on events trace ⟨?_, (hinges.map stops).transfer⟩
  intro token member
  rcases hinges.inScope token member with inScope | ⟨_, same, cause⟩
  · exact .inl inScope
  · cases same
    exact .inr ⟨rejection, rfl, cause⟩

end HingesFrom

section Reading

variable {scope : Scope} {limit : Nat} {c : Cursor}

/-- **What reading an expression comes to hinges on the variables it matches.** -/
theorem Reads.hinges {category : Category} {n : Nat} {outcome : Outcome Expr}
    (read : Reads scope limit category n c outcome) :
    HingesFrom scope c outcome fun scope' => Reads scope' limit category n c outcome := by
  induction read with
  | number found => exact .plain (plain_of_scanWord (by simp) found) fun _ => .number found
  | bound found isSet =>
    exact .lookup found (.inl isSet) fun _ same => .bound found (same.trans isSet)
  | unbound found unset =>
    exact .lookup found (.inr ⟨_, rfl, rfl⟩) fun _ same => .unbound found (same.trans unset)
  | tooDeep found => exact .plain (plain_of_scanLiteral found) fun _ => .tooDeep found
  | groupFails found _ ih => exact ih.after (plain_of_scanLiteral found) fun _ => .groupFails found
  | @unclosed n c token next e body found _ missing ih =>
    have stops : HingesFrom scope body
        (.error ⟨.at .missingRightParen (.single body.nextPlace), body⟩ : Outcome Expr)
        fun _ => True := .still rfl fun _ => trivial
    exact (ih.andThen stops fun _ inner _ => .unclosed found inner missing).after
      (plain_of_scanLiteral found) fun _ => id
  | @group n c token next e body closing after found _ closed ih =>
    have closes : HingesFrom scope body (.ok (.group e, after) : Outcome Expr) fun _ => True :=
      .plain (plain_of_scanLiteral closed) fun _ => trivial
    exact (ih.andThen closes fun _ inner _ => .group found inner closed).after
      (plain_of_scanLiteral found) fun _ => id
  | absent noNumber noName noParen => exact .still rfl fun _ => .absent noNumber noName noParen
  | firstFails _ ih => exact ih.fails fun _ => .firstFails
  | first _ _ ihFirst ihChain => exact ihFirst.andThen ihChain fun _ => .first
  | done absent => exact .still rfl fun _ => .done absent
  | operandFails found _ ih => exact ih.after (plain_of_scanTier found) fun _ => .operandFails found
  | more found known _ _ ihRight ihChain =>
    exact (ihRight.andThen ihChain fun _ => .more found known).after (plain_of_scanTier found)
      fun _ => id

/-! Items and lines hinge on the same, and the end of a line on nothing. -/

theorem ReadsItem.hinges {outcome : Outcome Item} (read : ReadsItem scope limit c outcome) :
    HingesFrom scope c outcome fun scope' => ReadsItem scope' limit c outcome := by
  cases read with
  | unterminated found => exact .still rfl fun _ => .unterminated found
  | @string token next found =>
    have quoted : HingesFrom scope c (.ok (token, next) : Outcome Token) fun _ => True :=
      .plain (plain_of_scanString found) fun _ => trivial
    have shown : HingesFrom scope next
        (.ok (.string token.lexeme, next.observe (.printable .string)) : Outcome Item)
        fun _ => True := .plain (plain_printable _ _) fun _ => trivial
    exact quoted.andThen shown fun _ _ _ => .string found
  | exprFails noString failed => exact failed.hinges.fails fun _ => .exprFails noString
  | @expr e next noString body =>
    have shown : HingesFrom scope next
        (.ok (.expr e, next.observe (.printable .number)) : Outcome Item) fun _ => True :=
      .plain (plain_printable _ _) fun _ => trivial
    exact body.hinges.andThen shown fun _ inner _ => .expr noString inner

theorem ReadsItems.hinges {outcome : Outcome (List Item)}
    (read : ReadsItems scope limit c outcome) :
    HingesFrom scope c outcome fun scope' => ReadsItems scope' limit c outcome := by
  induction read with
  | firstFails failed => exact failed.hinges.fails fun _ => .firstFails
  | last first noComma => exact first.hinges.withValue fun _ inner => .last inner noComma
  | restFails first found _ ih =>
    exact first.hinges.andThen (ih.after (plain_of_scanLiteral found) fun _ => id)
      fun _ inner => .restFails inner found
  | more first found _ ih =>
    exact first.hinges.andThen ((ih.after (plain_of_scanLiteral found) fun _ => id).withValue
      fun _ => id) fun _ inner => .more inner found

theorem hinges_closed (statement : Statement) (c : Cursor) :
    HingesFrom scope c (Statement.closed statement c) fun _ => True :=
  .still (Statement.trace_closed statement c) fun _ => trivial

theorem ReadsPrint.hinges {outcome : Outcome Statement}
    (read : ReadsPrint scope limit c outcome) :
    HingesFrom scope c outcome fun scope' => ReadsPrint scope' limit c outcome := by
  cases read with
  | bare ends =>
    obtain ⟨_, taken⟩ := scanEndOfLine_eq_some_iff.1 ends
    obtain ⟨_, rfl⟩ := Prod.mk.inj taken
    exact .still rfl fun _ => .bare ends
  | itemsFail noEnd failed => exact failed.hinges.fails fun _ => .itemsFail noEnd
  | items noEnd list closing =>
    subst closing
    exact list.hinges.andThen (hinges_closed _ _) fun _ inner _ => .items noEnd inner rfl

/-- Up to the source of an assignment, one variable is matched: the target. -/
theorem HingesFrom.behindTarget {next after : Cursor} {target equals : Token}
    {outcome : Outcome Statement} {reads : Scope → Prop}
    (hinges : HingesFrom scope after outcome reads)
    (found : c.scanVariable = some (target, next))
    (sign : next.scanLiteral ['='] = some (equals, after)) :
    ∃ events, (reached outcome).trace = events ++ c.trace ∧
      Hinges scope (variableTokens events).dropLast outcome reads := by
  obtain ⟨later, trace, hinges⟩ := hinges
  obtain ⟨_, form, named⟩ := consumes_of_scanWord found
  have signed := trace_of_scanLiteral sign
  have kind : target.kind = .variable := by rw [form]
  have kind' : equals.kind = .literal := by rw [(consumes_of_scanLiteral sign).2]
  refine ⟨later ++ [.matched equals, .matched target], ?_, ?_⟩
  · rw [trace, signed, named]
    simp
  · have matched : variableTokens [.matched equals, .matched target] = [target] := by
      simp [variableTokens, matchedTokens, Event.token?, kind, kind']
    rw [variableTokens_append, matched, List.dropLast_concat]
    exact hinges

theorem ReadsLet.hinges {outcome : Outcome Statement} (read : ReadsLet scope limit c outcome) :
    ∃ events, (reached outcome).trace = events ++ c.trace ∧
      Hinges scope (variableTokens events).dropLast outcome
        fun scope' => ReadsLet scope' limit c outcome := by
  cases read with
  | noVariable absent => exact ⟨[], rfl, .nothing fun _ => .noVariable absent⟩
  | @noEquals target next found absent =>
    obtain ⟨_, form, trace⟩ := consumes_of_scanWord found
    have kind : target.kind = .variable := by rw [form]
    refine ⟨[.matched target], trace, ?_⟩
    have matched : variableTokens [.matched target] = [target] := by
      simp [variableTokens, matchedTokens, Event.token?, kind]
    rw [matched]
    exact .nothing fun _ => .noEquals found absent
  | sourceFails found sign failed =>
    have rejected : HingesFrom scope _ (.error _ : Outcome Statement) _ :=
      failed.hinges.fails fun _ => id
    obtain ⟨events, trace, hinges⟩ := rejected.behindTarget found sign
    exact ⟨events, trace, hinges.map fun _ => .sourceFails found sign⟩
  | @source target next equals after e tail _ found sign body closing =>
    subst closing
    have ends : HingesFrom scope tail _ _ := hinges_closed (.assign (fold target.lexeme) e) tail
    have whole := body.hinges.andThen ends fun _ inner _ => inner
    obtain ⟨events, trace, hinges⟩ := whole.behindTarget found sign
    exact ⟨events, trace, hinges.map fun _ inner => .source found sign inner rfl⟩

/-- Behind the statement word, an assignment leaves out its target. -/
theorem operandTokens_of_keyword {line : Text} {word : Token} {next : Cursor}
    (found : (Cursor.start line).scanKeyword = some (word, next)) (events : List Event) :
    operandTokens (events ++ (next.observe (.dispatching (fold word.lexeme))).trace).reverse =
      if fold word.lexeme = ['l', 'e', 't'] then (variableTokens events).dropLast.reverse
      else (variableTokens events).reverse := by
  obtain ⟨_, form, trace⟩ := consumes_of_scanWord found
  have kind : word.kind = .keyword := by rw [form]
  have begun : (next.observe (.dispatching (fold word.lexeme))).trace =
      [.dispatching (fold word.lexeme), .matched word] := by
    rw [observe, trace]
    rfl
  have none_before : variableTokens [.matched word, .dispatching (fold word.lexeme)] = [] := by
    simp [variableTokens, matchedTokens, Event.token?, kind]
  have dispatched : [Event.matched word, .dispatching (fold word.lexeme)].findSome? Event.word? =
      some (fold word.lexeme) := rfl
  have whole : (events ++ [Event.dispatching (fold word.lexeme), .matched word]).reverse =
      [.matched word, .dispatching (fold word.lexeme)] ++ events.reverse := by simp
  rw [begun, whole, operandTokens, variableTokens_append, none_before, List.nil_append,
    variableTokens_reverse, List.findSome?_append, dispatched, Option.some_or, List.tail_reverse]
  simp only [Option.some.injEq]

/-- **What reading a line comes to hinges on the variables matched as operands.** -/
theorem ReadsLine.hinges {line : Text} {outcome : Outcome Statement}
    (read : ReadsLine scope limit line outcome) :
    Hinges scope (operandTokens (reached outcome).trace.reverse) outcome
      fun scope' => ReadsLine scope' limit line outcome := by
  cases read with
  | noKeyword absent => exact .nothing fun _ => .noKeyword absent
  | @unknown word next found notLet notPrint =>
    have tokens := operandTokens_of_keyword found []
    rw [if_neg notLet] at tokens
    have none_matched : operandTokens
        (next.observe (.dispatching (fold word.lexeme))).trace.reverse = [] := tokens
    show Hinges scope (operandTokens (next.observe _).trace.reverse) _ _
    rw [none_matched]
    exact .nothing fun _ => .unknown found notLet notPrint
  | @assign word next _ found isLet rest =>
    obtain ⟨events, trace, hinges⟩ := rest.hinges
    rw [trace, operandTokens_of_keyword found, if_pos isLet]
    exact (hinges.congr fun _ => List.mem_reverse).map fun _ => .assign found isLet
  | @print word next _ found isPrint rest =>
    obtain ⟨events, trace, hinges⟩ := rest.hinges
    have notLet : fold word.lexeme ≠ ['l', 'e', 't'] := by
      rw [isPrint]
      decide
    rw [trace, operandTokens_of_keyword found, if_neg notLet]
    exact (hinges.congr fun _ => List.mem_reverse).map fun _ => .print found isPrint

/-- Every name of a statement that was read has been looked up. -/
theorem ReadsLine.names_lookedUp {line : Text} {statement : Statement} {lineEnd : Cursor}
    (read : ReadsLine scope limit line (.ok (statement, lineEnd))) :
    ∃ spelled : Statement, spelled.folded = statement ∧ ∀ word ∈ spelled.names,
      ∃ token ∈ operandTokens lineEnd.trace.reverse, fold token.lexeme = fold word := by
  let names := (operandTokens lineEnd.trace.reverse).map fun token => fold token.lexeme
  -- the line is read alike where nothing but these names is in scope
  let narrow : Scope := fun name => scope name && decide (name ∈ names)
  have agree : AgreeOn (operandTokens lineEnd.trace.reverse) scope narrow := by
    intro token member
    have listed : fold token.lexeme ∈ names := List.mem_map.2 ⟨token, member, rfl⟩
    show (scope (fold token.lexeme) && decide (fold token.lexeme ∈ names)) = _
    rw [decide_eq_true listed, Bool.and_true]
  obtain ⟨spelled, same, _, fits⟩ := (read.hinges.transfer narrow agree).sound
  refine ⟨spelled, same, ?_⟩
  intro word member
  have listed := (Bool.and_eq_true_iff.1 (fits.2 word member)).2
  exact List.mem_map.1 (of_decide_eq_true listed)

end Reading

/-! ## Values -/

section Values

variable {store store' : Store}

/-- The value of an expression depends on the variables it names. -/
theorem Expr.value_congr {e : Expr}
    (agree : ∀ word ∈ e.names, store'.get? (fold word) = store.get? (fold word)) :
    e.folded.value store' = e.folded.value store := by
  induction e with
  | number digits => rfl
  | «variable» word =>
    show (store'.get? (fold word)).getD 0 = (store.get? (fold word)).getD 0
    rw [agree word List.mem_cons_self]
  | group inner ih => exact ih agree
  | binary operator left right ihLeft ihRight =>
    obtain ⟨agreeLeft, agreeRight⟩ := List.forall_mem_append.1 agree
    show operator.apply (left.folded.value store') (right.folded.value store') =
      operator.apply (left.folded.value store) (right.folded.value store)
    rw [ihLeft agreeLeft, ihRight agreeRight]

theorem Item.value_congr {item : Item}
    (agree : ∀ word ∈ item.names, store'.get? (fold word) = store.get? (fold word)) :
    item.folded.value store' = item.folded.value store := by
  cases item with
  | expr e => exact congrArg Value.number (Expr.value_congr agree)
  | string text => rfl

/-- The effect of a statement depends on the variables it reads. -/
theorem Statement.effect_congr {statement : Statement}
    (agree : ∀ word ∈ statement.names, store'.get? (fold word) = store.get? (fold word)) :
    statement.folded.effect store' = statement.folded.effect store := by
  cases statement with
  | assign name source => exact congrArg (Effect.assigned (fold name)) (Expr.value_congr agree)
  | print items =>
    have same : ∀ item ∈ items, item.folded.value store' = item.folded.value store := by
      intro item member
      refine Item.value_congr ?_
      intro word named
      exact agree word (List.mem_flatMap.2 ⟨item, member, named⟩)
    simp only [folded, effect, List.flatMap_map]
    exact congrArg Effect.printed (List.flatMap_congr fun item member => by rw [same item member])

end Values

/-! ## Executions -/

section Execution

variable {limit : Nat} {store store' : Store} {line : Text}

theorem operandTokens_execution (limit : Nat) (store : Store) (line : Text) :
    operandTokens (executeWithin limit store line).trace =
      operandTokens (reached (Statement.read store.isSet limit line)).trace.reverse := by
  rw [executeWithin_eq]
  cases Statement.read store.isSet limit line with
  | error rejection => rfl
  | ok pair => exact operandTokens_append_events _ _

/-- Stores that agree on the operands of a line execute it alike. -/
theorem executeWithin_congr
    (agree : ∀ token ∈ operandTokens (executeWithin limit store line).trace,
      store'.get? (fold token.lexeme) = store.get? (fold token.lexeme)) :
    (executeWithin limit store' line).outcome = (executeWithin limit store line).outcome ∧
      (executeWithin limit store' line).trace = (executeWithin limit store line).trace := by
  rw [operandTokens_execution] at agree
  have read := Statement.read_iff.1 (rfl : Statement.read store.isSet limit line = _)
  have read' := Statement.read_iff.2 (read.hinges.transfer store'.isSet fun token member => by
    rw [Store.isSet, Store.isSet, agree token member])
  rw [executeWithin_eq, executeWithin_eq, read']
  cases same : Statement.read store.isSet limit line with
  | error rejection => exact ⟨rfl, rfl⟩
  | ok pair =>
    obtain ⟨statement, lineEnd⟩ := pair
    rw [same] at read agree
    obtain ⟨spelled, rfl, lookedUp⟩ := read.names_lookedUp
    have effect : spelled.folded.effect store' = spelled.folded.effect store := by
      refine Statement.effect_congr ?_
      intro word named
      obtain ⟨token, member, spelledAlike⟩ := lookedUp word named
      rw [← spelledAlike]
      exact agree token member
    simp only [effect, and_self]

/-- Unless a line is rejected for an undefined variable, all its operands have
values. -/
theorem isSet_of_operand
    (found : ∀ error name, (executeWithin limit store line).outcome = .error error →
      error.cause ≠ .variableNotFound name) :
    ∀ token ∈ operandTokens (executeWithin limit store line).trace,
      store.isSet (fold token.lexeme) = true := by
  intro token member
  rw [operandTokens_execution] at member
  have read := Statement.read_iff.1 (rfl : Statement.read store.isSet limit line = _)
  rcases read.hinges.inScope token member with inScope | ⟨⟨error, place⟩, same, cause⟩
  · exact inScope
  · rw [same] at read
    exact absurd cause (found error _ (outcome_eq_error_iff.2 ⟨place, read⟩))

end Execution

/-- **A line depends only on the variables it reads.** Two stores that agree on
the operands matched on a line, values and undefined variables alike, give it
the same outcome, with the same tokens matched; what the target of an
assignment held makes no difference. So no line that finds its variables can
tell whether others have values, too. -/
theorem outcome_depends_on_operands (store store' : Store) (line : Text) :
    ((∀ token ∈ operandTokens (execute store line).trace,
        store'.get? (fold token.lexeme) = store.get? (fold token.lexeme)) →
      (execute store' line).outcome = (execute store line).outcome ∧
        (execute store' line).trace = (execute store line).trace) ∧
    ((∀ name value, store.get? name = some value → store'.get? name = some value) →
      (∀ error name, (execute store line).outcome = .error error →
        error.cause ≠ .variableNotFound name) →
      (execute store' line).outcome = (execute store line).outcome ∧
        (execute store' line).trace = (execute store line).trace) := by
  refine ⟨executeWithin_congr, ?_⟩
  intro extends_ found
  refine executeWithin_congr ?_
  intro token member
  obtain ⟨value, bound⟩ := Option.isSome_iff_exists.1 (isSet_of_operand found token member)
  rw [bound]
  exact extends_ _ value bound

/-- What `B` held, and that `C` is bound, makes no difference to `LET B = a + (A)`. -/
theorem assignment_depends_on_source :
    (∀ token ∈ operandTokens (execute (Store.empty.assign ['a'] 1)
        "LET B = a + (A)".toList).trace,
      (((Store.empty.assign ['a'] 1).assign ['b'] 2).assign ['c'] 3).get? (fold token.lexeme) =
        (Store.empty.assign ['a'] 1).get? (fold token.lexeme)) ∧
    (execute (((Store.empty.assign ['a'] 1).assign ['b'] 2).assign ['c'] 3)
        "LET B = a + (A)".toList).outcome =
      (execute (Store.empty.assign ['a'] 1) "LET B = a + (A)".toList).outcome := by
  have agree : ∀ token ∈ operandTokens (execute (Store.empty.assign ['a'] 1)
        "LET B = a + (A)".toList).trace,
      (((Store.empty.assign ['a'] 1).assign ['b'] 2).assign ['c'] 3).get? (fold token.lexeme) =
        (Store.empty.assign ['a'] 1).get? (fold token.lexeme) := by decide +kernel
  exact ⟨agree, ((outcome_depends_on_operands _ _ _).1 agree).1⟩

end LineBasic
