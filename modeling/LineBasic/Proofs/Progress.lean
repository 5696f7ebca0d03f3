import LineBasic.Proofs.Nesting

/-!
# Reading makes progress

Reading is recursive in three ways: an expression has operands, a factor may hold
an expression in parentheses, and both lists of operands and lists of items go on
behind what they have read. What is left of the line alone keeps all of this from
going on for ever, whatever the limit on parentheses.

* **step** — what has been read ends further right than it began
  (`Reads.consumed`, `ReadsItem.precedes`); a part begins where the whole begins
  and is of a lesser kind, or it begins further right (`Asks.moves`), so it is
  smaller (`Asks.smaller`); and there is an outcome if the parts have one
  (`Activation.settles`);
* **run** — hence no chain of parts within parts goes on for ever
  (`parts_wellFounded`), and whatever is to be read has an outcome
  (`Activation.exists_reads`), of which there is but one (`Activation.reads_unique`).

Main result: **`reading_consumes_text`**.
-/

namespace LineBasic

namespace Cursor

/-! ## Places in order -/

/-- On the same line, and not further left. -/
structure Reaches (c next : Cursor) : Prop where
  offset : c.offset ≤ next.offset
  sameEnd : next.lineEnd = c.lineEnd

/-- On the same line, and further right. -/
structure Precedes (c next : Cursor) : Prop where
  offset : c.offset < next.offset
  sameEnd : next.lineEnd = c.lineEnd

variable {c d next : Cursor} {token : Token}

theorem Reaches.refl (c : Cursor) : c.Reaches c := ⟨le_rfl, rfl⟩

theorem Precedes.reaches (precedes : c.Precedes next) : c.Reaches next :=
  ⟨Nat.le_of_lt precedes.offset, precedes.sameEnd⟩

theorem Precedes.trans (first : c.Precedes d) (rest : d.Reaches next) : c.Precedes next :=
  ⟨Nat.lt_of_lt_of_le first.offset rest.offset, rest.sameEnd.trans first.sameEnd⟩

theorem Precedes.observe (precedes : c.Precedes next) (event : Event) :
    c.Precedes (next.observe event) := ⟨precedes.offset, precedes.sameEnd⟩

/-- Further right, less of the line is left. -/
theorem Precedes.byteSize_rest (precedes : c.Precedes next) :
    byteSize next.rest < byteSize c.rest := by
  have further := precedes.offset
  have same := precedes.sameEnd
  unfold lineEnd at same
  omega

theorem Consumes.precedes {text : Text} (consumes : c.Consumes text next)
    (nonempty : text ≠ []) : c.Precedes next := by
  have size := byteSize_pos nonempty
  have place := c.offset_le_nextPlace
  obtain ⟨gap, _, whole, ends⟩ := c.rest_eq_gap_append
  rw [consumes.rest] at whole
  refine ⟨?_, ?_⟩
  · rw [consumes.offset]
    omega
  · unfold lineEnd
    rw [consumes.offset, whole, byteSize_append, byteSize_append, ends]
    omega

/-! Every match but that of an empty literal takes some text. -/

theorem precedes_of_scanWord {kind : TokenKind} {first more : Char → Bool}
    (found : scanWord kind first more c = some (token, next)) : c.Precedes next := by
  refine (consumes_of_scanWord found).1.precedes ?_
  obtain ⟨_, _, ⟨initial, tail, rfl, _⟩, _, _, taken⟩ := scanWord_eq_some_iff.1 found
  rw [← (Prod.mk.inj taken).1]
  exact List.cons_ne_nil initial tail

theorem precedes_of_scanLiteral {text : Text} (nonempty : text ≠ [])
    (found : scanLiteral text c = some (token, next)) : c.Precedes next :=
  (consumes_of_scanLiteral found).1.precedes nonempty

theorem precedes_of_scanTier {tier : Tier} (found : tier.scan c = some (token, next)) :
    c.Precedes next := by
  refine (consumes_of_scanTier found).precedes ?_
  obtain ⟨operator, _, _, _, taken⟩ := Tier.scan_eq_some_iff.1 found
  rw [(Prod.mk.inj taken).1]
  exact List.cons_ne_nil operator.symbol []

theorem precedes_of_scanString (found : c.scanString = .ok (some (token, next))) :
    c.Precedes next :=
  (consumes_of_scanString found).precedes (List.cons_ne_nil _ _)

end Cursor

open Cursor

/-! ## What has been read -/

/-- What has been read of a category is some text, or any if it is the rest of a
chain. -/
def Category.Consumed (c next : Cursor) : Category → Prop
  | .chain _ _ => c.Reaches next
  | .factor => c.Precedes next
  | .grouped _ => c.Precedes next

theorem Category.Consumed.operand {c next : Cursor} {tier : Tier}
    (consumed : tier.operand.Consumed c next) : c.Precedes next := by
  cases tier with
  | product => exact consumed
  | sum => exact consumed

section Consumed

variable {scope : Scope} {limit : Nat} {c next : Cursor}

/-- **Step.** What has been read of an expression ends further right than it began. -/
theorem Reads.consumed {category : Category} {n : Nat} {outcome : Outcome Expr}
    (read : Reads scope limit category n c outcome) :
    ∀ e next, outcome = .ok (e, next) → category.Consumed c next := by
  induction read with
  | number found =>
    rintro _ _ ⟨⟩
    exact precedes_of_scanWord found
  | bound found _ =>
    rintro _ _ ⟨⟩
    exact precedes_of_scanWord found
  | group found _ closed ih =>
    rintro _ _ ⟨⟩
    have opening := precedes_of_scanLiteral (by simp) found
    have body : Precedes _ _ := ih _ _ rfl
    have closing := precedes_of_scanLiteral (by simp) closed
    exact (opening.trans body.reaches).trans closing.reaches
  | first _ _ ihFirst ihChain =>
    intro _ _ same
    exact (ihFirst _ _ rfl).operand.trans (ihChain _ _ same)
  | done =>
    rintro _ _ ⟨⟩
    exact .refl _
  | more found _ _ _ ihRight ihChain =>
    intro _ _ same
    have operand := (ihRight _ _ rfl).operand.trans (ihChain _ _ same)
    exact ((precedes_of_scanTier found).trans operand.reaches).reaches
  | unbound | tooDeep | groupFails | unclosed | absent | firstFails | operandFails =>
    intro _ _ same
    cases same

theorem ReadsItem.precedes {item : Item} (read : ReadsItem scope limit c (.ok (item, next))) :
    c.Precedes next := by
  cases read with
  | string found => exact (precedes_of_scanString found).observe _
  | expr _ body => exact Precedes.observe (body.consumed _ _ rfl) _

end Consumed

/-! ## Parts within parts -/

/-- What there is to read: a category with an allowance of parentheses, an item, or
a list of items. -/
inductive Work
  | part (category : Category) (allowance : Nat)
  | item
  | items

/-- What reading gives. -/
abbrev Work.Value : Work → Type
  | part _ _ => Expr
  | item => Item
  | items => List Item

/-- Something to read at a place. -/
structure Activation where
  work : Work
  place : Cursor

/-- How a part is reached from the whole. -/
inductive PartKind
  /-- It begins where the whole begins. -/
  | front
  /-- It is an operand, behind its sign. -/
  | operand
  /-- It is the rest of a list, behind what the list has read. -/
  | turn
  /-- It stands in parentheses. -/
  | inside

section Parts

variable (scope : Scope) (limit : Nat)

/-- What comes of reading it, by the rules. -/
def Work.Reads : (work : Work) → Cursor → Outcome work.Value → Prop
  | .part category n => LineBasic.Reads scope limit category n
  | .item => ReadsItem scope limit
  | .items => ReadsItems scope limit

/-- How many more parentheses may be opened in it. -/
def Work.allowance : Work → Nat
  | part _ n => n
  | item => limit
  | items => limit

/-- Reading the whole asks for a part: what is read next, after what has been read
with success. -/
inductive Asks : PartKind → (whole part : Activation) → Prop
  | item {c} : Asks .front ⟨.items, c⟩ ⟨.item, c⟩
  | items {c item next comma after} :
      ReadsItem scope limit c (.ok (item, next)) →
      next.scanLiteral [','] = some (comma, after) → Asks .turn ⟨.items, c⟩ ⟨.items, after⟩
  | expression {c} :
      c.scanString = .ok none → Asks .front ⟨.item, c⟩ ⟨.part (.grouped .sum) limit, c⟩
  | first {tier n c} :
      Asks .front ⟨.part (.grouped tier) n, c⟩ ⟨.part tier.operand n, c⟩
  | chain {tier n c left next} :
      Reads scope limit tier.operand n c (.ok (left, next)) →
      Asks .turn ⟨.part (.grouped tier) n, c⟩ ⟨.part (.chain tier left) n, next⟩
  | operand {tier left n c sign after} :
      tier.scan c = some (sign, after) →
      Asks .operand ⟨.part (.chain tier left) n, c⟩ ⟨.part tier.operand n, after⟩
  | more {tier left n c sign after operator right next} :
      tier.scan c = some (sign, after) → Operator.ofSymbol? sign.lexeme = some operator →
      Reads scope limit tier.operand n after (.ok (right, next)) →
      Asks .turn ⟨.part (.chain tier left) n, c⟩
        ⟨.part (.chain tier (.binary operator left right)) n, next⟩
  | body {n c token next} :
      c.scanLiteral ['('] = some (token, next) →
      Asks .inside ⟨.part .factor (n + 1), c⟩ ⟨.part (.grouped .sum) n, next⟩

/-- Where a part lies: at the front of the whole, or further right, and then at the
same depth unless it is in parentheses. -/
def PartKind.Moves (whole part : Activation) : PartKind → Prop
  | front => part.place = whole.place ∧ part.work.allowance limit = whole.work.allowance limit
  | inside => whole.place.Precedes part.place ∧ part.place.depth = whole.place.depth + 1 ∧
      part.work.allowance limit + 1 = whole.work.allowance limit
  | operand => whole.place.Precedes part.place ∧ part.place.depth = whole.place.depth ∧
      part.work.allowance limit = whole.work.allowance limit
  | turn => whole.place.Precedes part.place ∧ part.place.depth = whole.place.depth ∧
      part.work.allowance limit = whole.work.allowance limit

end Parts

variable {scope : Scope} {limit : Nat}

/-- **Step.** Every part lies where its kind says. -/
theorem Asks.moves {kind : PartKind} {whole part : Activation}
    (asks : Asks scope limit kind whole part) : kind.Moves limit whole part := by
  cases asks with
  | item => exact ⟨rfl, rfl⟩
  | items read found =>
    have comma := precedes_of_scanLiteral (by simp) found
    exact ⟨read.precedes.trans comma.reaches,
      (level_of_comma found).depth.trans read.balanced, rfl⟩
  | expression => exact ⟨rfl, rfl⟩
  | first => exact ⟨rfl, rfl⟩
  | chain read => exact ⟨(read.consumed _ _ rfl).operand, read.balanced, rfl⟩
  | operand found => exact ⟨precedes_of_scanTier found, (level_of_scanTier found).depth, rfl⟩
  | more found _ read =>
    have operand := (read.consumed _ _ rfl).operand
    exact ⟨(precedes_of_scanTier found).trans operand.reaches,
      Eq.trans read.balanced (level_of_scanTier found).depth, rfl⟩
  | body found => exact ⟨precedes_of_scanLiteral (by simp) found, depth_of_open found, rfl⟩

/-! ## Parts are smaller -/

/-- A part that begins where the whole begins has a lesser rank. -/
def Work.rank : Work → Nat
  | part .factor _ => 0
  | part (.chain _ _) _ => 0
  | part (.grouped .product) _ => 1
  | part (.grouped .sum) _ => 2
  | item => 3
  | items => 4

theorem Work.rank_le (work : Work) : work.rank ≤ 4 := by
  unfold rank
  split <;> omega

/-- What is left of the line counts first, and then the rank. -/
def Activation.size (a : Activation) : Nat := 5 * byteSize a.place.rest + a.work.rank

theorem Activation.size_lt_of_precedes {a b : Activation} (precedes : a.place.Precedes b.place) :
    b.size < a.size := by
  have left := precedes.byteSize_rest
  have rank := b.work.rank_le
  unfold size
  omega

theorem Asks.smaller {kind : PartKind} {whole part : Activation}
    (asks : Asks scope limit kind whole part) : part.size < whole.size := by
  have moves := asks.moves
  cases asks with
  | item | expression => exact Nat.lt_succ_self _
  | @first tier n c =>
    cases tier with
    | product => exact Nat.lt_succ_self _
    | sum => exact Nat.lt_succ_self _
  | items | chain | operand | more | body => exact Activation.size_lt_of_precedes moves.1

/-- **Run.** No chain of parts within parts goes on for ever. -/
theorem parts_wellFounded (scope : Scope) (limit : Nat) :
    WellFounded fun part whole => ∃ kind, Asks scope limit kind whole part := by
  refine Subrelation.wf ?_ (measure Activation.size).wf
  rintro part whole ⟨kind, asks⟩
  exact asks.smaller

/-! ## Outcomes -/

/-- What comes of an activation. -/
def Activation.Reads (scope : Scope) (limit : Nat) (a : Activation) :
    Outcome a.work.Value → Prop := a.work.Reads scope limit a.place

section Outcomes

variable {n : Nat} {c : Cursor}

theorem exists_reads_factor
    (body : ∀ token next m, n = m + 1 → c.scanLiteral ['('] = some (token, next) →
      ∃ outcome, Reads scope limit (.grouped .sum) m next outcome) :
    ∃ outcome, Reads scope limit .factor n c outcome := by
  match number : c.scanNumber, word : c.scanVariable, opening : c.scanLiteral ['('] with
  | some (token, next), _, _ => exact ⟨_, .number number⟩
  | none, some (token, next), _ =>
    cases isSet : scope (fold token.lexeme) with
    | true => exact ⟨_, .bound word isSet⟩
    | false => exact ⟨_, .unbound word isSet⟩
  | none, none, none => exact ⟨_, .absent number word opening⟩
  | none, none, some (token, next) =>
    cases n with
    | zero => exact ⟨_, .tooDeep opening⟩
    | succ m =>
      obtain ⟨outcome, read⟩ := body token next m rfl opening
      match outcome with
      | .error rejection => exact ⟨_, .groupFails opening read⟩
      | .ok (e, behind) =>
        match closing : behind.scanLiteral [')'] with
        | none => exact ⟨_, .unclosed opening read closing⟩
        | some (paren, after) => exact ⟨_, .group opening read closing⟩

theorem exists_reads_grouped {tier : Tier}
    (first : ∃ outcome, Reads scope limit tier.operand n c outcome)
    (chain : ∀ left next, Reads scope limit tier.operand n c (.ok (left, next)) →
      ∃ outcome, Reads scope limit (.chain tier left) n next outcome) :
    ∃ outcome, Reads scope limit (.grouped tier) n c outcome := by
  obtain ⟨outcome, read⟩ := first
  match outcome with
  | .error rejection => exact ⟨_, .firstFails read⟩
  | .ok (left, next) =>
    obtain ⟨outcome, onward⟩ := chain left next read
    exact ⟨outcome, .first read onward⟩

theorem exists_reads_chain {tier : Tier} {left : Expr}
    (operand : ∀ sign after, tier.scan c = some (sign, after) →
      ∃ outcome, Reads scope limit tier.operand n after outcome)
    (more : ∀ sign after operator right next, tier.scan c = some (sign, after) →
      Operator.ofSymbol? sign.lexeme = some operator →
      Reads scope limit tier.operand n after (.ok (right, next)) →
      ∃ outcome, Reads scope limit (.chain tier (.binary operator left right)) n next outcome) :
    ∃ outcome, Reads scope limit (.chain tier left) n c outcome := by
  match found : tier.scan c with
  | none => exact ⟨_, .done found⟩
  | some (sign, after) =>
    obtain ⟨outcome, read⟩ := operand sign after found
    match outcome with
    | .error rejection => exact ⟨_, .operandFails found read⟩
    | .ok (right, next) =>
      obtain ⟨operator, known, _⟩ := Tier.ofSymbol?_of_scan found
      obtain ⟨outcome, onward⟩ := more sign after operator right next found known read
      exact ⟨outcome, .more found known read onward⟩

theorem exists_reads_item
    (expression : c.scanString = .ok none →
      ∃ outcome, Reads scope limit (.grouped .sum) limit c outcome) :
    ∃ outcome, ReadsItem scope limit c outcome := by
  match found : c.scanString with
  | .error error => exact ⟨_, .unterminated found⟩
  | .ok (some (token, next)) => exact ⟨_, .string found⟩
  | .ok none =>
    obtain ⟨outcome, read⟩ := expression found
    match outcome with
    | .error rejection => exact ⟨_, .exprFails found read⟩
    | .ok (e, next) => exact ⟨_, .expr found read⟩

theorem exists_reads_items (item : ∃ outcome, ReadsItem scope limit c outcome)
    (items : ∀ item next comma after, ReadsItem scope limit c (.ok (item, next)) →
      next.scanLiteral [','] = some (comma, after) →
      ∃ outcome, ReadsItems scope limit after outcome) :
    ∃ outcome, ReadsItems scope limit c outcome := by
  obtain ⟨outcome, read⟩ := item
  match outcome with
  | .error rejection => exact ⟨_, .firstFails read⟩
  | .ok (first, next) =>
    match found : next.scanLiteral [','] with
    | none => exact ⟨_, .last read found⟩
    | some (comma, after) =>
      obtain ⟨outcome, others⟩ := items first next comma after read found
      match outcome with
      | .error rejection => exact ⟨_, .restFails read found others⟩
      | .ok (later, tail) => exact ⟨_, .more read found others⟩

/-- **Step.** There is an outcome if every part that is asked for has one. -/
theorem Activation.settles (a : Activation)
    (parts : ∀ kind b, Asks scope limit kind a b → ∃ outcome, b.Reads scope limit outcome) :
    ∃ outcome, a.Reads scope limit outcome := by
  obtain ⟨work, c⟩ := a
  cases work with
  | part category n =>
    cases category with
    | factor =>
      refine exists_reads_factor fun token next m same found => ?_
      subst same
      exact parts _ _ (.body found)
    | grouped tier =>
      exact exists_reads_grouped (parts _ _ .first) fun left next read => parts _ _ (.chain read)
    | chain tier left =>
      exact exists_reads_chain (fun sign after found => parts _ _ (.operand found))
        fun sign after operator right next found known read => parts _ _ (.more found known read)
  | item => exact exists_reads_item fun noString => parts _ _ (.expression noString)
  | items =>
    exact exists_reads_items (parts _ _ .item) fun item next comma after read found =>
      parts _ _ (.items read found)

/-- **Run.** Whatever there is to read has an outcome. -/
theorem Activation.exists_reads (scope : Scope) (limit : Nat) (a : Activation) :
    ∃ outcome, a.Reads scope limit outcome := by
  induction a using (parts_wellFounded scope limit).induction with
  | h a ih => exact a.settles fun kind b asks => ih b ⟨kind, asks⟩

end Outcomes

/-- No two outcomes come of one reading. -/
theorem Reads.unique {category : Category} {n : Nat} {c : Cursor} {outcome outcome' : Outcome Expr}
    (read : Reads scope limit category n c outcome)
    (read' : Reads scope limit category n c outcome') : outcome = outcome' := by
  have given := Expr.gives_of_reads read
  have given' := Expr.gives_of_reads read'
  cases category with
  | factor => exact Eq.trans (Eq.symm given) given'
  | grouped tier => exact Eq.trans (Eq.symm given) given'
  | chain tier left =>
    -- it does not matter what the chain has read, so take one white space
    let behind : Phrase ⟨0, ' ' :: c.rest, []⟩ Expr := ⟨left, c, Nat.lt_succ_self _⟩
    exact (given _ behind rfl rfl).symm.trans (given' _ behind rfl rfl)

theorem Activation.reads_unique {a : Activation} {outcome outcome' : Outcome a.work.Value}
    (read : a.Reads scope limit outcome) (read' : a.Reads scope limit outcome') :
    outcome = outcome' := by
  obtain ⟨work, c⟩ := a
  cases work with
  | part category n => exact Reads.unique read read'
  | item => exact (Item.outcome_rule_iff.2 read).symm.trans (Item.outcome_rule_iff.2 read')
  | items => exact (Item.outcome_list_iff.2 read).symm.trans (Item.outcome_list_iff.2 read')

/-! ## The reader -/

/-- Reading an operand follows the rules. -/
theorem Expr.reads_operandRule (scope : Scope) (limit n : Nat) (tier : Tier) (c : Cursor) :
    LineBasic.Reads scope limit tier.operand n c
      (Reading.outcome (operandRule scope limit n tier c)) := by
  have factors : ∀ c, LineBasic.Reads scope limit .factor n c
      (Reading.outcome (factor scope limit (inner scope limit n) c)) :=
    reads_factor fun m _ c => reads_expression scope limit m c
  cases tier with
  | product => exact factors c
  | sum => exact reads_leftGrouped .product factors c

section Rules

variable {c : Cursor}

theorem Expr.precedes_of_operandRule {n : Nat} {tier : Tier} {p : Phrase c Expr}
    (success : operandRule scope limit n tier c = .ok p) : c.Precedes p.next := by
  have read := reads_operandRule scope limit n tier c
  rw [success] at read
  exact (read.consumed _ _ rfl).operand

theorem Expr.precedes_of_expression {n : Nat} {p : Phrase c Expr}
    (success : expression scope limit n c = .ok p) : c.Precedes p.next := by
  have read := reads_expression scope limit n c
  rw [success] at read
  exact read.consumed _ _ rfl

theorem Item.precedes_of_lineRule {p : Phrase c Item} (success : lineRule scope limit c = .ok p) :
    c.Precedes p.next := by
  have read : ReadsItem scope limit c (Reading.outcome (lineRule scope limit c)) :=
    outcome_rule_iff.1 rfl
  rw [success] at read
  exact read.precedes

end Rules

/-- **Reading consumes text.** Wherever a factor, a product, an expression or an item
has been read, reading has come further right. Operands and the turns of a list
begin further right than the list stood, at the same depth; what stands in
parentheses begins further right and one parenthesis deeper, with an allowance that
is one less. So no chain of parts within parts goes on for ever: everything that
there is to read has exactly one outcome, and so has every line. Evaluating as one
reads moves in the same way and comes to the same, whatever the values. -/
theorem reading_consumes_text (scope : Scope) (limit : Nat) :
    (∀ n tier c p, Expr.operandRule scope limit n tier c = .ok p → c.Precedes p.next) ∧
    (∀ n c p, Expr.expression scope limit n c = .ok p → c.Precedes p.next) ∧
    (∀ c p, Item.lineRule scope limit c = .ok p → c.Precedes p.next) ∧
    (∀ kind whole part, Asks scope limit kind whole part → kind.Moves limit whole part) ∧
    (WellFounded fun part whole => ∃ kind, Asks scope limit kind whole part) ∧
    (∀ a : Activation, ∃! outcome, a.Reads scope limit outcome) ∧
    (∀ line, ∃! outcome, ReadsLine scope limit line outcome) ∧
    ∀ store : Store,
      (∀ n tier c p, Evaluator.operandRule store limit n tier c = .ok p → c.Precedes p.next) ∧
      (∀ n c p, Evaluator.expression store limit n c = .ok p → c.Precedes p.next) ∧
      (∀ c p, Evaluator.item (Evaluator.expression store limit limit) c = .ok p →
        c.Precedes p.next) ∧
      ∀ line outcome, ReadsLine store.isSet limit line outcome →
        Evaluator.line store limit line = Evaluator.effects store outcome := by
  refine ⟨fun _ _ _ _ => Expr.precedes_of_operandRule, fun _ _ _ => Expr.precedes_of_expression,
    fun _ _ => Item.precedes_of_lineRule, fun _ _ _ => Asks.moves,
    parts_wellFounded scope limit, ?_, ?_, ?_⟩
  · intro a
    obtain ⟨outcome, read⟩ := a.exists_reads scope limit
    exact ⟨outcome, read, fun _ other => Activation.reads_unique other read⟩
  · intro line
    exact ⟨_, Statement.read_iff.1 rfl, fun _ other => (Statement.read_iff.2 other).symm⟩
  · intro store
    refine ⟨?_, ?_, ?_, ?_⟩
    · intro n tier c p success
      rw [Evaluator.operandRule_eq] at success
      obtain ⟨q, read, same⟩ := Reading.exists_of_mapValue success
      exact same ▸ Expr.precedes_of_operandRule read
    · intro n c p success
      rw [Evaluator.expression_eq] at success
      obtain ⟨q, read, same⟩ := Reading.exists_of_mapValue success
      exact same ▸ Expr.precedes_of_expression read
    · intro c p success
      rw [Evaluator.expression_eq, Evaluator.item_eq] at success
      obtain ⟨q, read, same⟩ := Reading.exists_of_mapValue success
      exact same ▸ Item.precedes_of_lineRule read
    · intro line outcome read
      rw [Evaluator.line_eq, Statement.read_iff.2 read]

/-- The body of a parenthesis that is never closed begins behind it, and comes to
something too. -/
theorem unclosed_body_begins_behind_parenthesis :
    ∃ place, Asks (fun _ => false) 200 .inside ⟨.part .factor 200, .start [' ', '(', '1']⟩
        ⟨.part (.grouped .sum) 199, place⟩ ∧
      Precedes (.start [' ', '(', '1']) place ∧ place.depth = 1 ∧
      ∃ outcome, Activation.Reads (fun _ => false) 200 ⟨.part (.grouped .sum) 199, place⟩
        outcome := by
  have front : (Cursor.start [' ', '(', '1']).skipGap.rest = ['('] ++ ['1'] := by decide +kernel
  have asks : Asks (fun _ => false) 200 .inside ⟨.part .factor 200, .start [' ', '(', '1']⟩
      ⟨.part (.grouped .sum) 199, _⟩ := .body (scanLiteral_eq_some_iff.2 ⟨_, front, rfl⟩)
  obtain ⟨_, _, _, moves, _, outcomes, _⟩ := reading_consumes_text (fun _ => false) 200
  obtain ⟨further, deeper, _⟩ := moves _ _ _ asks
  exact ⟨_, asks, further, deeper, (outcomes _).exists⟩

end LineBasic
