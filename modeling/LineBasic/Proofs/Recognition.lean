import LineBasic.Proofs.LineReading
import LineBasic.Proofs.Meaning

/-!
# The interpreter accepts the grammar and computes the tree's meaning

The two sides are the rules of the grammar (`Derives`, `DerivesLine`), which
know nothing of a reader, and the outcome of executing a line.

* **sound** — whatever is read is spelled as the grammar asks, and stays within
  the scope and the nesting limit (`Reads.sound`, `ReadsLine.sound`);
* **complete** — whatever is spelled so is read (`Derives.reads`,
  `DerivesLine.reads`);

With the meaning of trees (`Statement.means_iff`) and the unambiguity of the
grammar they join in **`execute_accepts_grammar`**.
-/

namespace LineBasic

/-! ## Categories as spelled and as read -/

/-- A category with the names of its tree in lower case. -/
def Category.folded : Category → Category
  | factor => .factor
  | grouped tier => .grouped tier
  | chain tier left => .chain tier left.folded

theorem Tier.operand_folded (tier : Tier) : tier.operand.folded = tier.operand := by
  cases tier <;> rfl

/-! ## Whatever is read is spelled so -/

theorem Cursor.gap_skipGap {c : Cursor} {s : Text} (front : c.skipGap.rest = s) :
    Gap c.rest s := by
  obtain ⟨gap, all, whole, _⟩ := c.rest_eq_gap_append
  rw [front] at whole
  exact ⟨gap, all, whole⟩

/-- What a successful reading of a category says about the text. -/
def Spelled (scope : Scope) (n : Nat) (c : Cursor) (e' : Expr) (next : Cursor) : Category → Prop
  | .chain tier left' => ∀ left : Expr, left.folded = left' → left.Fits scope n →
    ∃ e : Expr, e.folded = e' ∧ Derives (.chain tier left) c.rest e next.rest ∧ e.Fits scope n
  | category => ∃ (e : Expr) (s : Text), e.folded = e' ∧ Gap c.rest s ∧
    Derives category s e next.rest ∧ e.Fits scope n

theorem Spelled.operand {scope : Scope} {n : Nat} {c next : Cursor} {e' : Expr} {tier : Tier}
    (spelled : Spelled scope n c e' next tier.operand) :
    ∃ (e : Expr) (s : Text), e.folded = e' ∧ Gap c.rest s ∧
      Derives tier.operand s e next.rest ∧ e.Fits scope n := by
  cases tier with
  | product => exact spelled
  | sum => exact spelled

theorem Reads.sound {scope : Scope} {limit : Nat} {category : Category} {n : Nat} {c : Cursor}
    {outcome : Outcome Expr} (read : Reads scope limit category n c outcome) :
    ∀ e' next, outcome = .ok (e', next) → Spelled scope n c e' next category := by
  induction read with
  | @number n c token next found =>
    intro _ _ same
    cases same
    obtain ⟨digits, rest, isNumber, _, front, taken⟩ := Cursor.scanWord_eq_some_iff.1 found
    obtain ⟨rfl, rfl⟩ := Prod.mk.inj taken
    exact ⟨.number digits, _, rfl, Cursor.gap_skipGap front, .number isNumber, Expr.fits_number⟩
  | @bound n c token next found isSet =>
    intro _ _ same
    cases same
    obtain ⟨word, rest, isName, _, front, taken⟩ := Cursor.scanWord_eq_some_iff.1 found
    obtain ⟨rfl, rfl⟩ := Prod.mk.inj taken
    exact ⟨.variable word, _, rfl, Cursor.gap_skipGap front, .name isName,
      Expr.fits_variable.2 isSet⟩
  | @group n c token next e body closing after found _ closed ih =>
    intro _ _ same
    cases same
    obtain ⟨rest, front, taken⟩ := Cursor.scanLiteral_eq_some_iff.1 found
    obtain ⟨rfl, rfl⟩ := Prod.mk.inj taken
    obtain ⟨rest', front', taken'⟩ := Cursor.scanLiteral_eq_some_iff.1 closed
    obtain ⟨rfl, rfl⟩ := Prod.mk.inj taken'
    obtain ⟨inner, s, rfl, gap, derived, fits⟩ := ih _ _ rfl
    exact ⟨.group inner, _, rfl, Cursor.gap_skipGap front,
      .group gap derived (Cursor.gap_skipGap front'), Expr.fits_group_succ.2 fits⟩
  | @first tier n c left next outcome _ _ ihFirst ihChain =>
    -- the first operand is the tree that the chain goes on from
    rintro e' after rfl
    obtain ⟨first, s, rfl, gap, derived, fits⟩ := (ihFirst _ _ rfl).operand
    obtain ⟨e, rfl, chain, fits'⟩ := ihChain _ _ rfl first rfl fits
    exact ⟨e, s, rfl, gap, .operands derived chain, fits'⟩
  | done _ =>
    rintro _ _ ⟨⟩ left rfl fits
    exact ⟨left, rfl, .done, fits⟩
  | @more tier left n c sign after operator right next outcome found known _ _ ihRight ihChain =>
    rintro e' tail rfl left rfl fits
    obtain ⟨operator', same, rest, front, taken⟩ := Tier.scan_eq_some_iff.1 found
    obtain ⟨rfl, rfl⟩ := Prod.mk.inj taken
    -- the sign that was found is the one of the operator
    have sameSign : operator' = operator := by
      have sign := operator'.ofSymbol?_symbol
      exact Option.some.inj (sign.symm.trans known)
    subst sameSign
    obtain ⟨right, s, rfl, gap, derived, fitsRight⟩ := (ihRight _ _ rfl).operand
    obtain ⟨e, rfl, chain, fits'⟩ := ihChain _ _ rfl (.binary operator' left right) rfl
      (Expr.fits_binary.2 ⟨fits, fitsRight⟩)
    exact ⟨e, rfl, .operation same (Cursor.gap_skipGap front) gap derived chain, fits'⟩
  | unbound | tooDeep | groupFails | unclosed | absent | firstFails | operandFails =>
    intro _ _ same
    cases same

/-! ## Whatever is spelled so is read -/

/-- Where a category begins: behind a gap, except for the rest of a chain. -/
def Category.Starts : Category → (text s : Text) → Prop
  | chain _ _, text, s => text = s
  | factor, text, s => Gap text s
  | grouped _, text, s => Gap text s

theorem Tier.operand_starts {tier : Tier} {text s : Text} :
    tier.operand.Starts text s ↔ Gap text s := by
  cases tier <;> exact Iff.rfl

theorem Cursor.skipGap_rest {c : Cursor} {s : Text} (gap : Gap c.rest s)
    (stops : Stops isGap s) : c.skipGap.rest = s := gap.dropWhile stops

/-- What a chain has read already is part of its tree. -/
theorem Derives.fits_left {scope : Scope} {n : Nat} {category : Category} {s t : Text} {e : Expr}
    (derived : Derives category s e t) (fits : e.Fits scope n) :
    ∀ tier left, category = .chain tier left → left.Fits scope n := by
  induction derived with
  | done =>
    intro _ _ same
    cases same
    exact fits
  | operation _ _ _ _ _ _ ihChain =>
    intro _ _ same
    cases same
    exact (Expr.fits_binary.1 (ihChain fits _ _ rfl)).1
  | number | name | group | operands =>
    intro _ _ same
    cases same

theorem Derives.reads {scope : Scope} (limit : Nat) {category : Category} {s t : Text} {e : Expr}
    (derived : Derives category s e t) (follow : category.Follow t) :
    ∀ n, e.Fits scope n → ∀ c : Cursor, category.Starts c.rest s →
      ∃ next, next.rest = t ∧ Reads scope limit category.folded n c (.ok (e.folded, next)) := by
  induction derived with
  | @number digits t isNumber =>
    intro n _ c gap
    have front : c.skipGap.rest = digits ++ t := by
      refine c.skipGap_rest gap ?_
      obtain ⟨d, tail, rfl, digit, _⟩ := isNumber
      exact stops_cons.2 (isGap_of_isDigit digit)
    exact ⟨_, rfl, .number
      (Cursor.scanWord_eq_some_iff.2 ⟨digits, t, isNumber, stops_isDigit follow, front, rfl⟩)⟩
  | @name word t isName =>
    intro n fits c gap
    have front : c.skipGap.rest = word ++ t := c.skipGap_rest gap (isName.begins t)
    exact ⟨_, rfl, .bound
      (Cursor.scanWord_eq_some_iff.2 ⟨word, t, isName, follow, front, rfl⟩)
      (Expr.fits_variable.1 fits)⟩
  | @group s inner e after t gapInner body closing ih =>
    intro n fits c gap
    -- a tree that fits is never deeper than what is still allowed
    cases n with
    | zero => exact absurd fits Expr.fits_group_zero
    | succ m =>
      have front : c.skipGap.rest = ['('] ++ s :=
        c.skipGap_rest gap (stops_isGap_of_punctuation (by decide))
      have opened := Cursor.scanLiteral_eq_some_iff.2 ⟨s, front, rfl⟩
      obtain ⟨place, rest, read⟩ := ih (Tier.follow_of_gap closing (.inl rfl) .sum) m
        (Expr.fits_group_succ.1 fits) (c.skipGap.take .literal ['('] s).2 gapInner
      have back : place.skipGap.rest = [')'] ++ t := by
        refine place.skipGap_rest ?_ (stops_isGap_of_punctuation (by decide))
        rw [rest]
        exact closing
      exact ⟨_, rfl, .group opened read (Cursor.scanLiteral_eq_some_iff.2 ⟨t, back, rfl⟩)⟩
  | @operands tier s first next e t _ chain ihFront ihChain =>
    intro n fits c gap
    have fitsFirst := chain.fits_left fits tier first rfl
    obtain ⟨place, rfl, read⟩ := ihFront (chain.follow_operand follow) n fitsFirst c
      (Tier.operand_starts.2 gap)
    obtain ⟨last, rest, read'⟩ := ihChain follow n fits place rfl
    rw [Tier.operand_folded] at read
    exact ⟨last, rest, .first read read'⟩
  | @done tier left t =>
    -- what may follow the chain keeps the reader from going on
    rintro n _ c rfl
    exact ⟨c, rfl, .done (Tier.scan_eq_none_iff.2 follow.ended)⟩
  | @operation tier left operator s behind operand right next e t same gap gapRight _ chain
      ihRight ihChain =>
    rintro n fits c rfl
    have front := c.skipGap_rest gap (stops_isGap_of_punctuation operator.symbol_mem)
    have found := Tier.scan_eq_some_iff.2 ⟨operator, same, behind, front, rfl⟩
    have fitsBoth := chain.fits_left fits tier _ rfl
    obtain ⟨place, rfl, read⟩ := ihRight (chain.follow_operand follow) n
      (Expr.fits_binary.1 fitsBoth).2 (c.skipGap.take .literal [operator.symbol] behind).2
      (Tier.operand_starts.2 gapRight)
    obtain ⟨last, rest, read'⟩ := ihChain follow n fits place rfl
    rw [Tier.operand_folded] at read
    exact ⟨last, rest, .more found operator.ofSymbol?_symbol read read'⟩

/-! ## Items and lines -/

theorem ReadsItem.sound {scope : Scope} {limit : Nat} {c next : Cursor} {item' : Item}
    (read : ReadsItem scope limit c (.ok (item', next))) :
    ∃ item s, item.folded = item' ∧ Gap c.rest s ∧ DerivesItem s item next.rest ∧
      Statement.Fits scope limit (.print [item]) := by
  cases read with
  | string found =>
    obtain ⟨content, rest, plain, front, taken⟩ := Cursor.scanString_eq_string_iff.1 found
    obtain ⟨rfl, rfl⟩ := Prod.mk.inj taken
    exact ⟨.string content, _, rfl, Cursor.gap_skipGap front, .string plain,
      Statement.fits_string.2 Statement.fits_nil⟩
  | expr _ body =>
    obtain ⟨e, s, rfl, gap, derived, fits⟩ := body.sound _ _ rfl
    exact ⟨.expr e, s, rfl, gap, .expr derived, Statement.fits_expr.2 ⟨fits, Statement.fits_nil⟩⟩

theorem ReadsItems.sound {scope : Scope} {limit : Nat} {c : Cursor} {outcome : Outcome (List Item)}
    (read : ReadsItems scope limit c outcome) :
    ∀ items' tail, outcome = .ok (items', tail) → Gap tail.rest [] →
      ∃ items s, items.map Item.folded = items' ∧ Gap c.rest s ∧ DerivesItems s items ∧
        Statement.Fits scope limit (.print items) := by
  induction read with
  | last first _ =>
    rintro _ _ ⟨⟩ ends
    obtain ⟨item, s, rfl, gap, derived, fits⟩ := first.sound
    exact ⟨[item], s, rfl, gap, .last derived ends, fits⟩
  | @more c item next comma after items tail first found _ ih =>
    rintro _ _ ⟨⟩ ends
    obtain ⟨item, s, rfl, gap, derived, fits⟩ := first.sound
    obtain ⟨items, s', rfl, gap', derived', fits'⟩ := ih _ _ rfl ends
    obtain ⟨rest, front, taken⟩ := Cursor.scanLiteral_eq_some_iff.1 found
    obtain ⟨rfl, rfl⟩ := Prod.mk.inj taken
    exact ⟨item :: items, s, rfl, gap, .more derived (Cursor.gap_skipGap front) gap' derived',
      Statement.fits_cons.2 ⟨fits, fits'⟩⟩
  | firstFails | restFails =>
    intro _ _ same
    cases same

theorem Cursor.keyword_of_scan {line : Text} {word : Token} {next : Cursor}
    (found : (Cursor.start line).scanKeyword = some (word, next)) :
    Keyword line (fold word.lexeme) next.rest := by
  obtain ⟨letters, rest, isWord, stops, front, taken⟩ := scanWord_eq_some_iff.1 found
  obtain ⟨rfl, rfl⟩ := Prod.mk.inj taken
  exact ⟨letters, gap_skipGap front, isWord, stops, rfl⟩

theorem ReadsLet.sound {scope : Scope} {limit : Nat} {line : Text} {c lineEnd : Cursor}
    {statement' : Statement} (keyword : Keyword line ['l', 'e', 't'] c.rest)
    (read : ReadsLet scope limit c (.ok (statement', lineEnd))) :
    ∃ statement, statement.folded = statement' ∧ DerivesLine line statement ∧
      statement.Fits scope limit := by
  cases read with
  | @source target next equals after e tail _ named sign body closing =>
    obtain ⟨none_left, rfl, rfl⟩ := Statement.closed_eq_ok_iff.1 closing
    obtain ⟨source, s, rfl, gap, derived, fits⟩ := body.sound _ _ rfl
    obtain ⟨spelling, rest, isName, _, front, taken⟩ := Cursor.scanWord_eq_some_iff.1 named
    obtain ⟨rfl, rfl⟩ := Prod.mk.inj taken
    obtain ⟨rest', front', taken'⟩ := Cursor.scanLiteral_eq_some_iff.1 sign
    obtain ⟨rfl, rfl⟩ := Prod.mk.inj taken'
    exact ⟨.assign spelling source, rfl, .assign keyword (Cursor.gap_skipGap front) isName
      (Cursor.gap_skipGap front') gap derived (Cursor.gap_skipGap none_left), fits⟩

theorem ReadsPrint.sound {scope : Scope} {limit : Nat} {line : Text} {c lineEnd : Cursor}
    {statement' : Statement} (keyword : Keyword line ['p', 'r', 'i', 'n', 't'] c.rest)
    (read : ReadsPrint scope limit c (.ok (statement', lineEnd))) :
    ∃ statement, statement.folded = statement' ∧ DerivesLine line statement ∧
      statement.Fits scope limit := by
  cases read with
  | bare ends =>
    have none_left := (Cursor.scanEndOfLine_eq_some_iff.1 ends).1
    exact ⟨.print [], rfl, .bare keyword (Cursor.gap_skipGap none_left), Statement.fits_nil⟩
  | @items items tail _ _ list closing =>
    obtain ⟨none_left, rfl, rfl⟩ := Statement.closed_eq_ok_iff.1 closing
    obtain ⟨items, s, rfl, gap, derived, fits⟩ := list.sound _ _ rfl
      (Cursor.gap_skipGap none_left)
    exact ⟨.print items, rfl, .print keyword gap derived, fits⟩

/-- Whatever is read as a line is spelled as one. -/
theorem ReadsLine.sound {scope : Scope} {limit : Nat} {line : Text} {statement' : Statement}
    {lineEnd : Cursor} (read : ReadsLine scope limit line (.ok (statement', lineEnd))) :
    ∃ statement, statement.folded = statement' ∧ DerivesLine line statement ∧
      statement.Fits scope limit := by
  cases read with
  | @assign word next _ found isLet rest =>
    have keyword := Cursor.keyword_of_scan found
    rw [isLet] at keyword
    exact rest.sound (c := next.observe _) keyword
  | @print word next _ found isPrint rest =>
    have keyword := Cursor.keyword_of_scan found
    rw [isPrint] at keyword
    exact rest.sound (c := next.observe _) keyword

theorem DerivesItem.reads {scope : Scope} {limit : Nat} {s t : Text} {item : Item}
    (derived : DerivesItem s item t) (follow : Tier.sum.Follow t)
    (fits : Statement.Fits scope limit (.print [item])) (c : Cursor) (gap : Gap c.rest s) :
    ∃ next, next.rest = t ∧ ReadsItem scope limit c (.ok (item.folded, next)) := by
  have front := c.skipGap_rest gap derived.begins
  cases derived with
  | @string content t plain =>
    exact ⟨_, rfl, .string (Cursor.scanString_eq_string_iff.2 ⟨content, t, plain, front, rfl⟩)⟩
  | expr sum =>
    obtain ⟨next, rest, read⟩ := sum.reads limit follow limit
      (Statement.fits_expr.1 fits).1 c gap
    have noString : c.scanString = .ok none := by
      rw [Cursor.scanString_eq_none_iff, front]
      exact sum.noQuote
    exact ⟨next.observe (.printable .number), rest, .expr noString read⟩

theorem DerivesItems.reads {scope : Scope} {limit : Nat} {s : Text} {items : List Item}
    (derived : DerivesItems s items) (fits : Statement.Fits scope limit (.print items)) :
    ∀ c : Cursor, Gap c.rest s → ∃ tail, Gap tail.rest [] ∧
      ReadsItems scope limit c (.ok (items.map Item.folded, tail)) := by
  induction derived with
  | @last s item t first ends =>
    intro c gap
    obtain ⟨next, rfl, read⟩ := first.reads (Tier.follow_of_end ends _) fits c gap
    have noComma : next.scanLiteral [','] = none := by
      rw [Cursor.scanLiteral_eq_none_iff, next.skipGap_rest ends (stops_nil _)]
      simp
    exact ⟨next, ends, .last read noComma⟩
  | @more s item t behind front items first gapComma gapBehind _ ih =>
    intro c gap
    obtain ⟨fitsFirst, fitsRest⟩ := Statement.fits_cons.1 fits
    obtain ⟨next, rfl, read⟩ := first.reads (Tier.follow_of_gap gapComma (.inr rfl) _) fitsFirst
      c gap
    have comma : next.skipGap.rest = [','] ++ behind :=
      next.skipGap_rest gapComma (stops_isGap_of_punctuation (by decide))
    have found := Cursor.scanLiteral_eq_some_iff.2 ⟨behind, comma, rfl⟩
    obtain ⟨tail, ends, others⟩ := ih fitsRest (next.skipGap.take .literal [','] behind).2 gapBehind
    exact ⟨tail, ends, .more read found others⟩

theorem Keyword.scan {line keyword rest : Text} (isKeyword : Keyword line keyword rest) :
    ∃ word next, (Cursor.start line).scanKeyword = some (word, next) ∧
      fold word.lexeme = keyword ∧ next.rest = rest := by
  obtain ⟨letters, gap, isWord, stops, rfl⟩ := isKeyword
  have front := (Cursor.start line).skipGap_rest gap (isWord.begins rest)
  exact ⟨_, _, Cursor.scanWord_eq_some_iff.2 ⟨letters, rest, isWord, stops, front, rfl⟩, rfl, rfl⟩

theorem Statement.closed_of_gap {statement : Statement} {c : Cursor} (ends : Gap c.rest []) :
    closed statement c = .ok (statement, c.skipGap) :=
  closed_eq_ok_iff.2 ⟨c.skipGap_rest ends (stops_nil _), rfl, rfl⟩

/-- Whatever is spelled as a line is read as one. -/
theorem DerivesLine.reads {scope : Scope} {limit : Nat} {line : Text} {statement : Statement}
    (derived : DerivesLine line statement) (fits : statement.Fits scope limit) :
    ∃ lineEnd, ReadsLine scope limit line (.ok (statement.folded, lineEnd)) := by
  cases derived with
  | @assign rest name t source front e after keyword gapName isName gapSign gap sum ends =>
    obtain ⟨word, next, found, isLet, rfl⟩ := keyword.scan
    have mark : '=' ∈ punctuation := by decide
    let c := next.observe (.dispatching (fold word.lexeme))
    let d := (c.skipGap.take .variable name t).2
    have named : c.scanVariable = some (c.skipGap.take .variable name t) :=
      Cursor.scanWord_eq_some_iff.2 ⟨name, t, isName,
        gapSign.stops_isNameChar (stops_isNameChar_of_punctuation mark),
        c.skipGap_rest gapName (isName.begins t), rfl⟩
    have equals : d.scanLiteral ['='] = some (d.skipGap.take .literal ['='] source) :=
      Cursor.scanLiteral_eq_some_iff.2
        ⟨source, d.skipGap_rest gapSign (stops_isGap_of_punctuation mark), rfl⟩
    obtain ⟨tail, rfl, read⟩ := sum.reads limit (Tier.follow_of_end ends .sum) limit
      (Statement.fits_assign.1 fits) (d.skipGap.take .literal ['='] source).2 gap
    exact ⟨_, .assign found isLet (.source named equals read (Statement.closed_of_gap ends))⟩
  | bare keyword ends =>
    obtain ⟨word, next, found, isPrint, rfl⟩ := keyword.scan
    have none_left : (next.observe (.dispatching (fold word.lexeme))).skipGap.rest = [] :=
      Cursor.skipGap_rest ends (stops_nil _)
    exact ⟨_, .print found isPrint (.bare (Cursor.scanEndOfLine_eq_some_iff.2 ⟨none_left, rfl⟩))⟩
  | print keyword gap items =>
    obtain ⟨word, next, found, isPrint, rfl⟩ := keyword.scan
    let c := next.observe (.dispatching (fold word.lexeme))
    have noEnd : c.scanEndOfLine = none := by
      rw [Cursor.scanEndOfLine_eq_none_iff, c.skipGap_rest gap items.begins.1]
      exact items.begins.2
    obtain ⟨tail, ends, read⟩ := items.reads fits c gap
    exact ⟨_, .print found isPrint (.items noEnd read (Statement.closed_of_gap ends))⟩

/-! ## Accepted lines -/

/-- The line is spelled as `statement`, which opens at most as many parentheses
at once as are allowed and reads only variables that have values. -/
structure Accepted (store : Store) (line : Text) (statement : Statement) : Prop where
  spelled : DerivesLine line statement
  nesting : statement.nesting ≤ nestingLimit
  bound : store.Binds statement.names

theorem Statement.fits_isSet {store : Store} {statement : Statement} :
    statement.Fits store.isSet nestingLimit ↔
      statement.nesting ≤ nestingLimit ∧ store.Binds statement.names := by
  simp only [Fits, Store.isSet_fold]
  exact Iff.rfl

/-- Every effect of a line is what an accepted spelling of it means. -/
theorem accepted_of_outcome {store : Store} {line : Text} {effect : Effect}
    (done : (execute store line).outcome = .ok effect) :
    ∃ statement, Accepted store line statement ∧ statement.Means store effect := by
  obtain ⟨_, lineEnd, read, computed⟩ := outcome_eq_ok_iff.1 done
  obtain ⟨statement, rfl, spelled, fits⟩ := read.sound
  obtain ⟨nesting, bound⟩ := Statement.fits_isSet.1 fits
  exact ⟨statement, ⟨spelled, nesting, bound⟩, (Statement.means_iff bound).2 computed⟩

/-- What an accepted spelling of a line means is the effect of the line. -/
theorem Accepted.outcome {store : Store} {line : Text} {statement : Statement} {effect : Effect}
    (accepted : Accepted store line statement) (means : statement.Means store effect) :
    (execute store line).outcome = .ok effect := by
  have fits := Statement.fits_isSet.2 ⟨accepted.nesting, accepted.bound⟩
  obtain ⟨lineEnd, read⟩ := accepted.spelled.reads fits
  have computed := (Statement.means_iff accepted.bound).1 means
  exact outcome_eq_ok_iff.2 ⟨_, lineEnd, read, computed⟩

/-- **The interpreter accepts exactly the grammar and computes exactly the
meaning of the tree.** A line takes effect if and only if it has an accepted
spelling. That spelling is the only one the line has at all, and the effect is
the one thing it means. -/
theorem execute_accepts_grammar (store : Store) (line : Text) :
    ((∃ effect, (execute store line).outcome = .ok effect) ↔
      ∃ statement, Accepted store line statement) ∧
    ∀ statement, Accepted store line statement →
      (∀ other, DerivesLine line other → other = statement) ∧
      ∀ effect, (execute store line).outcome = .ok effect ↔ statement.Means store effect := by
  refine ⟨⟨?_, ?_⟩, ?_⟩
  · rintro ⟨effect, done⟩
    obtain ⟨statement, accepted, _⟩ := accepted_of_outcome done
    exact ⟨statement, accepted⟩
  · rintro ⟨statement, accepted⟩
    exact ⟨_, accepted.outcome ((Statement.means_iff accepted.bound).2 rfl)⟩
  · intro statement accepted
    have only : ∀ other, DerivesLine line other → other = statement :=
      fun other spelled => spelled.unique accepted.spelled
    refine ⟨only, ?_⟩
    intro effect
    refine ⟨?_, ?_⟩
    · intro done
      obtain ⟨other, accepted', means⟩ := accepted_of_outcome done
      rwa [only other accepted'.spelled] at means
    · exact accepted.outcome

end LineBasic
