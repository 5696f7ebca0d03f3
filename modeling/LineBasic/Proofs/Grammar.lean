import LineBasic.Statement
import LineBasic.Proofs.Characters

/-!
# The grammar of lines

    line    = "let" name "=" sum | "print" [item ("," item)*]
    item    = string | sum
    sum     = product (("+" | "-") product)*
    product = factor (("*" | "/") factor)*
    factor  = number | name | "(" sum ")"

White space of any length may stand around every token. A statement word is
the longest run of letters at the front and counts in lower case.

The rules are stated without a reader: `Derives category s e t` says that `s`
up to `t` is spelled as the grammar asks, with the tree `e`. Trees hold names
as they are spelled. Main result: **the grammar is unambiguous**
(`DerivesLine.unique`), a line has at most one tree.
-/

namespace LineBasic

/-! ## Operators by precedence -/

/-- The two groups of operators. Those of a product bind tighter. -/
inductive Tier
  | product
  | sum
  deriving DecidableEq, Repr

namespace Operator

/-- The group of an operator. -/
def tier : Operator → Tier
  | add | sub => .sum
  | mul | div => .product

/-- The sign of an operator. -/
def symbol : Operator → Char
  | add => '+'
  | sub => '-'
  | mul => '*'
  | div => '/'

@[simp] theorem ofSymbol?_symbol (operator : Operator) :
    ofSymbol? [operator.symbol] = some operator := by
  cases operator <;> rfl

theorem symbol_injective {a b : Operator} (same : a.symbol = b.symbol) : a = b := by
  have found := ofSymbol?_symbol a
  rw [same, ofSymbol?_symbol] at found
  exact (Option.some.inj found).symm

/-- A sign is punctuation. -/
theorem symbol_mem (operator : Operator) : operator.symbol ∈ punctuation := by
  cases operator <;> decide

end Operator

/-- What there is to read within an expression: a factor, operands with
operators of one group between them, or what follows the tree `left` there. -/
inductive Category
  | factor
  | grouped (tier : Tier)
  | chain (tier : Tier) (left : Expr)

/-- The operands of a group: factors, and products of them. -/
def Tier.operand : Tier → Category
  | product => .factor
  | sum => .grouped .product

/-! ## The rules -/

/-- White space of any length, also none, before `t`. -/
def Gap (s t : Text) : Prop := ∃ gap, (∀ c ∈ gap, isGap c = true) ∧ s = gap ++ t

/-- A run of digits. -/
abbrev IsNumber : Text → Prop := IsWord isDigit isDigit

/-- A letter and any letters and digits after it. -/
abbrev IsName : Text → Prop := IsWord isLetter isNameChar

/-- The text `s` up to `t` is spelled as the grammar asks for a category, with
the tree `e`. -/
inductive Derives : Category → (s : Text) → (e : Expr) → (t : Text) → Prop
  | number {digits t} : IsNumber digits → Derives .factor (digits ++ t) (.number digits) t
  | name {word t} : IsName word → Derives .factor (word ++ t) (.variable word) t
  | group {s inner e after t} :
      Gap s inner → Derives (.grouped .sum) inner e after → Gap after (')' :: t) →
      Derives .factor ('(' :: s) (.group e) t
  | operands {tier s first next e t} :
      Derives tier.operand s first next → Derives (.chain tier first) next e t →
      Derives (.grouped tier) s e t
  | done {tier left t} : Derives (.chain tier left) t left t
  | operation {tier left operator s behind operand right next e t} :
      operator.tier = tier → Gap s (operator.symbol :: behind) → Gap behind operand →
      Derives tier.operand operand right next →
      Derives (.chain tier (.binary operator left right)) next e t →
      Derives (.chain tier left) s e t

/-- The text `s` up to `t` is spelled as an item of a `PRINT` list. -/
inductive DerivesItem : (s : Text) → Item → (t : Text) → Prop
  | string {content t} : '"' ∉ content →
      DerivesItem ('"' :: (content ++ '"' :: t)) (.string content) t
  | expr {s e t} : Derives (.grouped .sum) s e t → DerivesItem s (.expr e) t

/-- A text is spelled as a `PRINT` list up to the end of the line. -/
inductive DerivesItems : Text → List Item → Prop
  | last {s item t} : DerivesItem s item t → Gap t [] → DerivesItems s [item]
  | more {s item t behind next items} :
      DerivesItem s item t → Gap t (',' :: behind) → Gap behind next →
      DerivesItems next items → DerivesItems s (item :: items)

/-- The line begins, behind white space, with letters that end before `rest`
and are `keyword` in lower case. -/
def Keyword (line keyword rest : Text) : Prop :=
  ∃ word, Gap line (word ++ rest) ∧ IsWord isLetter isLetter word ∧ Stops isLetter rest ∧
    fold word = keyword

/-- A line is spelled as a statement. -/
inductive DerivesLine (line : Text) : Statement → Prop
  | assign {rest name t source front e after} :
      Keyword line ['l', 'e', 't'] rest → Gap rest (name ++ t) → IsName name →
      Gap t ('=' :: source) → Gap source front → Derives (.grouped .sum) front e after →
      Gap after [] → DerivesLine line (.assign name e)
  | bare {rest} :
      Keyword line ['p', 'r', 'i', 'n', 't'] rest → Gap rest [] → DerivesLine line (.print [])
  | print {rest front items} :
      Keyword line ['p', 'r', 'i', 'n', 't'] rest → Gap rest front →
      DerivesItems front items → DerivesLine line (.print items)

/-! ## White space -/

namespace Gap

variable {s t t' : Text}

theorem dropWhile (gap : Gap s t) (stops : Stops isGap t) : s.dropWhile isGap = t := by
  obtain ⟨front, all, rfl⟩ := gap
  exact dropWhile_of_stops all stops

theorem unique (gap : Gap s t) (gap' : Gap s t') (stops : Stops isGap t)
    (stops' : Stops isGap t') : t = t' := by
  rw [← gap.dropWhile stops, gap'.dropWhile stops']

/-- White space before a character that does not prolong a name does not
prolong a name either. -/
theorem stops_isNameChar (gap : Gap s t) (stops : Stops isNameChar t) : Stops isNameChar s := by
  obtain ⟨front, all, rfl⟩ := gap
  cases front with
  | nil => exact stops
  | cons c front =>
    rw [List.cons_append, stops_cons]
    cases named : isNameChar c with
    | false => rfl
    | true =>
      have := all c List.mem_cons_self
      rw [isGap_of_isNameChar named] at this
      cases this

end Gap

/-- A word of letters does not begin with white space. -/
theorem IsWord.begins {more : Char → Bool} {word : Text} (isWord : IsWord isLetter more word)
    (rest : Text) : Stops isGap (word ++ rest) := by
  obtain ⟨initial, tail, rfl, letter, _⟩ := isWord
  exact stops_cons.2 (isGap_of_isLetter letter)

/-! ## What may follow -/

/-- The next character behind the gap is no operator of the group. -/
def Tier.Ended (tier : Tier) (t : Text) : Prop :=
  ∀ operator : Operator, operator.tier = tier →
    (t.dropWhile isGap).head? ≠ some operator.symbol

/-- What may follow operands of a group: nothing that prolongs the last one and
no operator that binds at least as tight. -/
def Tier.Follow : Tier → Text → Prop
  | product, t => Stops isNameChar t ∧ Tier.product.Ended t
  | sum, t => Stops isNameChar t ∧ Tier.product.Ended t ∧ Tier.sum.Ended t

/-- What may follow a category. -/
def Category.Follow : Category → Text → Prop
  | factor, t => Stops isNameChar t
  | grouped tier, t => tier.Follow t
  | chain tier _, t => tier.Follow t

theorem Tier.Follow.ended {tier : Tier} {t : Text} (follow : tier.Follow t) : tier.Ended t := by
  cases tier with
  | product => exact follow.2
  | sum => exact follow.2.2

theorem Tier.Follow.operand {tier : Tier} {t : Text} (follow : tier.Follow t) :
    tier.operand.Follow t := by
  cases tier with
  | product => exact follow.1
  | sum => exact ⟨follow.1, follow.2.1⟩

theorem Tier.ended_of_gap {tier : Tier} {s t : Text} {c : Char} (gap : Gap s (c :: t))
    (stops : Stops isGap (c :: t)) (other : ∀ operator : Operator, operator.tier = tier →
      c ≠ operator.symbol) : tier.Ended s := by
  intro operator same
  rw [gap.dropWhile stops, List.head?_cons]
  intro found
  exact other operator same (Option.some.inj found)

/-- Where neither a name nor an operator goes on, operands of any group may
end. -/
theorem Tier.follow_of_ended {s : Text} (names : Stops isNameChar s)
    (ended : ∀ tier : Tier, tier.Ended s) (tier : Tier) : tier.Follow s := by
  cases tier with
  | product => exact ⟨names, ended .product⟩
  | sum => exact ⟨names, ended .product, ended .sum⟩

/-- Operands of any group may end before a comma or a closing parenthesis. -/
theorem Tier.follow_of_gap {s t : Text} {c : Char} (gap : Gap s (c :: t))
    (delimiter : c = ')' ∨ c = ',') (tier : Tier) : tier.Follow s := by
  have mark : c ∈ punctuation := by
    rcases delimiter with rfl | rfl
    · decide
    · decide
  have noSign : ∀ operator : Operator, c ≠ operator.symbol := by
    intro operator
    rcases delimiter with rfl | rfl
    · cases operator <;> decide
    · cases operator <;> decide
  apply Tier.follow_of_ended
  · exact gap.stops_isNameChar (stops_isNameChar_of_punctuation mark)
  · intro tier
    exact Tier.ended_of_gap gap (stops_isGap_of_punctuation mark) fun operator _ => noSign operator

theorem Tier.follow_of_end {s : Text} (gap : Gap s []) (tier : Tier) : tier.Follow s := by
  apply Tier.follow_of_ended
  · exact gap.stops_isNameChar (stops_nil _)
  · intro tier operator _
    rw [gap.dropWhile (stops_nil _)]
    simp

/-- What follows an operand within a chain may follow the operand. -/
theorem Derives.follow_operand {tier : Tier} {left e : Expr} {s t : Text}
    (chain : Derives (.chain tier left) s e t) (follow : tier.Follow t) :
    tier.operand.Follow s := by
  cases chain with
  | done => exact follow.operand
  | @operation _ _ operator _ behind _ _ _ _ _ same gap _ _ _ =>
    have mark := operator.symbol_mem
    have names : Stops isNameChar s :=
      gap.stops_isNameChar (stops_isNameChar_of_punctuation mark)
    cases tier with
    | product => exact names
    | sum =>
      refine ⟨names, Tier.ended_of_gap gap (stops_isGap_of_punctuation mark) ?_⟩
      intro other product equal
      -- the sign in front is one of a sum
      rw [Operator.symbol_injective equal, product] at same
      cases same

/-! ## How a phrase begins -/

/-- A factor begins with a digit, a letter or a parenthesis. -/
def Begins (s : Text) : Prop :=
  ∃ c, s.head? = some c ∧ (isDigit c = true ∨ isLetter c = true ∨ c = '(')

theorem Begins.stops_isGap {s : Text} (begins : Begins s) : Stops isGap s := by
  obtain ⟨c, front, first⟩ := begins
  intro d member
  rw [Option.mem_def, front] at member
  cases member
  rcases first with digit | letter | rfl
  · exact isGap_of_isDigit digit
  · exact isGap_of_isLetter letter
  · exact (punctuation_apart (by decide)).1

theorem Derives.factor_begins {s t : Text} {e : Expr} (derived : Derives .factor s e t) :
    Begins s := by
  cases derived with
  | number digits =>
    obtain ⟨c, front, digit⟩ := digits.head? t
    exact ⟨c, front, .inl digit⟩
  | name word =>
    obtain ⟨c, front, letter⟩ := word.head? t
    exact ⟨c, front, .inr (.inl letter)⟩
  | group => exact ⟨'(', rfl, .inr (.inr rfl)⟩

theorem Derives.operand_begins {tier : Tier} {s t : Text} {e : Expr}
    (derived : Derives tier.operand s e t) : Begins s := by
  cases tier with
  | product => exact derived.factor_begins
  | sum =>
    cases derived with
    | @operands tier _ _ _ _ _ first _ => exact first.factor_begins

theorem Derives.grouped_begins {tier : Tier} {s t : Text} {e : Expr}
    (derived : Derives (.grouped tier) s e t) : Begins s := by
  cases derived with
  | operands first _ => exact first.operand_begins

/-- A sum does not begin with a quote. -/
theorem Derives.noQuote {tier : Tier} {s t : Text} {e : Expr}
    (derived : Derives (.grouped tier) s e t) : s.head? ≠ some '"' := by
  intro quote
  obtain ⟨c, front, first⟩ := derived.grouped_begins
  rw [quote] at front
  cases front
  exact absurd first (by decide)

/-! ## Unambiguity -/

theorem stops_isDigit {t : Text} (stops : Stops isNameChar t) : Stops isDigit t := by
  intro c member
  have outside := stops c member
  cases digit : isDigit c with
  | false => rfl
  | true =>
    rw [isNameChar_of_isDigit digit] at outside
    cases outside

theorem IsNumber.unique {digits digits' t t' : Text} (number : IsNumber digits)
    (number' : IsNumber digits') (stops : Stops isNameChar t) (stops' : Stops isNameChar t')
    (same : digits ++ t = digits' ++ t') : digits = digits' ∧ t = t' :=
  run_unique (number.all fun _ => id) (number'.all fun _ => id) (stops_isDigit stops)
    (stops_isDigit stops') same

theorem IsName.unique {word word' t t' : Text} (name : IsName word) (name' : IsName word')
    (stops : Stops isNameChar t) (stops' : Stops isNameChar t')
    (same : word ++ t = word' ++ t') : word = word' ∧ t = t' :=
  run_unique (name.all fun _ => isNameChar_of_isLetter) (name'.all fun _ => isNameChar_of_isLetter)
    stops stops' same

theorem IsNumber.ne_name {digits word t t' : Text} (number : IsNumber digits)
    (name : IsName word) : digits ++ t ≠ word ++ t' := by
  intro same
  obtain ⟨c, front, digit⟩ := number.head? t
  obtain ⟨d, front', letter⟩ := name.head? t'
  rw [same, front'] at front
  cases front
  rw [isLetter_of_isDigit digit] at letter
  cases letter

theorem IsWord.ne_cons {first more : Char → Bool} {word s t : Text} {c : Char}
    (isWord : IsWord first more word) (other : first c = false) : word ++ t ≠ c :: s := by
  intro same
  obtain ⟨d, front, begins⟩ := isWord.head? t
  rw [same, List.head?_cons] at front
  cases front
  rw [other] at begins
  cases begins

/-- The three ways to spell a factor. -/
theorem Derives.factor_cases {s t : Text} {e : Expr} (derived : Derives .factor s e t) :
    (∃ digits, IsNumber digits ∧ s = digits ++ t ∧ e = .number digits) ∨
      (∃ word, IsName word ∧ s = word ++ t ∧ e = .variable word) ∨
      ∃ behind inner after body, s = '(' :: behind ∧ e = .group body ∧ Gap behind inner ∧
        Derives (.grouped .sum) inner body after ∧ Gap after (')' :: t) := by
  cases derived with
  | number digits => exact .inl ⟨_, digits, rfl, rfl⟩
  | name word => exact .inr (.inl ⟨_, word, rfl, rfl⟩)
  | group gap body closing => exact .inr (.inr ⟨_, _, _, _, rfl, rfl, gap, body, closing⟩)

/-- A text has at most one front of a category, with one tree, if what is left
cannot belong to it. -/
theorem Derives.unique {category : Category} {s t : Text} {e : Expr}
    (derived : Derives category s e t) (follow : category.Follow t) :
    ∀ e' t', Derives category s e' t' → category.Follow t' → e = e' ∧ t = t' := by
  induction derived with
  | number isNumber =>
    intro e' t' other follow'
    rcases other.factor_cases with ⟨digits, isNumber', same, rfl⟩ | ⟨word, isName, same, _⟩ |
      ⟨_, _, _, _, same, _⟩
    · obtain ⟨rfl, rfl⟩ := isNumber.unique isNumber' follow follow' same
      exact ⟨rfl, rfl⟩
    · exact absurd same (isNumber.ne_name isName)
    · exact absurd same (isNumber.ne_cons (by decide))
  | name isName =>
    intro e' t' other follow'
    rcases other.factor_cases with ⟨digits, isNumber, same, _⟩ | ⟨word, isName', same, rfl⟩ |
      ⟨_, _, _, _, same, _⟩
    · exact absurd same.symm (isNumber.ne_name isName)
    · obtain ⟨rfl, rfl⟩ := isName.unique isName' follow follow' same
      exact ⟨rfl, rfl⟩
    · exact absurd same (isName.ne_cons (by decide))
  | group gap body closing ih =>
    intro e' t' other _
    rcases other.factor_cases with ⟨digits, isNumber, same, _⟩ | ⟨word, isName, same, _⟩ |
      ⟨_, _, _, _, same, rfl, gap', body', closing'⟩
    · exact absurd same.symm (isNumber.ne_cons (by decide))
    · exact absurd same.symm (isName.ne_cons (by decide))
    · -- the same text in parentheses, up to the same closing one
      cases same
      obtain rfl := gap.unique gap' body.grouped_begins.stops_isGap
        body'.grouped_begins.stops_isGap
      obtain ⟨rfl, rfl⟩ := ih (Tier.follow_of_gap closing (.inl rfl) .sum) _ _ body'
        (Tier.follow_of_gap closing' (.inl rfl) .sum)
      have stops : ∀ rest, Stops isGap (')' :: rest) :=
        fun _ => stops_isGap_of_punctuation (by decide)
      cases closing.unique closing' (stops _) (stops _)
      exact ⟨rfl, rfl⟩
  | @operands tier s first next e t front chain ihFront ihChain =>
    -- both chains may follow the operand, so the first operands are the same
    intro e' t' other follow'
    cases other with
    | operands front' chain' =>
      obtain ⟨rfl, rfl⟩ := ihFront (chain.follow_operand follow) _ _ front'
        (chain'.follow_operand follow')
      exact ihChain follow _ _ chain' follow'
  | @done tier left t =>
    -- one chain cannot stop where the other goes on with an operator
    intro e' t' other follow'
    cases other with
    | done => exact ⟨rfl, rfl⟩
    | @operation _ _ operator _ behind _ _ _ _ _ same gap _ _ _ =>
      have here := gap.dropWhile (stops_isGap_of_punctuation operator.symbol_mem)
      exact absurd (by rw [here]; rfl) (follow.ended operator same)
  | @operation tier left operator s behind operand right next e t same gap gapRight right'
      chain ihRight ihChain =>
    intro e' t' other follow'
    cases other with
    | done =>
      have here := gap.dropWhile (stops_isGap_of_punctuation operator.symbol_mem)
      exact absurd (by rw [here]; rfl) (follow'.ended operator same)
    | @operation _ _ operator₂ _ behind₂ _ _ _ _ _ _ gap₂ gapRight₂ right₂ chain₂ =>
      have sign := gap.unique gap₂ (stops_isGap_of_punctuation operator.symbol_mem)
        (stops_isGap_of_punctuation operator₂.symbol_mem)
      obtain ⟨symbols, rfl⟩ := List.cons.inj sign
      obtain rfl := Operator.symbol_injective symbols
      obtain rfl := gapRight.unique gapRight₂ right'.operand_begins.stops_isGap
        right₂.operand_begins.stops_isGap
      obtain ⟨rfl, rfl⟩ := ihRight (chain.follow_operand follow) _ _ right₂
        (chain₂.follow_operand follow')
      exact ihChain follow _ _ chain₂ follow'

theorem DerivesItem.begins {s t : Text} {item : Item} (derived : DerivesItem s item t) :
    Stops isGap s := by
  cases derived with
  | string => exact stops_isGap_of_punctuation (by decide)
  | expr e => exact e.grouped_begins.stops_isGap

theorem DerivesItem.unique {s t t' : Text} {item item' : Item} (derived : DerivesItem s item t)
    (derived' : DerivesItem s item' t') (follow : Tier.sum.Follow t)
    (follow' : Tier.sum.Follow t') : item = item' ∧ t = t' := by
  cases derived with
  | @string content t plain =>
    generalize whole : '"' :: (content ++ '"' :: t) = s at derived'
    cases derived' with
    | @string content' t' plain' =>
      have all : ∀ {content : Text}, '"' ∉ content → ∀ c ∈ content, (c != '"') = true := by
        intro content plain c member
        rw [bne_iff_ne]
        rintro rfl
        exact plain member
      have same := run_unique (all plain) (all plain') (stops_cons.2 (by decide))
        (stops_cons.2 (by decide)) (List.cons.inj whole).2
      obtain ⟨rfl, rest⟩ := same
      exact ⟨rfl, (List.cons.inj rest).2⟩
    | expr sum => exact absurd (by rw [← whole]; rfl) sum.noQuote
  | @expr s e t sum =>
    cases derived' with
    | string => exact absurd rfl sum.noQuote
    | expr sum' =>
      obtain ⟨rfl, rfl⟩ := sum.unique follow _ _ sum' follow'
      exact ⟨rfl, rfl⟩

theorem DerivesItems.begins {s : Text} {items : List Item} (derived : DerivesItems s items) :
    Stops isGap s ∧ s ≠ [] := by
  have nonempty : ∀ {t item}, DerivesItem s item t → s ≠ [] := by
    intro t item first
    cases first with
    | string => simp
    | expr e =>
      obtain ⟨c, front, _⟩ := e.grouped_begins
      rintro rfl
      cases front
  cases derived with
  | last item _ => exact ⟨item.begins, nonempty item⟩
  | more item _ _ _ => exact ⟨item.begins, nonempty item⟩

theorem DerivesItems.unique {s : Text} {items items' : List Item}
    (derived : DerivesItems s items) (derived' : DerivesItems s items') : items = items' := by
  have comma : ∀ rest, Stops isGap (',' :: rest) :=
    fun _ => stops_isGap_of_punctuation (by decide)
  induction derived generalizing items' with
  | last item ends =>
    cases derived' with
    | last item' ends' =>
      obtain ⟨rfl, _⟩ := item.unique item' (Tier.follow_of_end ends _) (Tier.follow_of_end ends' _)
      rfl
    | more item' gap' _ _ =>
      obtain ⟨_, rfl⟩ := item.unique item' (Tier.follow_of_end ends _)
        (Tier.follow_of_gap gap' (.inr rfl) _)
      cases ends.unique gap' (stops_nil _) (comma _)
  | more item gap behind rest ih =>
    cases derived' with
    | last item' ends' =>
      obtain ⟨_, rfl⟩ := item.unique item' (Tier.follow_of_gap gap (.inr rfl) _)
        (Tier.follow_of_end ends' _)
      cases ends'.unique gap (stops_nil _) (comma _)
    | more item' gap' behind' rest' =>
      obtain ⟨rfl, rfl⟩ := item.unique item' (Tier.follow_of_gap gap (.inr rfl) _)
        (Tier.follow_of_gap gap' (.inr rfl) _)
      obtain ⟨_, rfl⟩ := List.cons.inj (gap.unique gap' (comma _) (comma _))
      obtain rfl := behind.unique behind' rest.begins.1 rest'.begins.1
      rw [ih rest']

theorem Keyword.unique {line word word' rest rest' : Text} (keyword : Keyword line word rest)
    (keyword' : Keyword line word' rest') : word = word' ∧ rest = rest' := by
  obtain ⟨letters, gap, isWord, stops, rfl⟩ := keyword
  obtain ⟨letters', gap', isWord', stops', rfl⟩ := keyword'
  have same := gap.unique gap' (isWord.begins _) (isWord'.begins _)
  obtain ⟨rfl, rfl⟩ := run_unique (isWord.all fun _ => id) (isWord'.all fun _ => id) stops stops'
    same
  exact ⟨rfl, rfl⟩

/-- **The grammar is unambiguous.** A line is spelled as one statement at most. -/
theorem DerivesLine.unique {line : Text} {statement statement' : Statement}
    (derived : DerivesLine line statement) (derived' : DerivesLine line statement') :
    statement = statement' := by
  cases derived with
  | assign keyword gap name equals behind sum ends =>
    cases derived' with
    | assign keyword' gap' name' equals' behind' sum' ends' =>
      obtain ⟨_, rfl⟩ := keyword.unique keyword'
      have mark : '=' ∈ punctuation := by decide
      have sameName := gap.unique gap' (name.begins _) (name'.begins _)
      obtain ⟨rfl, rfl⟩ := name.unique name'
        (equals.stops_isNameChar (stops_isNameChar_of_punctuation mark))
        (equals'.stops_isNameChar (stops_isNameChar_of_punctuation mark)) sameName
      obtain ⟨_, rfl⟩ := List.cons.inj
        (equals.unique equals' (stops_isGap_of_punctuation mark) (stops_isGap_of_punctuation mark))
      obtain rfl := behind.unique behind' sum.grouped_begins.stops_isGap
        sum'.grouped_begins.stops_isGap
      obtain ⟨rfl, _⟩ := sum.unique (Tier.follow_of_end ends .sum) _ _ sum'
        (Tier.follow_of_end ends' .sum)
      rfl
    | bare keyword' => cases (keyword.unique keyword').1
    | print keyword' => cases (keyword.unique keyword').1
  | bare keyword ends =>
    cases derived' with
    | assign keyword' => cases (keyword.unique keyword').1
    | bare => rfl
    | print keyword' gap' items' =>
      obtain ⟨_, rfl⟩ := keyword.unique keyword'
      exact absurd (ends.unique gap' (stops_nil _) items'.begins.1).symm items'.begins.2
  | print keyword gap items =>
    cases derived' with
    | assign keyword' => cases (keyword.unique keyword').1
    | bare keyword' ends' =>
      obtain ⟨_, rfl⟩ := keyword.unique keyword'
      exact absurd (ends'.unique gap (stops_nil _) items.begins.1).symm items.begins.2
    | print keyword' gap' items' =>
      obtain ⟨_, rfl⟩ := keyword.unique keyword'
      obtain rfl := gap.unique gap' items.begins.1 items'.begins.1
      rw [items.unique items']

end LineBasic
