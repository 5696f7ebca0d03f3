import LineBasic.Proofs.LetterCase
import LineBasic.Proofs.LetterForms
import LineBasic.Proofs.Recognition

/-!
# What a line can be rejected for

The statement word at the front of a line fixes what the line can be rejected
for. A line without one lacks a statement; behind `LET` the name, the sign or the
expression may be at fault, behind `PRINT` an item or what follows the items.
Nothing is rejected for an operator that arithmetic does not have.

* **step** — each rule of reading fails for a cause of its own or passes on that of
  a part, so an expression has few causes (`Reads.ofExpression`), and a statement
  has these and its own (`ReadsLet.ofLet`, `ReadsPrint.ofPrint`);
* **open strings** — the one lexical cause is an item that begins with the last
  quote of the line: the quotes before it pair up in the items before it
  (`ItemsBefore`, `ReadsItems.opens`, `OpensString.count_quote`);
* **statement words** — no letter but those of ASCII folds to one of a statement
  word (`fold_eq_iff_of_plain`).

Main result: **`keyword_fixes_causes`**.
-/

namespace LineBasic

/-! ## Causes by statement -/

namespace Cause

/-- What can be wrong with an expression. -/
def ofExpression : Cause → Bool
  | missingRightParen | expressionExpected | nestingTooDeep _ | variableNotFound _ => true
  | _ => false

/-- What can be wrong with an assignment. -/
def ofLet : Cause → Bool
  | variableExpected | equalsExpected | endOfLineExpected => true
  | cause => cause.ofExpression

/-- What can be wrong with a `PRINT` statement. -/
def ofPrint : Cause → Bool
  | unterminatedString | endOfLineExpected => true
  | cause => cause.ofExpression

/-- What is wrong with a line that is no statement. -/
def ofNoStatement : Cause → Bool
  | statementExpected | unknownStatement _ => true
  | _ => false

variable {cause : Cause}

theorem ofLet_of_ofExpression (arithmetic : cause.ofExpression = true) : cause.ofLet = true := by
  unfold ofLet
  split
  case h_4 => exact arithmetic
  all_goals rfl

theorem ofPrint_of_ofExpression (arithmetic : cause.ofExpression = true) :
    cause.ofPrint = true := by
  unfold ofPrint
  split
  case h_3 => exact arithmetic
  all_goals rfl

theorem stage_eq_lexical_iff : cause.stage = .lexical ↔ cause = .unterminatedString := by
  cases cause <;> simp [stage]

/-- An assignment has no lexical errors and is a statement. -/
theorem excluded_of_ofLet (ofLet : cause.ofLet = true) :
    cause.stage ≠ .lexical ∧ cause ≠ .statementExpected ∧
      ∀ word, cause ≠ .unknownStatement word := by
  refine ⟨?_, ?_, ?_⟩
  · rw [ne_eq, stage_eq_lexical_iff]
    rintro rfl
    cases ofLet
  · rintro rfl
    cases ofLet
  · rintro word rfl
    cases ofLet

/-- A `PRINT` statement assigns nothing and is a statement. -/
theorem excluded_of_ofPrint (ofPrint : cause.ofPrint = true) :
    cause ≠ .variableExpected ∧ cause ≠ .equalsExpected ∧ cause ≠ .statementExpected ∧
      ∀ word, cause ≠ .unknownStatement word := by
  refine ⟨?_, ?_, ?_, ?_⟩
  · rintro rfl
    cases ofPrint
  · rintro rfl
    cases ofPrint
  · rintro rfl
    cases ofPrint
  · rintro word rfl
    cases ofPrint

end Cause

section Readings

variable {scope : Scope} {limit : Nat}

/-- **Step.** Whatever fails within an expression is the fault of an expression. -/
theorem Reads.ofExpression {category : Category} {n : Nat} {c : Cursor} {outcome : Outcome Expr}
    (read : Reads scope limit category n c outcome) :
    ∀ rejection, outcome = .error rejection → rejection.error.cause.ofExpression = true := by
  induction read with
  | unbound | tooDeep | unclosed | absent =>
    rintro _ ⟨⟩
    rfl
  | groupFails _ _ ih | firstFails _ ih | operandFails _ _ ih => exact ih
  | first _ _ _ ih | more _ _ _ _ _ ih => exact ih
  | number | bound | group | done =>
    intro _ same
    cases same

theorem ReadsItem.ofPrint {c : Cursor} {rejection : Rejection}
    (read : ReadsItem scope limit c (.error rejection)) :
    rejection.error.cause.ofPrint = true := by
  cases read with
  | unterminated found =>
    obtain ⟨_, _, _, rfl⟩ := Cursor.scanString_eq_error_iff.1 found
    rfl
  | exprFails _ body => exact Cause.ofPrint_of_ofExpression (body.ofExpression _ rfl)

theorem ReadsItems.ofPrint {c : Cursor} {outcome : Outcome (List Item)}
    (read : ReadsItems scope limit c outcome) :
    ∀ rejection, outcome = .error rejection → rejection.error.cause.ofPrint = true := by
  induction read with
  | firstFails first =>
    rintro _ ⟨⟩
    exact first.ofPrint
  | restFails _ _ _ ih => exact ih
  | last | more =>
    intro _ same
    cases same

theorem ReadsLet.ofLet {c : Cursor} {rejection : Rejection}
    (read : ReadsLet scope limit c (.error rejection)) : rejection.error.cause.ofLet = true := by
  cases read with
  | noVariable | noEquals => rfl
  | sourceFails _ _ body => exact Cause.ofLet_of_ofExpression (body.ofExpression _ rfl)
  | source _ _ _ fails =>
    obtain ⟨_, rfl⟩ := Statement.closed_eq_error_iff.1 fails
    rfl

theorem ReadsPrint.ofPrint {c : Cursor} {rejection : Rejection}
    (read : ReadsPrint scope limit c (.error rejection)) :
    rejection.error.cause.ofPrint = true := by
  cases read with
  | itemsFail _ items => exact items.ofPrint _ rfl
  | items _ _ fails =>
    obtain ⟨_, rfl⟩ := Statement.closed_eq_error_iff.1 fails
    rfl

/-- The causes of a line are those of a statement, or there is none. -/
theorem ReadsLine.causes {line : Text} {rejection : Rejection}
    (read : ReadsLine scope limit line (.error rejection)) :
    rejection.error.cause.ofNoStatement = true ∨ rejection.error.cause.ofLet = true ∨
      rejection.error.cause.ofPrint = true := by
  cases read with
  | noKeyword | unknown => exact .inl rfl
  | assign _ _ rest => exact .inr (.inl rest.ofLet)
  | print _ _ rest => exact .inr (.inr rest.ofPrint)

/-- Behind the word for it, an assignment is read. -/
theorem ReadsLine.behindLet {line rest : Text} (keyword : Keyword line ['l', 'e', 't'] rest)
    {outcome : Outcome Statement} (read : ReadsLine scope limit line outcome) :
    ∃ c : Cursor, c.rest = rest ∧ ReadsLet scope limit c outcome := by
  obtain ⟨word, next, found, isLet, rfl⟩ := keyword.scan
  cases read with
  | noKeyword absent =>
    rw [found] at absent
    cases absent
  | unknown found' notLet =>
    cases found.symm.trans found'
    exact absurd isLet notLet
  | assign found' _ rest =>
    cases found.symm.trans found'
    exact ⟨next.observe _, rfl, rest⟩
  | print found' isPrint =>
    cases found.symm.trans found'
    rw [isLet] at isPrint
    cases isPrint

/-- Behind the word for it, a list of items is read. -/
theorem ReadsLine.behindPrint {line rest : Text}
    (keyword : Keyword line ['p', 'r', 'i', 'n', 't'] rest) {outcome : Outcome Statement}
    (read : ReadsLine scope limit line outcome) :
    ∃ c : Cursor, c.rest = rest ∧ ReadsPrint scope limit c outcome := by
  obtain ⟨word, next, found, isPrint, rfl⟩ := keyword.scan
  cases read with
  | noKeyword absent =>
    rw [found] at absent
    cases absent
  | unknown found' _ notPrint =>
    cases found.symm.trans found'
    exact absurd isPrint notPrint
  | assign found' isLet =>
    cases found.symm.trans found'
    rw [isPrint] at isLet
    cases isLet
  | print found' _ rest =>
    cases found.symm.trans found'
    exact ⟨next.observe _, rfl, rest⟩

end Readings

/-! ## Open strings -/

/-- The text `s` up to `t` is a list of items with a comma behind each, so that
another item begins at `t`. -/
inductive ItemsBefore : (s : Text) → List Item → (t : Text) → Prop
  | none {s t} : Gap s t → ItemsBefore s [] t
  | more {s front item after behind items t} :
      Gap s front → DerivesItem front item after → Gap after (',' :: behind) →
      ItemsBefore behind items t → ItemsBefore s (item :: items) t

/-- An item of a `PRINT` line begins with a quote that no other one closes. -/
def OpensString (line : Text) (items : List Item) (content : Text) : Prop :=
  '"' ∉ content ∧ ∃ rest, Keyword line ['p', 'r', 'i', 'n', 't'] rest ∧
    ItemsBefore rest items ('"' :: content)

section Open

variable {scope : Scope} {limit : Nat}

/-- **Step.** If an item of a list is an open string, the items before it are read. -/
theorem ReadsItems.opens {c : Cursor} {outcome : Outcome (List Item)}
    (read : ReadsItems scope limit c outcome) :
    ∀ rejection, outcome = .error rejection → rejection.error.cause = .unterminatedString →
      ∃ items content, '"' ∉ content ∧ ItemsBefore c.rest items ('"' :: content) := by
  induction read with
  | firstFails first =>
    rintro _ ⟨⟩ isOpen
    cases first with
    | unterminated found =>
      obtain ⟨content, plain, front, _⟩ := Cursor.scanString_eq_error_iff.1 found
      exact ⟨[], content, plain, .none (Cursor.gap_skipGap front)⟩
    | exprFails _ body =>
      have arithmetic := body.ofExpression _ rfl
      rw [isOpen] at arithmetic
      cases arithmetic
  | restFails first found _ ih =>
    intro rejection same isOpen
    obtain ⟨item, front, _, gap, derived, _⟩ := first.sound
    obtain ⟨behind, comma, taken⟩ := Cursor.scanLiteral_eq_some_iff.1 found
    obtain ⟨rfl, rfl⟩ := Prod.mk.inj taken
    obtain ⟨items, content, plain, before⟩ := ih rejection same isOpen
    exact ⟨item :: items, content, plain, .more gap derived (Cursor.gap_skipGap comma) before⟩
  | last | more =>
    intro _ same
    cases same

/-- The other way round, items that may be read are read up to the open string. -/
theorem ItemsBefore.reads {s content : Text} {items : List Item}
    (before : ItemsBefore s items ('"' :: content)) (plain : '"' ∉ content)
    (fits : Statement.Fits scope limit (.print items)) :
    ∀ c : Cursor, c.rest = s → ∃ rejection, rejection.error.cause = .unterminatedString ∧
      ReadsItems scope limit c (.error rejection) := by
  generalize whole : '"' :: content = t at before
  induction before with
  | none gap =>
    rintro c rfl
    subst whole
    have front := c.skipGap_rest gap (stops_isGap_of_punctuation (by decide))
    exact ⟨_, rfl, .firstFails (.unterminated (Cursor.scanString_of_open plain front))⟩
  | @more s front item after behind items t gap derived gapComma _ ih =>
    rintro c rfl
    obtain ⟨fitsFirst, fitsRest⟩ := Statement.fits_cons.1 fits
    obtain ⟨next, rfl, first⟩ :=
      derived.reads (Tier.follow_of_gap gapComma (.inr rfl) _) fitsFirst c gap
    have comma : next.skipGap.rest = [','] ++ behind :=
      next.skipGap_rest gapComma (stops_isGap_of_punctuation (by decide))
    have found := Cursor.scanLiteral_eq_some_iff.2 ⟨behind, comma, rfl⟩
    obtain ⟨rejection, isOpen, others⟩ :=
      ih fitsRest whole (next.skipGap.take .literal [','] behind).2 rfl
    exact ⟨rejection, isOpen, .restFails first found others⟩

end Open

/-! ## Quotes -/

/-- The text `s` up to `t` has `n` quotes. -/
def QuotesTo (n : Nat) (s t : Text) : Prop := ∃ front, s = front ++ t ∧ front.count '"' = n

namespace QuotesTo

variable {m n : Nat} {s t u : Text}

theorem refl (t : Text) : QuotesTo 0 t t := ⟨[], rfl, rfl⟩

theorem trans (first : QuotesTo m s t) (rest : QuotesTo n t u) : QuotesTo (m + n) s u := by
  obtain ⟨front, rfl, rfl⟩ := first
  obtain ⟨behind, rfl, rfl⟩ := rest
  exact ⟨front ++ behind, (List.append_assoc ..).symm, List.count_append⟩

theorem of_all {p : Char → Bool} (outside : p '"' = false) {front : Text}
    (all : ∀ c ∈ front, p c = true) (t : Text) : QuotesTo 0 (front ++ t) t := by
  refine ⟨front, rfl, List.count_eq_zero.2 fun member => ?_⟩
  rw [all _ member] at outside
  cases outside

theorem of_gap (gap : Gap s t) : QuotesTo 0 s t := by
  obtain ⟨front, all, rfl⟩ := gap
  exact of_all (punctuation_apart (by decide)).1 all t

theorem of_mark {c : Char} (other : c ≠ '"') (t : Text) : QuotesTo 0 (c :: t) t :=
  ⟨[c], rfl, by simp [other]⟩

end QuotesTo

open QuotesTo

theorem isNameChar_quote : isNameChar '"' = false := isNameChar_of_punctuation (by decide)

theorem Derives.quotesTo {category : Category} {s t : Text} {e : Expr}
    (derived : Derives category s e t) : QuotesTo 0 s t := by
  induction derived with
  | number isNumber => exact of_all (p := isDigit) rfl (isNumber.all fun _ => id) _
  | name isName => exact of_all isNameChar_quote (isName.all fun _ => isNameChar_of_isLetter) _
  | group gap _ closing ih =>
    have opened := (of_mark (c := '(') (by decide) _).trans (of_gap gap)
    have closed := (of_gap closing).trans (of_mark (by decide) _)
    exact (opened.trans ih).trans closed
  | operands _ _ ihFirst ihChain => exact ihFirst.trans ihChain
  | done => exact refl _
  | @operation _ _ operator _ _ _ _ _ _ _ _ gap gapRight _ _ ihRight ihChain =>
    have sign : operator.symbol ≠ '"' := by cases operator <;> decide
    have front := ((of_gap gap).trans (of_mark sign _)).trans (of_gap gapRight)
    exact (front.trans ihRight).trans ihChain

/-- How many items of a list are strings. -/
def stringCount (items : List Item) : Nat := items.countP (·.kind = .string)

theorem stringCount_cons (item : Item) (items : List Item) :
    stringCount (item :: items) = stringCount [item] + stringCount items := by
  rw [stringCount, ← List.singleton_append, List.countP_append]
  rfl

/-- A string has two quotes, and an expression has none. -/
theorem DerivesItem.quotesTo {s t : Text} {item : Item} (derived : DerivesItem s item t) :
    QuotesTo (2 * stringCount [item]) s t := by
  cases derived with
  | @string content t plain =>
    have none : content.count '"' = 0 := List.count_eq_zero.2 plain
    exact ⟨'"' :: (content ++ ['"']), by simp, by simp [stringCount, Item.kind, none]⟩
  | expr sum => exact sum.quotesTo

/-- So the quotes before an item pair up. -/
theorem ItemsBefore.quotesTo {s t : Text} {items : List Item}
    (before : ItemsBefore s items t) : QuotesTo (2 * stringCount items) s t := by
  induction before with
  | none gap => exact of_gap gap
  | @more s front item after behind items t gap derived gapComma _ ih =>
    have comma := (of_gap gapComma).trans (of_mark (by decide) _)
    have whole := (((of_gap gap).trans derived.quotesTo).trans comma).trans ih
    have total : 0 + 2 * stringCount [item] + (0 + 0) + 2 * stringCount items =
        2 * stringCount (item :: items) := by
      have parts := stringCount_cons item items
      omega
    rwa [total] at whole

/-- **The string that is open begins with the last quote**, and the others pair up
before it. -/
theorem OpensString.split {line content : Text} {items : List Item}
    (opens : OpensString line items content) :
    ∃ front, line = front ++ '"' :: content ∧ front.count '"' = 2 * stringCount items ∧
      line.count '"' = 2 * stringCount items + 1 := by
  obtain ⟨plain, rest, ⟨letters, gap, isWord, _, _⟩, before⟩ := opens
  have word : QuotesTo 0 (letters ++ rest) rest :=
    of_all (punctuation_apart (by decide)).2.1 (isWord.all fun _ => id) rest
  obtain ⟨front, rfl, paired⟩ := ((of_gap gap).trans word).trans before.quotesTo
  have none : content.count '"' = 0 := List.count_eq_zero.2 plain
  rw [Nat.add_zero, Nat.zero_add] at paired
  exact ⟨front, rfl, paired, by simp [paired, none]⟩

/-- A line that may be read up to an open string is rejected for it. -/
theorem OpensString.rejected {store : Store} {line content : Text} {items : List Item}
    (opens : OpensString line items content)
    (fits : Statement.Fits store.isSet nestingLimit (.print items)) :
    ∃ error, (execute store line).outcome = .error error ∧
      error.cause = .unterminatedString := by
  obtain ⟨plain, _, keyword, before⟩ := opens
  obtain ⟨word, next, found, isPrint, rfl⟩ := keyword.scan
  let c := next.observe (.dispatching (fold word.lexeme))
  obtain ⟨⟨error, place⟩, isOpen, read⟩ := before.reads plain fits c rfl
  have some_left : c.scanEndOfLine = none := by
    rw [Cursor.scanEndOfLine_eq_none_iff]
    intro none_left
    obtain ⟨gap, all, whole⟩ := Cursor.gap_skipGap none_left
    obtain ⟨front, split, _⟩ := before.quotesTo
    have quote : '"' ∈ gap := by
      rw [List.append_nil] at whole
      rw [← whole, show c.rest = next.rest from rfl, split]
      exact List.mem_append_right front List.mem_cons_self
    have isGap_quote := all _ quote
    rw [(punctuation_apart (by decide)).1] at isGap_quote
    cases isGap_quote
  exact ⟨error, outcome_eq_error_iff.2 ⟨place, .print found isPrint (.itemsFail some_left read)⟩,
    isOpen⟩

/-! ## Statement words -/

/-- A small ASCII letter to which no character folds but it and its capital. -/
def isPlainSmall (c : Char) : Bool := 0x61 ≤ c.toNat && c.toNat ≤ 0x7A && c.toNat != 0x6B

/-- The forms of a run are its ASCII letters in lower case, or they are no plain
small letters. -/
theorem caseRuns_plain : ∀ run ∈ caseRuns,
    run.lower + (run.last - run.first) < 0x61 ∨ 0x7A < run.lower ∨
      run.lower = 0x6B ∧ run.first = run.last ∨
      run.lower = run.first + 0x20 ∧ 0x41 ≤ run.first ∧ run.last ≤ 0x5A := by decide +kernel

theorem capitals_toLower :
    capitals.all (fun ch => ch.toNat < 0x61 && ch.toLower.toNat == ch.toNat + 0x20) = true := by
  decide +kernel

theorem isPlainSmall_iff {c : Char} : isPlainSmall c = true ↔
    0x61 ≤ c.toNat ∧ c.toNat ≤ 0x7A ∧ c.toNat ≠ 0x6B := by
  simp [isPlainSmall, and_assoc]

/-- Only a letter and its capital have a plain small letter as their form. -/
theorem toLower_of_lowerChar {c l : Char} (plain : isPlainSmall l = true)
    (form : lowerChar c = [l]) : c.toLower = l := by
  obtain ⟨least, most, other⟩ := isPlainSmall_iff.1 plain
  unfold lowerChar at form
  split at form
  · cases form
  rw [List.singleton_inj] at form
  rcases CaseRun.lowerCode_cases caseRuns c.toNat with
    same | ⟨run, inTable, k, inRun, _, place, nonempty, moved⟩
  · -- what the table leaves alone is the small letter itself
    rw [same, Char.ofNat_toNat] at form
    subst form
    rcases mem_capitals_or_toLower_eq c with member | small
    · have below := List.all_eq_true.1 capitals_toLower c member
      simp only [Bool.and_eq_true, decide_eq_true_eq] at below
      omega
    · exact small
  · obtain ⟨_, _, besideSurrogates⟩ := caseRuns_within run inTable
    have code : l.toNat = run.lower + k := by
      rw [← form, moved, toNat_ofNat]
      unfold Nat.isValidChar
      omega
    rcases caseRuns_plain run inTable with below | above | ⟨kelvin, single⟩ | ⟨ascii, first, last⟩
    · omega
    · omega
    · omega
    · have member : c ∈ capitals := by
        refine List.mem_map.2 ⟨c.toNat - 0x41, List.mem_range.2 (by omega), ?_⟩
        rw [Nat.add_sub_cancel' (by omega), Char.ofNat_toNat]
      have shifted := List.all_eq_true.1 capitals_toLower c member
      simp only [Bool.and_eq_true, beq_iff_eq] at shifted
      refine Char.toNat_inj.1 ?_
      rw [shifted.2]
      omega

/-- Folding a text gives plain small letters only if all that it changes are ASCII
capitals. -/
theorem map_toLower_of_foldAfter {before t : Text}
    (plain : ∀ l ∈ foldAfter before t, isPlainSmall l = true) :
    t.map Char.toLower = foldAfter before t := by
  induction t generalizing before with
  | nil => rfl
  | cons c t ih =>
    rw [foldAfter_cons] at plain ⊢
    obtain ⟨here, others⟩ := List.forall_mem_append.1 plain
    by_cases sigma : c = 'Σ'
    · -- neither small sigma is plain
      have form : formWithin before c t = [if isFinalSigma before t then 'ς' else 'σ'] :=
        if_pos sigma
      rw [form] at here
      have isPlain := here _ List.mem_cons_self
      split at isPlain <;> cases isPlain
    by_cases dotted : c = 'İ'
    · have form : formWithin before c t = ['i', dotAbove] := by
        rw [dotted]
        rfl
      rw [form] at here
      have isPlain := here dotAbove (by simp)
      cases isPlain
    · obtain ⟨l, form, _⟩ := exists_lowerChar dotted
      rw [formWithin_eq_lowerChar (.inl sigma), form] at here ⊢
      rw [List.map_cons, toLower_of_lowerChar (here l List.mem_cons_self) form, ih others]
      rfl

/-- **A text folds to a word of plain small letters exactly if it is that word up
to ASCII case.** -/
theorem fold_eq_iff_of_plain {word t : Text} (plain : word.all isPlainSmall = true)
    (settled : fold word = word) : fold t = word ↔ t.map Char.toLower = word := by
  constructor
  · rintro rfl
    exact map_toLower_of_foldAfter (List.all_eq_true.1 plain)
  · rintro rfl
    rw [fold_map_toLower] at settled
    exact settled

/-! ## Whole lines -/

/-- If a line is rejected for an open string, there is one. -/
theorem ReadsLine.opens {scope : Scope} {limit : Nat} {line : Text} {rejection : Rejection}
    (read : ReadsLine scope limit line (.error rejection))
    (isOpen : rejection.error.cause = .unterminatedString) :
    ∃ items content, OpensString line items content := by
  cases read with
  | noKeyword | unknown => cases isOpen
  | assign _ _ rest =>
    have ofLet := rest.ofLet
    rw [isOpen] at ofLet
    cases ofLet
  | @print word next _ found isPrint rest =>
    cases rest with
    | itemsFail _ list =>
      obtain ⟨items, content, plain, before⟩ := list.opens _ rfl isOpen
      have keyword := Cursor.keyword_of_scan found
      rw [isPrint] at keyword
      exact ⟨items, content, plain, next.rest, keyword, before⟩
    | items _ _ fails =>
      obtain ⟨_, rfl⟩ := Statement.closed_eq_error_iff.1 fails
      cases isOpen

/-- **The statement word of a line fixes what the line can be rejected for.** No
line is rejected for an unknown operator. A line that begins with `LET` has no
lexical error and never lacks a statement, one that begins with `PRINT` lacks
neither a variable nor its sign nor a statement. A line with an open string is a
`PRINT` line in which an item begins with the last quote and the quotes before it
pair up; and such a line is rejected for that if the items before it may be read.
The statement words are these words up to ASCII case, whatever letters fold. -/
theorem keyword_fixes_causes (store : Store) (line : Text) :
    (∀ error, (execute store line).outcome = .error error →
      (∀ symbol, error.cause ≠ .unknownOperator symbol) ∧
      (∀ rest, Keyword line ['l', 'e', 't'] rest →
        error.cause.stage ≠ .lexical ∧ error.cause ≠ .statementExpected ∧
          ∀ word, error.cause ≠ .unknownStatement word) ∧
      (∀ rest, Keyword line ['p', 'r', 'i', 'n', 't'] rest →
        error.cause ≠ .variableExpected ∧ error.cause ≠ .equalsExpected ∧
          error.cause ≠ .statementExpected ∧ ∀ word, error.cause ≠ .unknownStatement word) ∧
      (error.cause = .unterminatedString → ∃ items content, OpensString line items content ∧
        line.count '"' = 2 * stringCount items + 1 ∧
        ∃ front, line = front ++ '"' :: content ∧ front.count '"' = 2 * stringCount items)) ∧
    (∀ items content, OpensString line items content →
      Statement.Fits store.isSet nestingLimit (.print items) →
      ∃ error, (execute store line).outcome = .error error ∧
        error.cause = .unterminatedString) ∧
    ∀ letters : Text,
      (fold letters = ['l', 'e', 't'] ↔ letters.map Char.toLower = ['l', 'e', 't']) ∧
      (fold letters = ['p', 'r', 'i', 'n', 't'] ↔
        letters.map Char.toLower = ['p', 'r', 'i', 'n', 't']) := by
  refine ⟨?_, fun items content opens fits => opens.rejected fits, fun letters => ⟨?_, ?_⟩⟩
  · intro error failed
    obtain ⟨place, read⟩ := outcome_eq_error_iff.1 failed
    refine ⟨?_, ?_, ?_, ?_⟩
    · intro symbol unknown
      rcases read.causes with none | ofLet | ofPrint
      · rw [unknown] at none
        cases none
      · rw [unknown] at ofLet
        cases ofLet
      · rw [unknown] at ofPrint
        cases ofPrint
    · intro rest keyword
      obtain ⟨_, _, readLet⟩ := read.behindLet keyword
      exact Cause.excluded_of_ofLet readLet.ofLet
    · intro rest keyword
      obtain ⟨_, _, readPrint⟩ := read.behindPrint keyword
      exact Cause.excluded_of_ofPrint readPrint.ofPrint
    · intro isOpen
      obtain ⟨items, content, opens⟩ := read.opens isOpen
      obtain ⟨front, whole, paired, total⟩ := opens.split
      exact ⟨items, content, opens, total, front, whole, paired⟩
  · exact fold_eq_iff_of_plain (by decide) (by decide +kernel)
  · exact fold_eq_iff_of_plain (by decide) (by decide +kernel)

/-- Of five quotes the last one opens a string, behind two strings and a number. -/
theorem last_of_five_quotes_opens :
    (execute .empty "Print \",\", 1, \"\", \"2".toList).outcome =
      .error (.at .unterminatedString ⟨18, 20⟩) ∧
    ∃ items content, OpensString "Print \",\", 1, \"\", \"2".toList items content ∧
      "Print \",\", 1, \"\", \"2".toList.count '"' = 2 * stringCount items + 1 := by
  have failed : (execute .empty "Print \",\", 1, \"\", \"2".toList).outcome =
      .error (.at .unterminatedString ⟨18, 20⟩) := by decide +kernel
  obtain ⟨_, _, _, opens⟩ := (keyword_fixes_causes .empty _).1 _ failed
  obtain ⟨items, content, opened, total, _⟩ := opens rfl
  exact ⟨failed, items, content, opened, total⟩

end LineBasic
