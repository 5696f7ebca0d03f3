import LineBasic.Diagnostic
import LineBasic.Proofs.Places

/-!
# Errors point at what caused them

Spans count bytes, a report underlines characters. For every rejected line the
span begins between two characters, and what is underlined is one stretch of
the line (`Marks`) that bears the blame for the error (`Cause.Blames`): a word,
a parenthesis, an open string, one character that cannot stand there, or
nothing at the end of the line.

* **bytes to characters** — a span of a whole text, of the first byte of a
  character of any size, and beyond the end (`marks_text`, `marks_single`,
  `marks_end`);
* **errors** — every rule of reading keeps the cursor on the line and rejects
  at a stretch to blame (`Reads.placed`, `ReadsLine.pointed`);
* **`error_points_at_cause`** — hence so does every line.
-/

namespace LineBasic

/-! ## Characters under a span -/

@[simp] theorem charOffset_zero (t : Text) : charOffset t 0 = 0 := by
  cases t <;> rfl

/-- Bytes of whole characters at the front count as these characters. -/
theorem charOffset_append (before rest : Text) (place : Nat) :
    charOffset (before ++ rest) (byteSize before + place) =
      before.length + charOffset rest place := by
  induction before with
  | nil => simp [byteSize]
  | cons c before ih =>
    have size := c.utf8Size_pos
    have behind : c.utf8Size + byteSize before + place - c.utf8Size = byteSize before + place := by
      omega
    rw [List.cons_append, charOffset, byteSize, if_neg (by omega), behind, ih, List.length_cons]
    omega

/-- The first byte of a character counts as the whole character. -/
theorem charOffset_one (c : Char) (rest : Text) : charOffset (c :: rest) 1 = 1 := by
  have size := c.utf8Size_pos
  have inside : 1 - c.utf8Size = 0 := by omega
  rw [charOffset, if_neg (by omega), inside, charOffset_zero]

/-- The span begins where `marked` does, and `marked` is what it highlights in
the line. -/
structure Marks (span : Span) (before marked after : Text) : Prop where
  start : span.start = byteSize before
  highlight : span.highlight (before ++ (marked ++ after)) =
    (before.length, before.length + marked.length)

/-- What a span highlights if it stops at a given number of characters. -/
theorem marks_of_stop {span : Span} {before marked after : Text}
    (start : span.start = byteSize before)
    (stop : charOffset (before ++ (marked ++ after)) span.stop = before.length + marked.length) :
    Marks span before marked after := by
  refine ⟨start, ?_⟩
  have front : charOffset (before ++ (marked ++ after)) span.start = before.length := by
    rw [start, ← Nat.add_zero (byteSize before), charOffset_append, charOffset_zero]
    rfl
  rw [Span.highlight, front, stop, Nat.max_eq_left (Nat.le_add_right _ _)]

theorem marks_text (before marked after : Text) :
    Marks ⟨byteSize before, byteSize before + byteSize marked⟩ before marked after := by
  apply marks_of_stop rfl
  rw [charOffset_append, ← Nat.add_zero (byteSize marked), charOffset_append, charOffset_zero]
  rfl

/-- One byte marks the character that it begins, however long that is. -/
theorem marks_single (before : Text) (c : Char) (after : Text) :
    Marks (.single (byteSize before)) before [c] after := by
  apply marks_of_stop rfl
  show charOffset _ (byteSize before + 1) = _
  rw [charOffset_append, List.cons_append, charOffset_one]
  rfl

theorem marks_end (before : Text) : Marks (.single (byteSize before)) before [] [] := by
  apply marks_of_stop rfl
  show charOffset _ (byteSize before + 1) = _
  rw [charOffset_append]
  rfl

/-! ## Where the blame lies -/

/-- One character that neither is white space nor begins what was expected, or
the end of the line. -/
def Unfit (begins : Char → Prop) (marked after : Text) : Prop :=
  (∃ c, marked = [c] ∧ isGap c = false ∧ ¬ begins c) ∨ (marked = [] ∧ after = [])

/-- What makes `marked`, with `after` behind it, the cause of an error. The two
causes that name a word blame a token that was matched there. -/
def Cause.Blames (trace : List Event) (span : Span) (marked after : Text) : Cause → Prop
  | .unknownStatement word =>
    .matched ⟨.keyword, marked, span⟩ ∈ trace ∧ IsWord isLetter isLetter marked ∧
      Stops isLetter after ∧ fold marked = word
  | .variableNotFound name =>
    .matched ⟨.variable, marked, span⟩ ∈ trace ∧ IsName marked ∧
      Stops isNameChar after ∧ fold marked = name
  | .nestingTooDeep _ => marked = ['(']
  | .unterminatedString => (∃ tail, marked = '"' :: tail ∧ '"' ∉ tail) ∧ after = []
  | .endOfLineExpected => ∃ c, marked = [c] ∧ isGap c = false
  | .statementExpected => Unfit (fun c => isLetter c = true) marked after
  | .variableExpected => Unfit (fun c => isLetter c = true) marked after
  | .equalsExpected => Unfit (fun c => c = '=') marked after
  | .missingRightParen => Unfit (fun c => c ∈ [')', '+', '-', '*', '/']) marked after
  | .expressionExpected =>
    Unfit (fun c => isDigit c = true ∨ isLetter c = true ∨ c = '(') marked after
  | .unknownOperator _ => False

/-- The rejection marks the stretch of the line that bears the blame. -/
def Pointed (line : Text) (rejection : Rejection) : Prop :=
  ∃ before marked after, line = before ++ (marked ++ after) ∧
    Marks rejection.error.span before marked after ∧
    rejection.error.cause.Blames rejection.place.trace rejection.error.span marked after

namespace OnLine

variable {line : Text} {c next : Cursor} {token : Token}

/-- What stands behind the gap: a character or the end of the line. -/
theorem next_cases (on : OnLine line c) :
    (∃ before ch after, line = before ++ ([ch] ++ after) ∧ c.nextPlace = byteSize before ∧
      c.skipGap.rest = ch :: after ∧ isGap ch = false) ∨
    (∃ before, line = before ++ ([] ++ []) ∧ c.nextPlace = byteSize before ∧
      c.skipGap.rest = []) := by
  obtain ⟨before, whole, offset⟩ := on.skipGap
  -- what is left behind the gap does not begin with white space
  have stops := c.stops_skipGap
  rw [Cursor.skipGap_offset] at offset
  cases front : c.skipGap.rest with
  | nil =>
    rw [front] at whole
    exact .inr ⟨before, whole, offset, rfl⟩
  | cons ch after =>
    rw [front] at whole stops
    exact .inl ⟨before, ch, after, whole, offset, rfl, stops_cons.1 stops⟩

/-- An error about what is missing at `c` marks what stands there instead. -/
theorem pointed_missing (on : OnLine line c) (cause : Cause) {begins : Char → Prop}
    (blames : ∀ trace span marked after, Unfit begins marked after →
      cause.Blames trace span marked after)
    (missing : ∀ ch, c.skipGap.rest.head? = some ch → ¬ begins ch) (place : Cursor) :
    Pointed line ⟨.at cause (.single c.nextPlace), place⟩ := by
  rcases on.next_cases with ⟨before, ch, after, whole, offset, front, notGap⟩ |
    ⟨before, whole, offset, front⟩
  · rw [offset]
    refine ⟨before, [ch], after, whole, marks_single before ch after, blames _ _ _ _ ?_⟩
    exact .inl ⟨ch, rfl, notGap, missing ch (by rw [front]; rfl)⟩
  · rw [offset]
    exact ⟨before, [], [], whole, marks_end before, blames _ _ _ _ (.inr ⟨rfl, rfl⟩)⟩

/-- An error about a text that was taken marks this text. -/
theorem pointed_text (on : OnLine line c) {text : Text} (consumes : c.Consumes text next)
    {cause : Cause} {place : Cursor}
    (blames : cause.Blames place.trace ⟨c.nextPlace, next.offset⟩ text next.rest) :
    Pointed line ⟨.at cause ⟨c.nextPlace, next.offset⟩, place⟩ := by
  obtain ⟨before, whole, offset⟩ := on.skipGap
  rw [consumes.rest] at whole
  refine ⟨before, text, next.rest, whole, ?_, blames⟩
  have marks := marks_text before text next.rest
  rw [← offset, Cursor.skipGap_offset, ← consumes.offset] at marks
  exact marks

end OnLine

/-! ## Expressions -/

/-- No operator of the group, or of one that binds tighter, stands at `c`. -/
def Tier.Over : Tier → Cursor → Prop
  | product, c => Tier.product.scan c = none
  | sum, c => Tier.product.scan c = none ∧ Tier.sum.scan c = none

/-- How a category that was read from `c` on leaves off at `next`. -/
def Category.Over : Category → (c next : Cursor) → Prop
  | factor, _, _ => True
  | grouped tier, _, next => tier.Over next
  | chain .product _, _, next => Tier.product.Over next
  | chain .sum _, c, next => Tier.product.Over c → Tier.sum.Over next

/-- Reading leads on along the line and stops where no operator stands, or
ends with an error that marks its cause. -/
def Category.Placed (line : Text) (category : Category) (c : Cursor) : Outcome Expr → Prop
  | .ok (_, next) => OnLine line next ∧ category.Over c next
  | .error rejection => Pointed line rejection

theorem Category.Placed.error {line : Text} {category : Category} {c : Cursor}
    {rejection : Rejection} (placed : category.Placed line c (.error rejection)) :
    Pointed line rejection := placed

theorem Category.Placed.onLine {line : Text} {category : Category} {c next : Cursor} {e : Expr}
    (placed : category.Placed line c (.ok (e, next))) : OnLine line next := placed.1

/-- Where a sum is over, no parenthesis means no character that could go on. -/
theorem Tier.Over.missing {c : Cursor} (ended : Tier.sum.Over c)
    (noParen : c.scanLiteral [')'] = none) :
    ∀ ch, c.skipGap.rest.head? = some ch → ch ∉ [')', '+', '-', '*', '/'] := by
  intro ch front member
  have noProduct := Tier.scan_eq_none_iff.1 ended.1
  have noSum := Tier.scan_eq_none_iff.1 ended.2
  rw [Cursor.scanLiteral_eq_none_iff] at noParen
  simp only [List.mem_cons, List.not_mem_nil, or_false] at member
  rcases member with rfl | rfl | rfl | rfl | rfl
  · exact noParen front
  · exact noSum .add rfl front
  · exact noSum .sub rfl front
  · exact noProduct .mul rfl front
  · exact noProduct .div rfl front

theorem Reads.placed {scope : Scope} {limit : Nat} {category : Category} {n : Nat} {c : Cursor}
    {outcome : Outcome Expr} (read : Reads scope limit category n c outcome) {line : Text}
    (on : OnLine line c) : category.Placed line c outcome := by
  induction read with
  | number found => exact ⟨on.consumes (Cursor.consumes_of_scanWord found).1, trivial⟩
  | bound found _ => exact ⟨on.consumes (Cursor.consumes_of_scanWord found).1, trivial⟩
  | @unbound n c token next found _ =>
    obtain ⟨consumes, form, trace⟩ := Cursor.consumes_of_scanWord found
    obtain ⟨word, rest, isName, stops, _, taken⟩ := Cursor.scanWord_eq_some_iff.1 found
    have span : token.span = ⟨c.nextPlace, next.offset⟩ := by rw [form]
    rw [span]
    refine on.pointed_text consumes ⟨?_, ?_, ?_, rfl⟩
    · rw [← form, trace]
      exact List.mem_cons_self
    · obtain ⟨rfl, rfl⟩ := Prod.mk.inj taken
      exact isName
    · obtain ⟨rfl, rfl⟩ := Prod.mk.inj taken
      exact stops
  | tooDeep found =>
    obtain ⟨consumes, form⟩ := Cursor.consumes_of_scanLiteral found
    rw [form]
    exact on.pointed_text consumes rfl
  | groupFails found _ ih => exact (ih (on.consumes (Cursor.consumes_of_scanLiteral found).1)).error
  | unclosed found _ missing ih =>
    -- the sum in parentheses is over, so no operator stands there either
    obtain ⟨onBody, ended⟩ := ih (on.consumes (Cursor.consumes_of_scanLiteral found).1)
    exact onBody.pointed_missing .missingRightParen (fun _ _ _ _ unfit => unfit)
      (Tier.Over.missing ended missing) _
  | group found _ closed ih =>
    have onBody := (ih (on.consumes (Cursor.consumes_of_scanLiteral found).1)).onLine
    exact ⟨onBody.consumes (Cursor.consumes_of_scanLiteral closed).1, trivial⟩
  | absent noNumber noName noParen =>
    refine on.pointed_missing .expressionExpected (fun _ _ _ _ unfit => unfit) ?_ _
    rintro ch front (digit | letter | rfl)
    · rw [Cursor.scanWord_eq_none_iff.1 noNumber ch front] at digit
      cases digit
    · rw [Cursor.scanWord_eq_none_iff.1 noName ch front] at letter
      cases letter
    · exact Cursor.scanLiteral_eq_none_iff.1 noParen front
  | @firstFails tier _ _ _ _ ih => exact (ih on).error
  | @first tier n c left next outcome _ _ ihFirst ihChain =>
    have firstPlaced := ihFirst on
    have chainPlaced := ihChain firstPlaced.onLine
    cases outcome with
    | error rejection => exact chainPlaced
    | ok pair =>
      refine ⟨chainPlaced.1, ?_⟩
      cases tier with
      | product => exact chainPlaced.2
      | sum =>
        -- the first product left off where no sign of a product stands
        exact chainPlaced.2 firstPlaced.2
  | @done tier left n c absent =>
    refine ⟨on, ?_⟩
    cases tier with
    | product => exact absent
    | sum => exact fun ended => ⟨ended, absent⟩
  | operandFails found _ ih => exact (ih (on.consumes (Cursor.consumes_of_scanTier found))).error
  | @more tier left n c sign after operator right next outcome found _ _ _ ihRight ihChain =>
    have rightPlaced := ihRight (on.consumes (Cursor.consumes_of_scanTier found))
    have chainPlaced := ihChain rightPlaced.onLine
    cases outcome with
    | error rejection => exact chainPlaced
    | ok pair =>
      refine ⟨chainPlaced.1, ?_⟩
      cases tier with
      | product => exact chainPlaced.2
      | sum => exact fun _ => chainPlaced.2 rightPlaced.2

/-! ## Items and lines -/

/-- Reading leads on along the line or ends with an error that marks its
cause. -/
def Placed {α : Type} (line : Text) : Outcome α → Prop
  | .ok (_, next) => OnLine line next
  | .error rejection => Pointed line rejection

section Lines

variable {scope : Scope} {limit : Nat} {line : Text} {c : Cursor}

theorem OnLine.sum_placed (on : OnLine line c) {outcome : Outcome Expr}
    (read : Reads scope limit (.grouped .sum) limit c outcome) : Placed line outcome := by
  have placed := read.placed on
  cases outcome with
  | error rejection => exact placed
  | ok pair => exact placed.1

theorem ReadsItem.placed {outcome : Outcome Item} (read : ReadsItem scope limit c outcome)
    (on : OnLine line c) : Placed line outcome := by
  cases read with
  | unterminated found =>
    obtain ⟨tail, plain, front, rfl⟩ := Cursor.scanString_eq_error_iff.1 found
    -- the open string is taken up to the end of the line
    have consumes : c.Consumes ('"' :: tail) ⟨c.skipGap.lineEnd, [], c.trace⟩ := by
      refine ⟨by rw [front, List.append_nil], ?_⟩
      show c.nextPlace + byteSize c.skipGap.rest = _
      rw [front]
    exact on.pointed_text consumes ⟨⟨tail, rfl, plain⟩, rfl⟩
  | string found => exact (on.consumes (Cursor.consumes_of_scanString found)).observe _
  | exprFails _ failed => exact on.sum_placed failed
  | expr _ body => exact on.sum_placed body

theorem ReadsItems.placed {outcome : Outcome (List Item)} (read : ReadsItems scope limit c outcome)
    (on : OnLine line c) : Placed line outcome := by
  induction read with
  | firstFails failed => exact failed.placed on
  | last item _ => exact item.placed on
  | restFails item found _ ih =>
    have onItem : OnLine line _ := item.placed on
    exact ih (onItem.consumes (Cursor.consumes_of_scanLiteral found).1)
  | @more c item next comma after items tail first found _ ih =>
    have onItem : OnLine line _ := first.placed on
    exact ih (onItem.consumes (Cursor.consumes_of_scanLiteral found).1)

/-- What is left over after a statement marks itself. -/
theorem OnLine.closed_pointed (on : OnLine line c) {statement : Statement} {rejection : Rejection}
    (notClosed : Statement.closed statement c = .error rejection) : Pointed line rejection := by
  obtain ⟨some_left, rfl⟩ := Statement.closed_eq_error_iff.1 notClosed
  rcases on.next_cases with ⟨before, ch, after, whole, offset, _, notGap⟩ | ⟨_, _, _, none_left⟩
  · rw [offset]
    exact ⟨before, [ch], after, whole, marks_single before ch after, ch, rfl, notGap⟩
  · exact absurd none_left some_left

theorem ReadsLet.pointed {rejection : Rejection} (read : ReadsLet scope limit c (.error rejection))
    (on : OnLine line c) : Pointed line rejection := by
  cases read with
  | noVariable absent =>
    refine on.pointed_missing .variableExpected (fun _ _ _ _ unfit => unfit) ?_ _
    intro ch front letter
    rw [Cursor.scanWord_eq_none_iff.1 absent ch front] at letter
    cases letter
  | noEquals found absent =>
    have onName := on.consumes (Cursor.consumes_of_scanWord found).1
    refine onName.pointed_missing .equalsExpected (fun _ _ _ _ unfit => unfit) ?_ _
    rintro ch front rfl
    exact Cursor.scanLiteral_eq_none_iff.1 absent front
  | sourceFails found equals failed =>
    have onName := on.consumes (Cursor.consumes_of_scanWord found).1
    exact (onName.consumes (Cursor.consumes_of_scanLiteral equals).1).sum_placed failed
  | source found equals body notClosed =>
    have onName := on.consumes (Cursor.consumes_of_scanWord found).1
    have onSource : OnLine line _ :=
      (onName.consumes (Cursor.consumes_of_scanLiteral equals).1).sum_placed body
    exact onSource.closed_pointed notClosed

theorem ReadsPrint.pointed {rejection : Rejection}
    (read : ReadsPrint scope limit c (.error rejection)) (on : OnLine line c) :
    Pointed line rejection := by
  cases read with
  | itemsFail _ failed => exact failed.placed on
  | items _ list notClosed =>
    have onItems : OnLine line _ := list.placed on
    exact onItems.closed_pointed notClosed

/-- Every error of a line marks its cause. -/
theorem ReadsLine.pointed {rejection : Rejection}
    (read : ReadsLine scope limit line (.error rejection)) : Pointed line rejection := by
  have on := OnLine.start line
  cases read with
  | noKeyword absent =>
    refine on.pointed_missing .statementExpected (fun _ _ _ _ unfit => unfit) ?_ _
    intro ch front letter
    rw [Cursor.scanWord_eq_none_iff.1 absent ch front] at letter
    cases letter
  | @unknown token next found _ _ =>
    obtain ⟨consumes, form, trace⟩ := Cursor.consumes_of_scanWord found
    obtain ⟨word, rest, isWord, stops, _, taken⟩ := Cursor.scanWord_eq_some_iff.1 found
    have span : token.span = ⟨(Cursor.start line).nextPlace, next.offset⟩ := by rw [form]
    rw [span]
    refine on.pointed_text consumes ⟨?_, ?_, ?_, rfl⟩
    · rw [← form]
      show _ ∈ _ :: next.trace
      rw [trace]
      exact List.mem_cons_of_mem _ List.mem_cons_self
    · obtain ⟨rfl, rfl⟩ := Prod.mk.inj taken
      exact isWord
    · obtain ⟨rfl, rfl⟩ := Prod.mk.inj taken
      exact stops
  | assign found _ rest =>
    exact rest.pointed ((on.consumes (Cursor.consumes_of_scanWord found).1).observe _)
  | print found _ rest =>
    exact rest.pointed ((on.consumes (Cursor.consumes_of_scanWord found).1).observe _)

end Lines

/-! ## Execution -/

/-- A rejected line shows the observations up to the place of the rejection. -/
theorem exists_rejection {limit : Nat} {store : Store} {line : Text} {error : LineError}
    (failed : (executeWithin limit store line).outcome = .error error) :
    ∃ place, ReadsLine store.isSet limit line (.error ⟨error, place⟩) ∧
      (executeWithin limit store line).trace = place.trace.reverse := by
  obtain ⟨place, read⟩ := outcome_eq_error_iff.1 failed
  refine ⟨place, read, ?_⟩
  rw [executeWithin_eq, Statement.read_iff.2 read]

theorem Cause.Blames.of_reverse {cause : Cause} {trace : List Event} {span : Span}
    {marked after : Text} (blames : cause.Blames trace span marked after) :
    cause.Blames trace.reverse span marked after := by
  cases cause with
  | unknownStatement word => exact ⟨List.mem_reverse.2 blames.1, blames.2⟩
  | variableNotFound name => exact ⟨List.mem_reverse.2 blames.1, blames.2⟩
  | _ => exact blames

/-- **Every error points at what caused it.** The line falls into what is
before the place of the error, what is highlighted there, and what is behind,
and what is highlighted bears the blame. -/
theorem error_points_at_cause {store : Store} {line : Text} {error : LineError}
    (failed : (execute store line).outcome = .error error) :
    ∃ before marked after, line = before ++ (marked ++ after) ∧
      error.span.start = byteSize before ∧
      error.span.highlight line = (before.length, before.length + marked.length) ∧
      error.cause.Blames (execute store line).trace error.span marked after := by
  obtain ⟨place, read, trace⟩ := exists_rejection failed
  obtain ⟨before, marked, after, whole, marks, blames⟩ := read.pointed
  refine ⟨before, marked, after, whole, marks.start, ?_, ?_⟩
  · rw [whole]
    exact marks.highlight
  · unfold execute
    rw [trace]
    exact blames.of_reverse

/-- A character of three bytes in place of a closing parenthesis is underlined
whole, although the span ends inside it. -/
theorem error_points_at_sum_sign :
    (execute .empty ['p', 'r', 'i', 'n', 't', '"', 'é', '"', ',', '(', '1', '∑']).outcome =
      .error (.at .missingRightParen (.single 12)) ∧
    ∃ before marked after,
      ['p', 'r', 'i', 'n', 't', '"', 'é', '"', ',', '(', '1', '∑'] =
        before ++ (marked ++ after) ∧
      12 = byteSize before ∧
      (Span.single 12).highlight ['p', 'r', 'i', 'n', 't', '"', 'é', '"', ',', '(', '1', '∑'] =
        (before.length, before.length + marked.length) ∧
      Cause.missingRightParen.Blames
        (execute .empty ['p', 'r', 'i', 'n', 't', '"', 'é', '"', ',', '(', '1', '∑']).trace
        (.single 12) marked after := by
  have failed :
      (execute .empty ['p', 'r', 'i', 'n', 't', '"', 'é', '"', ',', '(', '1', '∑']).outcome =
        .error (.at .missingRightParen (.single 12)) := by decide +kernel
  exact ⟨failed, error_points_at_cause failed⟩

end LineBasic
