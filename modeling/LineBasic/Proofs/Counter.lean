import LineBasic.Proofs.History
import LineBasic.Proofs.Nesting

/-!
# A counter of open parentheses

The reader of expressions is told how many more parentheses may be opened. An
interpreter that keeps a counter instead, raised where a parenthesis is opened
and lowered where it is left, reads the same:

* **the counter** — it always shows how many parentheses have been opened and
  not left (`Counter.Sound`), one lemma for each thing that can happen around
  it (`Counter.Sound.opens`, `Counter.Sound.leaves`, …);
* **reading** — `Counting.read` is the reader with the counter, and the counter
  is back at what it showed wherever a part of the work ends, also where it is
  given up (`Counting.kept_of_reads`, `Counting.keeps_read`).

Main result: **`Counting.keeps_read`**.
-/

namespace LineBasic

/-! ## The counter -/

/-- What can happen around the counter. -/
inductive Mark
  /-- The reading of an expression begins. -/
  | begins
  /-- An expression has been read. -/
  | ends
  /-- The reading of an expression has been given up. -/
  | fails
  /-- A parenthesis has been opened. -/
  | opens
  /-- A parenthesis is left, with what stands inside it read or given up. -/
  | leaves
  deriving DecidableEq

/-- Something that happened around the counter, what it showed right after, and
the place that reading had reached. -/
structure Moment where
  mark : Mark
  depth : Int
  place : Cursor

/-- A counter of open parentheses and what happened around it, latest first. It
is an integer, so that a step below zero would show. -/
structure Counter where
  depth : Int
  past : List Moment

namespace Counter

/-- The counter at the beginning of a line, whatever it showed before. -/
def reset (_ : Counter) : Counter := ⟨0, []⟩

def raise (k : Counter) : Counter := { k with depth := k.depth + 1 }

def lower (k : Counter) : Counter := { k with depth := k.depth - 1 }

/-- Notes what has happened. -/
def note (k : Counter) (mark : Mark) (place : Cursor) : Counter :=
  { k with past := ⟨mark, k.depth, place⟩ :: k.past }

end Counter

/-! ## Reading with the counter -/

namespace Counting

/-- Behind what stands inside a parenthesis, the counter is lowered in any case,
before the closing parenthesis is looked for. -/
def leave {c : Cursor} (opening : Phrase c Token) :
    Reading opening.next Expr × Counter → Reading c Expr × Counter
  | (.error rejection, k) => (.error rejection, k.lower.note .leaves rejection.place)
  | (.ok body, k) =>
    let k := k.lower.note .leaves body.next
    match body.next.nextSymbol ')' with
    | none => (body.next.missing .missingRightParen, k)
    | some closing =>
      (.ok ((opening.followedBy body ()).followedBy closing (.group body.value)), k)

section Reader

variable (scope : Scope) (limit : Nat)

mutual

-- what is left of the line gets shorter behind a sign or a parenthesis; before
-- that, the second number counts down from a sum to its first factor

/-- An expression. -/
def expression (c : Cursor) (k : Counter) : Reading c Expr × Counter :=
  match grouped .sum c (k.note .begins c) with
  | (.error rejection, k) => (.error rejection, k.note .fails rejection.place)
  | (.ok e, k) => (.ok e, k.note .ends e.next)
termination_by (c.rest.length, 5)

/-- Operands with operators of one group between them. -/
def grouped (tier : Tier) (c : Cursor) (k : Counter) : Reading c Expr × Counter :=
  match operand tier c k with
  | (.error rejection, k) => (.error rejection, k)
  | (.ok first, k) => chain tier first k
termination_by (c.rest.length, match tier with | .product => 2 | .sum => 4)
decreasing_by
  · cases tier <;> simp [Prod.lex_def]
  · exact .left _ _ first.shorter

/-- An operand of a group. -/
def operand (tier : Tier) (c : Cursor) (k : Counter) : Reading c Expr × Counter :=
  match tier with
  | .product => factor c k
  | .sum => grouped .product c k
termination_by (c.rest.length, match tier with | .product => 1 | .sum => 3)

/-- What follows an operand. -/
def chain (tier : Tier) {c : Cursor} (left : Phrase c Expr) (k : Counter) :
    Reading c Expr × Counter :=
  match tier.next left.next with
  | none => (.ok left, k)
  | some sign =>
    match operand tier sign.next k with
    | (.error rejection, k) => (.error rejection, k)
    | (.ok right, k) =>
      match Operator.ofSymbol? sign.value.lexeme with
      | none => (right.next.reject (.unknownOperator sign.value.lexeme) sign.value.span, k)
      | some operation =>
        chain tier
          ((left.followedBy sign ()).followedBy right
            (.binary operation left.value right.value)) k
termination_by (left.next.rest.length, 0)
decreasing_by
  · exact .left _ _ sign.shorter
  · exact .left _ _ (Nat.lt_trans right.shorter sign.shorter)

/-- A number, a variable, or an expression in parentheses. The counter decides
whether one more may be opened. -/
def factor (c : Cursor) (k : Counter) : Reading c Expr × Counter :=
  match c.nextNumber with
  | some literal => (.ok (literal.withValue (.number literal.value.lexeme)), k)
  | none =>
    match c.nextVariable with
    | some word =>
      let name := fold word.value.lexeme
      if scope name then (.ok (word.withValue (.variable name)), k)
      else (word.next.reject (.variableNotFound name) word.value.span, k)
    | none =>
      match c.nextSymbol '(' with
      | none => (c.missing .expressionExpected, k)
      | some opening =>
        if limit ≤ k.depth then
          (opening.next.reject (.nestingTooDeep limit) opening.value.span, k)
        else leave opening (expression opening.next (k.raise.note .opens opening.next))
termination_by (c.rest.length, 0)
decreasing_by exact .left _ _ opening.shorter

end

/-- An item of a `PRINT` list. -/
def item (c : Cursor) (k : Counter) : Reading c Item × Counter :=
  match c.nextString with
  | .error rejection => (.error rejection, k)
  | .ok (some quoted) =>
    (.ok ((quoted.withValue (.string quoted.value.lexeme)).observed (.printable .string)), k)
  | .ok none =>
    match expression scope limit c k with
    | (.error rejection, k) => (.error rejection, k)
    | (.ok e, k) => (.ok ((e.withValue (.expr e.value)).observed (.printable .number)), k)

/-- One item or more, with commas between them. -/
def items (c : Cursor) (k : Counter) : Reading c (List Item) × Counter :=
  match item scope limit c k with
  | (.error rejection, k) => (.error rejection, k)
  | (.ok first, k) =>
    match first.next.nextSymbol ',' with
    | none => (.ok (first.withValue [first.value]), k)
    | some comma =>
      match items comma.next k with
      | (.error rejection, k) => (.error rejection, k)
      | (.ok others, k) =>
        (.ok ((first.followedBy comma ()).followedBy others (first.value :: others.value)), k)
termination_by c.rest.length
decreasing_by exact Nat.lt_trans comma.shorter first.shorter

/-- The rest of an assignment. -/
def afterLet (c : Cursor) (k : Counter) : Statement.Result × Counter :=
  match c.nextVariable with
  | none => (c.missing .variableExpected, k)
  | some target =>
    match target.next.nextSymbol '=' with
    | none => (target.next.missing .equalsExpected, k)
    | some equals =>
      match expression scope limit equals.next k with
      | (.error rejection, k) => (.error rejection, k)
      | (.ok source, k) =>
        (Statement.closed (.assign (fold target.value.lexeme) source.value) source.next, k)

/-- The rest of a `PRINT` line. -/
def afterPrint (c : Cursor) (k : Counter) : Statement.Result × Counter :=
  match c.scanEndOfLine with
  | some (_, lineEnd) => (.ok (.print [], lineEnd), k)
  | none =>
    match items scope limit c k with
    | (.error rejection, k) => (.error rejection, k)
    | (.ok items, k) => (Statement.closed (.print items.value) items.next, k)

/-- A line, with the counter as the line before has left it. -/
def read (line : Text) (leftover : Counter) : Statement.Result × Counter :=
  let c := Cursor.start line
  let k := leftover.reset
  match c.nextKeyword with
  | none => (c.missing .statementExpected, k)
  | some first =>
    let word := fold first.value.lexeme
    let body := first.next.observe (.dispatching word)
    if word = ['l', 'e', 't'] then afterLet scope limit body k
    else if word = ['p', 'r', 'i', 'n', 't'] then afterPrint scope limit body k
    else (body.reject (.unknownStatement word) first.value.span, k)

end Reader

end Counting

/-! ## What the counter shows -/

/-- How many parentheses have been opened and not left yet. -/
def unleft : List Moment → Int
  | [] => 0
  | moment :: earlier =>
    match moment.mark with
    | .opens => unleft earlier + 1
    | .leaves => unleft earlier - 1
    | .begins | .ends | .fails => unleft earlier

/-- What the counter should show: how many parentheses have been opened and not
left, which is between zero and the limit. Where an expression begins, or ends
in an orderly way, these are the ones matched and not closed. -/
structure Moment.Right (limit : Nat) (moment : Moment) (earlier : List Moment) : Prop where
  counts : moment.depth = unleft (moment :: earlier)
  nonneg : 0 ≤ moment.depth
  le_limit : moment.depth ≤ limit
  observed : moment.mark = .begins ∨ moment.mark = .ends → moment.depth = moment.place.depth

/-- The counter is right, and always was. -/
structure Counter.Sound (limit : Nat) (k : Counter) : Prop where
  counts : k.depth = unleft k.past
  nonneg : 0 ≤ k.depth
  le_limit : k.depth ≤ limit
  past : ∀ moment earlier, moment :: earlier <:+ k.past → moment.Right limit earlier

namespace Counter

variable {limit : Nat} {k : Counter} {c : Cursor}

theorem sound_reset (limit : Nat) (k : Counter) : k.reset.Sound limit := by
  refine ⟨rfl, Int.le_refl _, Int.natCast_nonneg _, ?_⟩
  intro moment earlier within
  cases List.suffix_nil.1 within

theorem sound_note {mark : Mark} {place : Cursor}
    (past : ∀ moment earlier, moment :: earlier <:+ k.past → moment.Right limit earlier)
    (right : Moment.Right limit ⟨mark, k.depth, place⟩ k.past) :
    (k.note mark place).Sound limit := by
  refine ⟨right.counts, right.nonneg, right.le_limit, ?_⟩
  intro moment earlier within
  rcases List.suffix_cons_iff.1 within with same | before
  · cases same
    exact right
  · exact past moment earlier before

theorem Sound.begins (sound : k.Sound limit) (level : k.depth = c.depth) :
    (k.note .begins c).Sound limit :=
  sound_note sound.past ⟨sound.counts, sound.nonneg, sound.le_limit, fun _ => level⟩

theorem Sound.ends (sound : k.Sound limit) (level : k.depth = c.depth) :
    (k.note .ends c).Sound limit :=
  sound_note sound.past ⟨sound.counts, sound.nonneg, sound.le_limit, fun _ => level⟩

theorem Sound.fails (sound : k.Sound limit) (c : Cursor) : (k.note .fails c).Sound limit :=
  sound_note sound.past ⟨sound.counts, sound.nonneg, sound.le_limit, by simp⟩

/-- One more parenthesis may be opened below the limit. -/
theorem Sound.opens (sound : k.Sound limit) (room : k.depth < limit) (c : Cursor) :
    (k.raise.note .opens c).Sound limit := by
  have counts := sound.counts
  have nonneg := sound.nonneg
  refine sound_note sound.past ⟨?_, ?_, ?_, by simp⟩
  · show k.depth + 1 = unleft k.past + 1
    omega
  · show 0 ≤ k.depth + 1
    omega
  · show k.depth + 1 ≤ limit
    omega

/-- Where a parenthesis is left, the counter shows what it did before. -/
theorem Sound.leaves {before : Counter} (sound : k.Sound limit) (nonneg : 0 ≤ before.depth)
    (raised : k.depth = before.depth + 1) (c : Cursor) :
    (k.lower.note .leaves c).depth = before.depth ∧ (k.lower.note .leaves c).Sound limit := by
  have counts := sound.counts
  have le_limit := sound.le_limit
  have lowered : k.depth - 1 = before.depth := by omega
  refine ⟨lowered, sound_note sound.past ⟨?_, ?_, ?_, by simp⟩⟩
  · show k.depth - 1 = unleft k.past - 1
    omega
  · show 0 ≤ k.depth - 1
    omega
  · show k.depth - 1 ≤ limit
    omega

end Counter

/-! ## The counter changes nothing -/

/-- What comes of reading with the counter `k`: the outcome is given, and the
counter is right all the way and shows the same again. -/
structure Keeps {α : Type} (limit : Nat) (k : Counter) (outcome : Outcome α)
    (run : Outcome α × Counter) : Prop where
  outcome : run.1 = outcome
  depth : run.2.depth = k.depth
  sound : run.2.Sound limit

theorem Keeps.before {α : Type} {limit : Nat} {k k' : Counter} {outcome : Outcome α}
    {run : Outcome α × Counter} (keeps : Keeps limit k' outcome run) (same : k'.depth = k.depth) :
    Keeps limit k outcome run := ⟨keeps.outcome, keeps.depth.trans same, keeps.sound⟩

namespace Counting

/-- A reading without its proof of progress, and the counter behind it. -/
def plain {α : Type} {c : Cursor} (run : Reading c α × Counter) : Outcome α × Counter :=
  (Reading.outcome run.1, run.2)

variable {α : Type} {scope : Scope} {limit : Nat} {k : Counter} {c : Cursor}

theorem eq_ok_of_keeps {run : Reading c α × Counter} {value : α} {next : Cursor}
    (keeps : Keeps limit k (.ok (value, next)) (plain run)) :
    ∃ p k', run = (.ok p, k') ∧ p.value = value ∧ p.next = next ∧ k'.depth = k.depth ∧
      k'.Sound limit := by
  obtain ⟨p, read, same, place⟩ := Reading.eq_ok_of_outcome keeps.outcome
  exact ⟨p, run.2, Prod.ext read rfl, same, place, keeps.depth, keeps.sound⟩

theorem eq_error_of_keeps {run : Reading c α × Counter} {rejection : Rejection}
    (keeps : Keeps limit k (.error rejection) (plain run)) :
    ∃ k', run = (.error rejection, k') ∧ k'.depth = k.depth ∧ k'.Sound limit :=
  ⟨run.2, Prod.ext (Reading.eq_error_of_outcome keeps.outcome) rfl, keeps.depth, keeps.sound⟩

/-- The counter is noted at the beginning and at the end of an expression. -/
theorem keeps_expression {outcome : Outcome Expr} (balanced : Outcome.Balanced c outcome)
    (level : k.depth = c.depth)
    (kept : Keeps limit (k.note .begins c) outcome
      (plain (grouped scope limit .sum c (k.note .begins c)))) :
    Keeps limit k outcome (plain (expression scope limit c k)) := by
  cases outcome with
  | error rejection =>
    obtain ⟨k', ran, depth, sound'⟩ := eq_error_of_keeps kept
    unfold expression
    rw [ran]
    exact ⟨rfl, depth, sound'.fails _⟩
  | ok pair =>
    obtain ⟨e, next⟩ := pair
    obtain ⟨p, k', ran, rfl, rfl, depth, sound'⟩ := eq_ok_of_keeps kept
    have same : p.next.depth = c.depth := balanced
    have shown : k'.depth = k.depth := depth
    unfold expression
    rw [ran]
    exact ⟨rfl, depth, sound'.ends (by omega)⟩

/-- What the reader with the counter makes of a category. -/
def Kept (scope : Scope) (limit : Nat) (c : Cursor) (k : Counter) (outcome : Outcome Expr) :
    Category → Prop
  | .factor => Keeps limit k outcome (plain (factor scope limit c k))
  | .grouped tier => Keeps limit k outcome (plain (grouped scope limit tier c k))
  | .chain tier left => ∀ (d : Cursor) (p : Phrase d Expr), p.value = left → p.next = c →
    Keeps limit k outcome (plain (chain scope limit tier p k))

theorem Kept.operand {outcome : Outcome Expr} {tier : Tier}
    (kept : Kept scope limit c k outcome tier.operand) :
    Keeps limit k outcome (plain (operand scope limit tier c k)) := by
  unfold Counting.operand
  cases tier with
  | product => exact kept
  | sum => exact kept

/-! ### Parentheses -/

/-- At a parenthesis, the counter decides. -/
theorem factor_of_paren {token : Token} {next : Cursor}
    (found : c.scanLiteral ['('] = some (token, next)) (k : Counter) :
    ∃ opening : Phrase c Token, opening.value = token ∧ opening.next = next ∧
      factor scope limit c k =
        if limit ≤ k.depth then
          (opening.next.reject (.nestingTooDeep limit) opening.value.span, k)
        else leave opening (expression scope limit opening.next
          (k.raise.note .opens opening.next)) := by
  obtain ⟨noNumber, noName⟩ := Cursor.noWord_of_scanParen found
  obtain ⟨opening, scanned, value, place⟩ := Cursor.nextSymbol_of_scan found
  refine ⟨opening, value, place, ?_⟩
  rw [factor, noNumber, noName, scanned]

section Leave

variable {opening : Phrase c Token} {inside : Reading opening.next Expr × Counter} {d : Cursor}

theorem keeps_leave_of_error {rejection : Rejection} (sound : k.Sound limit)
    (failed : Keeps limit (k.raise.note .opens d) (.error rejection) (plain inside)) :
    Keeps limit k (.error rejection) (plain (leave opening inside)) := by
  obtain ⟨k', rfl, raised, sound'⟩ := eq_error_of_keeps failed
  obtain ⟨depth, sound''⟩ := sound'.leaves sound.nonneg raised rejection.place
  exact ⟨rfl, depth, sound''⟩

theorem keeps_leave_of_unclosed {e : Expr} {place : Cursor} (sound : k.Sound limit)
    (body : Keeps limit (k.raise.note .opens d) (.ok (e, place)) (plain inside))
    (missing : place.scanLiteral [')'] = none) :
    Keeps limit k (.error ⟨.at .missingRightParen (.single place.nextPlace), place⟩)
      (plain (leave opening inside)) := by
  obtain ⟨q, k', rfl, rfl, rfl, raised, sound'⟩ := eq_ok_of_keeps body
  obtain ⟨depth, sound''⟩ := sound'.leaves sound.nonneg raised q.next
  have noParen : q.next.nextSymbol ')' = none := Phrase.ofMatch_of_none missing
  simp only [leave, noParen]
  exact ⟨rfl, depth, sound''⟩

theorem keeps_leave_of_closed {e : Expr} {place after : Cursor} {closing : Token}
    (sound : k.Sound limit)
    (body : Keeps limit (k.raise.note .opens d) (.ok (e, place)) (plain inside))
    (closed : place.scanLiteral [')'] = some (closing, after)) :
    Keeps limit k (.ok (.group e, after)) (plain (leave opening inside)) := by
  obtain ⟨q, k', rfl, rfl, rfl, raised, sound'⟩ := eq_ok_of_keeps body
  obtain ⟨depth, sound''⟩ := sound'.leaves sound.nonneg raised q.next
  obtain ⟨r, paren, rfl, rfl⟩ := Cursor.nextSymbol_of_scan closed
  simp only [leave, paren]
  exact ⟨rfl, depth, sound''⟩

end Leave

/-- Inside of parentheses, the counter is up by one. -/
theorem keeps_inside {n : Nat} {outcome : Outcome Expr}
    (body : Reads scope limit (.grouped .sum) n c outcome)
    (kept : ∀ k : Counter, k.Sound limit → k.depth + n = limit → k.depth = c.depth →
      Kept scope limit c k outcome (.grouped .sum))
    (sound : k.Sound limit) (room : k.depth + 1 + n = limit) (level : k.depth + 1 = c.depth) :
    Keeps limit (k.raise.note .opens c) outcome
      (plain (expression scope limit c (k.raise.note .opens c))) := by
  have opened := sound.opens (by omega) c
  exact keeps_expression body.balanced level
    (kept _ (opened.begins level) room level)

/-! ### Expressions -/

/-- **Reading with a counter comes to the same**, where as many parentheses may
still be opened as the counter leaves. -/
theorem kept_of_reads {category : Category} {n : Nat} {outcome : Outcome Expr}
    (read : Reads scope limit category n c outcome) :
    ∀ k : Counter, k.Sound limit → k.depth + n = limit → k.depth = c.depth →
      Kept scope limit c k outcome category := by
  induction read with
  -- a factor: the counter is left alone outside of parentheses
  | @number n c token next found =>
    intro k sound _ _
    obtain ⟨p, scanned, rfl, rfl⟩ := Cursor.nextNumber_of_scan found
    show Keeps limit k _ (plain (factor scope limit c k))
    unfold factor
    rw [scanned]
    exact ⟨rfl, rfl, sound⟩
  | @bound n c token next found isSet =>
    intro k sound _ _
    have noNumber := Cursor.nextNumber_of_scanVariable found
    obtain ⟨p, scanned, rfl, rfl⟩ := Cursor.nextVariable_of_scan found
    show Keeps limit k _ (plain (factor scope limit c k))
    unfold factor
    rw [noNumber, scanned]
    simp only [isSet, if_true]
    exact ⟨rfl, rfl, sound⟩
  | @unbound n c token next found unset =>
    intro k sound _ _
    have noNumber := Cursor.nextNumber_of_scanVariable found
    obtain ⟨p, scanned, rfl, rfl⟩ := Cursor.nextVariable_of_scan found
    show Keeps limit k _ (plain (factor scope limit c k))
    unfold factor
    rw [noNumber, scanned]
    simp only [unset, Bool.false_eq_true, if_false]
    exact ⟨rfl, rfl, sound⟩
  | @tooDeep c token next found =>
    intro k sound full _
    obtain ⟨opening, rfl, rfl, here⟩ := factor_of_paren found k
    show Keeps limit k _ (plain (factor scope limit c k))
    rw [here, if_pos (by omega)]
    exact ⟨rfl, rfl, sound⟩
  -- parentheses: the counter goes up by one for what is inside, and back
  | @groupFails n c token next rejection found body ih =>
    intro k sound room level
    have opened := Cursor.depth_of_open found
    obtain ⟨opening, rfl, rfl, here⟩ := factor_of_paren found k
    show Keeps limit k _ (plain (factor scope limit c k))
    rw [here, if_neg (by omega)]
    exact keeps_leave_of_error sound (keeps_inside body ih sound (by omega) (by omega))
  | @unclosed n c token next e place found body missing ih =>
    intro k sound room level
    have opened := Cursor.depth_of_open found
    obtain ⟨opening, rfl, rfl, here⟩ := factor_of_paren found k
    show Keeps limit k _ (plain (factor scope limit c k))
    rw [here, if_neg (by omega)]
    exact keeps_leave_of_unclosed sound (keeps_inside body ih sound (by omega) (by omega)) missing
  | @group n c token next e place closing after found body closed ih =>
    intro k sound room level
    have opened := Cursor.depth_of_open found
    obtain ⟨opening, rfl, rfl, here⟩ := factor_of_paren found k
    show Keeps limit k _ (plain (factor scope limit c k))
    rw [here, if_neg (by omega)]
    exact keeps_leave_of_closed sound (keeps_inside body ih sound (by omega) (by omega)) closed
  | @absent n c noNumber noName noParen =>
    intro k sound _ _
    have none₁ : c.nextNumber = none := Phrase.ofMatch_of_none noNumber
    have none₂ : c.nextVariable = none := Phrase.ofMatch_of_none noName
    have none₃ : c.nextSymbol '(' = none := Phrase.ofMatch_of_none noParen
    show Keeps limit k _ (plain (factor scope limit c k))
    unfold factor
    rw [none₁, none₂, none₃]
    exact ⟨rfl, rfl, sound⟩
  -- operands and the chain behind them
  | @firstFails tier n c rejection _ ih =>
    intro k sound room level
    obtain ⟨k', ran, depth, sound'⟩ := eq_error_of_keeps (ih k sound room level).operand
    show Keeps limit k _ (plain (grouped scope limit tier c k))
    unfold grouped
    rw [ran]
    exact ⟨rfl, depth, sound'⟩
  | @first tier n c left next outcome first _ ihFirst ihChain =>
    intro k sound room level
    have same : next.depth = c.depth := first.balanced
    obtain ⟨p, k', ran, value, place, depth, sound'⟩ :=
      eq_ok_of_keeps (ihFirst k sound room level).operand
    show Keeps limit k _ (plain (grouped scope limit tier c k))
    unfold grouped
    rw [ran]
    exact (ihChain k' sound' (by omega) (by omega) c p value place).before depth
  | @done tier left n c absent =>
    intro k sound _ _
    rintro d p rfl rfl
    unfold chain
    rw [Tier.next_of_none absent]
    exact ⟨rfl, rfl, sound⟩
  | @operandFails tier left n c sign after rejection found _ ih =>
    intro k sound room level
    rintro d p rfl rfl
    have same := (Cursor.level_of_scanTier found).depth
    obtain ⟨s, scanned, rfl, rfl⟩ := Tier.next_of_some found
    obtain ⟨k', ran, depth, sound'⟩ := eq_error_of_keeps (ih k sound room (by omega)).operand
    unfold chain
    rw [scanned]
    simp only [ran]
    exact ⟨rfl, depth, sound'⟩
  | @more tier left n c sign after operator right next outcome found known operand _ ihRight
      ihChain =>
    intro k sound room level
    rintro d p rfl rfl
    have same := (Cursor.level_of_scanTier found).depth
    have same' : next.depth = after.depth := operand.balanced
    obtain ⟨s, scanned, rfl, rfl⟩ := Tier.next_of_some found
    obtain ⟨q, k', ran, rfl, rfl, depth, sound'⟩ :=
      eq_ok_of_keeps (ihRight k sound room (by omega)).operand
    unfold chain
    rw [scanned]
    simp only [ran, known]
    exact (ihChain k' sound' (by omega) (by omega) d _ rfl rfl).before depth

/-! ### Items and lines -/

/-- The counter as it is where no parenthesis is open. -/
structure Idle (limit : Nat) (k : Counter) : Prop where
  sound : k.Sound limit
  depth : k.depth = 0

theorem Idle.after {k' : Counter} (idle : Idle limit k) (same : k'.depth = k.depth)
    (sound : k'.Sound limit) : Idle limit k' := ⟨sound, same.trans idle.depth⟩

theorem Idle.keeps {outcome : Outcome α} (idle : Idle limit k) :
    Keeps limit k outcome (outcome, k) := ⟨rfl, rfl, idle.sound⟩

theorem keeps_sum {outcome : Outcome Expr}
    (read : Reads scope limit (.grouped .sum) limit c outcome) (idle : Idle limit k)
    (none_open : c.depth = 0) : Keeps limit k outcome (plain (expression scope limit c k)) := by
  have shown := idle.depth
  have level : k.depth = c.depth := by omega
  exact keeps_expression read.balanced level
    (kept_of_reads read _ (idle.sound.begins level) (by show k.depth + limit = limit; omega) level)

theorem keeps_item {outcome : Outcome Item} (read : ReadsItem scope limit c outcome)
    (idle : Idle limit k) (none_open : c.depth = 0) :
    Keeps limit k outcome (plain (item scope limit c k)) := by
  unfold item
  cases read with
  | unterminated found =>
    rw [Cursor.nextString_of_error found]
    exact idle.keeps
  | string found =>
    obtain ⟨p, scanned, rfl, rfl⟩ := Cursor.nextString_of_some found
    rw [scanned]
    exact idle.keeps
  | exprFails noString failed =>
    obtain ⟨k', ran, depth, sound⟩ := eq_error_of_keeps (keeps_sum failed idle none_open)
    rw [Cursor.nextString_of_none noString]
    simp only [ran]
    exact ⟨rfl, depth, sound⟩
  | expr noString body =>
    obtain ⟨p, k', ran, rfl, rfl, depth, sound⟩ := eq_ok_of_keeps (keeps_sum body idle none_open)
    rw [Cursor.nextString_of_none noString]
    simp only [ran]
    exact ⟨rfl, depth, sound⟩

theorem keeps_items {outcome : Outcome (List Item)} (read : ReadsItems scope limit c outcome) :
    ∀ k, Idle limit k → c.depth = 0 → Keeps limit k outcome (plain (items scope limit c k)) := by
  induction read with
  | firstFails failed =>
    intro k idle none_open
    obtain ⟨k', ran, depth, sound⟩ := eq_error_of_keeps (keeps_item failed idle none_open)
    unfold items
    rw [ran]
    exact ⟨rfl, depth, sound⟩
  | last item absent =>
    intro k idle none_open
    obtain ⟨p, k', ran, rfl, rfl, depth, sound⟩ := eq_ok_of_keeps (keeps_item item idle none_open)
    have noComma : p.next.nextSymbol ',' = none := Phrase.ofMatch_of_none absent
    unfold items
    rw [ran]
    simp only [noComma]
    exact ⟨rfl, depth, sound⟩
  | @restFails c item next comma after rejection first found others ih =>
    intro k idle none_open
    have same := (Cursor.level_of_comma found).depth
    have same' : next.depth = c.depth := first.balanced
    obtain ⟨p, k', ran, rfl, rfl, depth, sound⟩ := eq_ok_of_keeps (keeps_item first idle none_open)
    obtain ⟨q, scanned, rfl, rfl⟩ := Cursor.nextSymbol_of_scan found
    obtain ⟨k'', ran', depth', sound'⟩ :=
      eq_error_of_keeps (ih k' (idle.after depth sound) (by omega))
    unfold items
    rw [ran]
    simp only [scanned, ran']
    exact ⟨rfl, depth'.trans depth, sound'⟩
  | @more c item next comma after rest tail first found others ih =>
    intro k idle none_open
    have same := (Cursor.level_of_comma found).depth
    have same' : next.depth = c.depth := first.balanced
    obtain ⟨p, k', ran, rfl, rfl, depth, sound⟩ := eq_ok_of_keeps (keeps_item first idle none_open)
    obtain ⟨q, scanned, rfl, rfl⟩ := Cursor.nextSymbol_of_scan found
    obtain ⟨r, k'', ran', rfl, rfl, depth', sound'⟩ :=
      eq_ok_of_keeps (ih k' (idle.after depth sound) (by omega))
    unfold items
    rw [ran]
    simp only [scanned, ran']
    exact ⟨rfl, depth'.trans depth, sound'⟩

theorem keeps_afterLet {outcome : Outcome Statement} (read : ReadsLet scope limit c outcome)
    (idle : Idle limit k) (none_open : c.depth = 0) :
    Keeps limit k outcome (afterLet scope limit c k) := by
  unfold afterLet
  cases read with
  | noVariable absent =>
    have noName : c.nextVariable = none := Phrase.ofMatch_of_none absent
    rw [noName]
    exact idle.keeps
  | noEquals found absent =>
    obtain ⟨p, scanned, rfl, rfl⟩ := Cursor.nextVariable_of_scan found
    have noSign : p.next.nextSymbol '=' = none := Phrase.ofMatch_of_none absent
    simp only [scanned, noSign]
    exact idle.keeps
  | sourceFails found sign failed =>
    have same := (Cursor.level_of_target found sign).depth
    obtain ⟨p, scanned, rfl, rfl⟩ := Cursor.nextVariable_of_scan found
    obtain ⟨q, signed, rfl, rfl⟩ := Cursor.nextSymbol_of_scan sign
    obtain ⟨k', ran, depth, sound⟩ := eq_error_of_keeps (keeps_sum failed idle (by omega))
    simp only [scanned, signed, ran]
    exact ⟨rfl, depth, sound⟩
  | source found sign body closing =>
    have same := (Cursor.level_of_target found sign).depth
    obtain ⟨p, scanned, rfl, rfl⟩ := Cursor.nextVariable_of_scan found
    obtain ⟨q, signed, rfl, rfl⟩ := Cursor.nextSymbol_of_scan sign
    obtain ⟨r, k', ran, rfl, rfl, depth, sound⟩ := eq_ok_of_keeps (keeps_sum body idle (by omega))
    simp only [scanned, signed, ran]
    exact ⟨closing, depth, sound⟩

theorem keeps_afterPrint {outcome : Outcome Statement} (read : ReadsPrint scope limit c outcome)
    (idle : Idle limit k) (none_open : c.depth = 0) :
    Keeps limit k outcome (afterPrint scope limit c k) := by
  unfold afterPrint
  cases read with
  | bare ends =>
    rw [ends]
    exact idle.keeps
  | itemsFail ends failed =>
    obtain ⟨k', ran, depth, sound⟩ := eq_error_of_keeps (keeps_items failed k idle none_open)
    rw [ends]
    simp only [ran]
    exact ⟨rfl, depth, sound⟩
  | items ends list closing =>
    obtain ⟨p, k', ran, rfl, rfl, depth, sound⟩ :=
      eq_ok_of_keeps (keeps_items list k idle none_open)
    rw [ends]
    simp only [ran]
    exact ⟨closing, depth, sound⟩

/-- **A line is read alike with the counter**, whatever the counter showed
before it, and the counter shows zero behind it. -/
theorem keeps_read (scope : Scope) (limit : Nat) (line : Text) (leftover : Counter) :
    Keeps limit leftover.reset (Statement.read scope limit line)
      (Counting.read scope limit line leftover) := by
  have idle : Idle limit leftover.reset := ⟨Counter.sound_reset limit leftover, rfl⟩
  generalize derived : Statement.read scope limit line = outcome
  unfold Counting.read
  cases Statement.read_iff.1 derived with
  | noKeyword absent =>
    have noWord : (Cursor.start line).nextKeyword = none := Phrase.ofMatch_of_none absent
    simp only [noWord]
    exact idle.keeps
  | unknown found notLet notPrint =>
    obtain ⟨p, scanned, rfl, rfl⟩ := Cursor.nextKeyword_of_scan found
    simp only [scanned, notLet, notPrint, if_false]
    exact idle.keeps
  | assign found isLet rest =>
    have none_open := (Cursor.level_of_keyword found ['l', 'e', 't']).depth
    obtain ⟨p, scanned, rfl, rfl⟩ := Cursor.nextKeyword_of_scan found
    simp only [scanned, isLet, if_true]
    rw [isLet] at rest
    exact keeps_afterLet rest idle none_open
  | print found isPrint rest =>
    have none_open := (Cursor.level_of_keyword found ['p', 'r', 'i', 'n', 't']).depth
    have notLet : ['p', 'r', 'i', 'n', 't'] ≠ ['l', 'e', 't'] := by decide
    obtain ⟨p, scanned, rfl, rfl⟩ := Cursor.nextKeyword_of_scan found
    simp only [scanned, isPrint, if_neg notLet, if_true]
    rw [isPrint] at rest
    exact keeps_afterPrint rest idle none_open

end Counting

end LineBasic
