import LineBasic.Proofs.Counter
import LineBasic.Proofs.Progress

/-!
# The nesting limit

The limit on open parentheses shows only where it is exceeded. An interpreter that
keeps a counter of them comes to the same, and what its counter shows can be told for
every expression of a line, since each one is noted where its reading begins and where
it ends:

* **step** — nothing that has been noted is forgotten (`Counting.remembers`), and if
  reading the whole is part of the work on a line, then so is reading a part of it
  (`Counting.Included.part`);
* **run** — hence whatever a line asks for is part of the work on it
  (`Counting.Included.of_askedIn`), and its expressions are noted
  (`Counting.Included.noted`).

Main result: **`nesting_limit_exact`**.
-/

namespace LineBasic

/-! ## What a line asks for -/

/-- What is to be read on a line: the expression of an assignment or the items of a
`PRINT` list, and the parts of what is to be read. -/
inductive AskedIn (scope : Scope) (limit : Nat) (line : Text) : Activation → Prop
  | source {word next target sign equals after} :
      (Cursor.start line).scanKeyword = some (word, next) →
      fold word.lexeme = ['l', 'e', 't'] →
      (next.observe (.dispatching ['l', 'e', 't'])).scanVariable = some (target, sign) →
      sign.scanLiteral ['='] = some (equals, after) →
      AskedIn scope limit line ⟨.part (.grouped .sum) limit, after⟩
  | list {word next} :
      (Cursor.start line).scanKeyword = some (word, next) →
      fold word.lexeme = ['p', 'r', 'i', 'n', 't'] →
      (next.observe (.dispatching ['p', 'r', 'i', 'n', 't'])).scanEndOfLine = none →
      AskedIn scope limit line ⟨.items, next.observe (.dispatching ['p', 'r', 'i', 'n', 't'])⟩
  | part {kind whole part} :
      AskedIn scope limit line whole → Asks scope limit kind whole part →
      AskedIn scope limit line part

/-- How the end of an expression is noted. -/
def Outcome.mark {α : Type} : Outcome α → Mark
  | .ok _ => .ends
  | .error _ => .fails

/-- The place that reading has reached. -/
def Outcome.place {α : Type} : Outcome α → Cursor
  | .ok (_, next) => next
  | .error rejection => rejection.place

/-- Among what has happened, latest first, are the beginning of an expression and,
later than that, its end. At both the counter showed how many parentheses were open in
front of it. -/
def Noted (past : List Moment) (c : Cursor) (outcome : Outcome Expr) : Prop :=
  ∃ later inside earlier,
    past = later ++ ⟨outcome.mark, c.depth, outcome.place⟩ ::
      (inside ++ ⟨.begins, c.depth, c⟩ :: earlier)

namespace Counting

variable {scope : Scope} {limit : Nat} {past : List Moment}

/-! ## Nothing is forgotten -/

theorem past_suffix_note (k : Counter) (mark : Mark) (place : Cursor) :
    k.past <:+ (k.note mark place).past := List.suffix_cons _ _

theorem past_suffix_leave {c : Cursor} (opening : Phrase c Token)
    (run : Reading opening.next Expr × Counter) : run.2.past <:+ (leave opening run).2.past := by
  obtain ⟨reading, k⟩ := run
  cases reading with
  | error rejection => exact past_suffix_note k.lower .leaves rejection.place
  | ok body =>
    rw [leave]
    split <;> exact past_suffix_note k.lower .leaves body.next

/-- What has been noted before an expression, a part of one, or the rest of a chain is
still noted behind it. -/
theorem remembers (scope : Scope) (limit : Nat) :
    (∀ c k, k.past <:+ (expression scope limit c k).2.past) ∧
    (∀ tier c k, k.past <:+ (grouped scope limit tier c k).2.past) ∧
    (∀ tier (c : Cursor) (left : Phrase c Expr) k,
      k.past <:+ (chain scope limit tier left k).2.past) ∧
    (∀ tier c k, k.past <:+ (operand scope limit tier c k).2.past) ∧
    ∀ c k, k.past <:+ (factor scope limit c k).2.past := by
  apply expression.mutual_induct scope limit
    (fun c k => k.past <:+ (expression scope limit c k).2.past)
    (fun tier c k => k.past <:+ (grouped scope limit tier c k).2.past)
    (fun tier _ left k => k.past <:+ (chain scope limit tier left k).2.past)
    (fun tier c k => k.past <:+ (operand scope limit tier c k).2.past)
    (fun c k => k.past <:+ (factor scope limit c k).2.past)
  -- an expression
  case case1 =>
    intro c k rejection k' ran ih
    rw [ran] at ih
    rw [expression, ran]
    exact ((past_suffix_note k .begins c).trans ih).trans (past_suffix_note k' .fails _)
  case case2 =>
    intro c k e k' ran ih
    rw [ran] at ih
    rw [expression, ran]
    exact ((past_suffix_note k .begins c).trans ih).trans (past_suffix_note k' .ends _)
  -- operands and the chain behind them
  case case3 =>
    intro tier c k rejection k' ran ih
    rw [ran] at ih
    rwa [grouped, ran]
  case case4 =>
    intro tier c k first k' ran ih ihChain
    rw [ran] at ih
    rw [grouped, ran]
    exact ih.trans ihChain
  case case5 =>
    intro tier c left k absent
    rw [chain, absent]
  case case6 =>
    intro tier c left k sign found rejection k' ran ih
    rw [ran] at ih
    rw [chain, found]
    simpa only [ran] using ih
  case case7 =>
    intro tier c left k sign found right k' ran unknown ih
    rw [ran] at ih
    rw [chain, found]
    simpa only [ran, unknown] using ih
  case case8 =>
    intro tier c left k sign found right k' ran operation known ih ihChain
    rw [ran] at ih
    rw [chain, found]
    simpa only [ran, known] using ih.trans ihChain
  case case9 =>
    intro c k ih
    rwa [operand]
  case case10 =>
    intro c k ih
    rwa [operand]
  -- a factor
  case case11 =>
    intro c k word number
    simp [factor, number]
  case case12 =>
    intro c k noNumber word found _ _
    rw [factor, noNumber, found]
    dsimp only
    split <;> exact List.suffix_rfl
  case case13 =>
    intro c k noNumber word found _ _
    rw [factor, noNumber, found]
    dsimp only
    split <;> exact List.suffix_rfl
  case case14 =>
    intro c k noNumber noName noParen
    simp [factor, noNumber, noName, noParen]
  case case15 =>
    intro c k noNumber noName opening found full
    simp [factor, noNumber, noName, found, full]
  case case16 =>
    intro c k noNumber noName opening found room ih
    rw [factor, noNumber, noName, found]
    simp only [if_neg room]
    exact ((past_suffix_note k.raise .opens opening.next).trans ih).trans
      (past_suffix_leave opening _)

theorem past_suffix_chain {c : Cursor} (tier : Tier) (left : Phrase c Expr) (k : Counter) :
    k.past <:+ (chain scope limit tier left k).2.past := (remembers scope limit).2.2.1 tier c left k

/-- What is noted of an expression: how it came out, and before that what happened on
the way. -/
theorem past_expression (c : Cursor) (k : Counter) :
    let run := grouped scope limit .sum c (k.note .begins c)
    (expression scope limit c k).2.past =
      ⟨(plain run).1.mark, run.2.depth, (plain run).1.place⟩ :: run.2.past := by
  intro run
  rw [expression]
  split
  · next ran =>
    simp only [run, ran]
    rfl
  · next ran =>
    simp only [run, ran]
    rfl

theorem past_suffix_body (c : Cursor) (k : Counter) :
    (grouped scope limit .sum c (k.note .begins c)).2.past <:+
      (expression scope limit c k).2.past := by
  rw [past_expression]
  exact List.suffix_cons _ _

theorem past_suffix_grouped (tier : Tier) (c : Cursor) (k : Counter) :
    (operand scope limit tier c k).2.past <:+ (grouped scope limit tier c k).2.past := by
  rw [grouped]
  split
  · next ran => rw [ran]
  · next first k' ran =>
    rw [ran]
    exact past_suffix_chain tier first k'

theorem past_suffix_item (c : Cursor) (k : Counter) :
    k.past <:+ (item scope limit c k).2.past := by
  have inner := (remembers scope limit).1 c k
  unfold item
  split
  · exact List.suffix_rfl
  · exact List.suffix_rfl
  · split
    · next ran => rwa [ran] at inner
    · next ran => rwa [ran] at inner

/-- The first item is part of a list. -/
theorem past_suffix_items (c : Cursor) (k : Counter) :
    (item scope limit c k).2.past <:+ (items scope limit c k).2.past := by
  induction c, k using items.induct scope limit with
  | case1 c k rejection k' ran =>
    rw [items, ran]
  | case2 c k first k' ran last =>
    rw [items, ran]
    simp only [last, List.suffix_rfl]
  | case3 c k first k' ran comma found rejection k'' others ih =>
    have earlier := (@past_suffix_item scope limit comma.next k').trans ih
    rw [others] at earlier
    rw [items, ran]
    simpa only [found, others] using earlier
  | case4 c k first k' ran comma found others k'' ran' ih =>
    have earlier := (@past_suffix_item scope limit comma.next k').trans ih
    rw [ran'] at earlier
    rw [items, ran]
    simpa only [found, ran'] using earlier

theorem past_suffix_afterLet {c : Cursor} {target : Phrase c Token}
    {equals : Phrase target.next Token} (k : Counter) (named : c.nextVariable = some target)
    (signed : target.next.nextSymbol '=' = some equals) :
    (expression scope limit equals.next k).2.past <:+ (afterLet scope limit c k).2.past := by
  rw [afterLet, named]
  simp only [signed]
  split <;> next ran => rw [ran]

theorem past_suffix_afterPrint {c : Cursor} (k : Counter) (more : c.scanEndOfLine = none) :
    (items scope limit c k).2.past <:+ (afterPrint scope limit c k).2.past := by
  rw [afterPrint, more]
  dsimp only
  split <;> next ran => rw [ran]

/-! ## Parts of the work -/

/-- The counter in front of a category: as it should be, level with the parentheses, and
with room for as many more as are allowed. -/
structure Level (limit n : Nat) (c : Cursor) (k : Counter) : Prop where
  sound : k.Sound limit
  room : k.depth + n = limit
  level : k.depth = c.depth

theorem Level.begins {n : Nat} {c : Cursor} {k : Counter} (level : Level limit n c k) :
    Level limit n c (k.note .begins c) :=
  ⟨level.sound.begins level.level, level.room, level.level⟩

theorem Level.after {n : Nat} {c next : Cursor} {k k' : Counter} (level : Level limit n c k)
    (same : k'.depth = k.depth) (sound : k'.Sound limit) (depth : next.depth = c.depth) :
    Level limit n next k' := by
  have room := level.room
  have shown := level.level
  exact ⟨sound, by omega, by omega⟩

theorem Level.opens {n : Nat} {c next : Cursor} {k : Counter} (level : Level limit (n + 1) c k)
    (deeper : next.depth = c.depth + 1) : Level limit n next (k.raise.note .opens next) := by
  have room := level.room
  have shown := level.level
  refine ⟨level.sound.opens (by omega) next, ?_, ?_⟩
  · show k.depth + 1 + n = limit
    omega
  · show k.depth + 1 = next.depth
    omega

theorem Level.idle {c : Cursor} {k : Counter} (level : Level limit limit c k) :
    Idle limit k := by
  have room := level.room
  exact ⟨level.sound, by omega⟩

theorem Level.none_open {c : Cursor} {k : Counter} (level : Level limit limit c k) :
    c.depth = 0 := by
  have room := level.room
  have shown := level.level
  omega

theorem Idle.level {c : Cursor} {k : Counter} (idle : Idle limit k) (none_open : c.depth = 0) :
    Level limit limit c k := by
  have shown := idle.depth
  exact ⟨idle.sound, by omega, by omega⟩

/-- Reading it, with the counter level, is part of the work that has been noted. -/
def Included (scope : Scope) (limit : Nat) (past : List Moment) : Activation → Prop
  | ⟨.part .factor n, c⟩ =>
    ∃ k, Level limit n c k ∧ (factor scope limit c k).2.past <:+ past
  | ⟨.part (.grouped .product) n, c⟩ =>
    ∃ k, Level limit n c k ∧ (grouped scope limit .product c k).2.past <:+ past
  | ⟨.part (.grouped .sum) n, c⟩ =>
    ∃ k, Level limit n c k ∧ (expression scope limit c k).2.past <:+ past
  | ⟨.part (.chain tier left) n, c⟩ =>
    ∃ k d, ∃ p : Phrase d Expr, p.value = left ∧ p.next = c ∧ Level limit n c k ∧
      (chain scope limit tier p k).2.past <:+ past
  | ⟨.item, c⟩ => ∃ k, Level limit limit c k ∧ (item scope limit c k).2.past <:+ past
  | ⟨.items, c⟩ => ∃ k, Level limit limit c k ∧ (items scope limit c k).2.past <:+ past

namespace Included

variable {n : Nat} {c : Cursor} {k : Counter} {tier : Tier}

theorem grouped (included : Included scope limit past ⟨.part (.grouped tier) n, c⟩) :
    ∃ k, Level limit n c k ∧ (Counting.grouped scope limit tier c k).2.past <:+ past := by
  cases tier with
  | product => exact included
  | sum =>
    obtain ⟨k, level, within⟩ := included
    exact ⟨_, level.begins, (past_suffix_body c k).trans within⟩

theorem operand (level : Level limit n c k)
    (within : (Counting.operand scope limit tier c k).2.past <:+ past) :
    Included scope limit past ⟨.part tier.operand n, c⟩ := by
  unfold Counting.operand at within
  cases tier with
  | product => exact ⟨k, level, within⟩
  | sum => exact ⟨k, level, within⟩

/-- **Step.** A part of what belongs to the work belongs to it. -/
theorem part {kind : PartKind} {whole part : Activation}
    (included : Included scope limit past whole) (asks : Asks scope limit kind whole part) :
    Included scope limit past part := by
  cases asks with
  | item =>
    obtain ⟨k, level, within⟩ := included
    exact ⟨k, level, (past_suffix_items _ k).trans within⟩
  | @items c item next comma after read found =>
    obtain ⟨k, level, within⟩ := included
    have depth := (Cursor.level_of_comma found).depth
    have depth' : next.depth = c.depth := read.balanced
    obtain ⟨p, k', ran, rfl, rfl, same, sound⟩ :=
      eq_ok_of_keeps (keeps_item read level.idle level.none_open)
    obtain ⟨q, scanned, rfl, rfl⟩ := Cursor.nextSymbol_of_scan found
    refine ⟨k', level.after same sound (by omega), .trans ?_ within⟩
    rw [Counting.items.eq_def scope limit c, ran]
    simp only [scanned]
    split <;> next others => rw [others]
  | @expression c noString =>
    obtain ⟨k, level, within⟩ := included
    refine ⟨k, level, .trans ?_ within⟩
    rw [Counting.item, Cursor.nextString_of_none noString]
    dsimp only
    split <;> next ran => rw [ran]
  | first =>
    obtain ⟨k, level, within⟩ := included.grouped
    exact operand level ((past_suffix_grouped _ _ k).trans within)
  | @chain tier n c left next read =>
    obtain ⟨k, level, within⟩ := included.grouped
    obtain ⟨p, k', ran, rfl, rfl, same, sound⟩ :=
      eq_ok_of_keeps (kept_of_reads read k level.sound level.room level.level).operand
    rw [Counting.grouped, ran] at within
    exact ⟨k', c, p, rfl, rfl, level.after same sound read.balanced, within⟩
  | @operand tier left n c sign after found =>
    obtain ⟨k, d, p, rfl, rfl, level, within⟩ := included
    have depth := (Cursor.level_of_scanTier found).depth
    obtain ⟨s, scanned, rfl, rfl⟩ := Tier.next_of_some found
    refine operand (level.after rfl level.sound depth) (.trans ?_ within)
    rw [Counting.chain, scanned]
    dsimp only
    split
    · next ran => rw [ran]
    · next right k' ran =>
      rw [ran]
      split
      · exact List.suffix_rfl
      · exact past_suffix_chain tier _ k'
  | @more tier left n c sign after operator right next found known read =>
    obtain ⟨k, d, p, rfl, rfl, level, within⟩ := included
    have depth := (Cursor.level_of_scanTier found).depth
    have depth' : next.depth = after.depth := read.balanced
    obtain ⟨s, scanned, rfl, rfl⟩ := Tier.next_of_some found
    have behind := level.after rfl level.sound depth
    obtain ⟨q, k', ran, rfl, rfl, same, sound⟩ :=
      eq_ok_of_keeps (kept_of_reads read k behind.sound behind.room behind.level).operand
    rw [Counting.chain, scanned] at within
    simp only [ran, known] at within
    exact ⟨k', d, _, rfl, rfl, level.after same sound (by omega), within⟩
  | @body n c token next found =>
    obtain ⟨k, level, within⟩ := included
    obtain ⟨opening, rfl, rfl, here⟩ := factor_of_paren found k
    have room := level.room
    rw [here, if_neg (by omega)] at within
    exact ⟨_, level.opens (Cursor.depth_of_open found),
      (past_suffix_leave opening _).trans within⟩

/-- **Run.** What a line asks for belongs to the work on it. -/
theorem of_askedIn {line : Text} {a : Activation} (leftover : Counter)
    (asked : AskedIn scope limit line a) :
    Included scope limit (Counting.read scope limit line leftover).2.past a := by
  have idle : Idle limit leftover.reset := ⟨Counter.sound_reset limit leftover, rfl⟩
  induction asked with
  | source found isLet target sign =>
    have none_open := (Cursor.level_of_keyword found ['l', 'e', 't']).depth
    have same := (Cursor.level_of_target target sign).depth
    obtain ⟨p, scanned, rfl, rfl⟩ := Cursor.nextKeyword_of_scan found
    obtain ⟨q, named, rfl, rfl⟩ := Cursor.nextVariable_of_scan target
    obtain ⟨r, signed, rfl, rfl⟩ := Cursor.nextSymbol_of_scan sign
    refine ⟨leftover.reset, idle.level (same.trans none_open), ?_⟩
    unfold Counting.read
    simp only [scanned, isLet, if_true]
    exact past_suffix_afterLet leftover.reset named signed
  | list found isPrint more =>
    have none_open := (Cursor.level_of_keyword found ['p', 'r', 'i', 'n', 't']).depth
    have notLet : ['p', 'r', 'i', 'n', 't'] ≠ ['l', 'e', 't'] := by decide
    obtain ⟨p, scanned, rfl, rfl⟩ := Cursor.nextKeyword_of_scan found
    refine ⟨leftover.reset, idle.level none_open, ?_⟩
    unfold Counting.read
    simp only [scanned, isPrint, if_neg notLet, if_true]
    exact past_suffix_afterPrint leftover.reset more
  | part _ asks ih => exact ih.part asks

/-- An expression that belongs to the work is noted. -/
theorem noted {outcome : Outcome Expr}
    (included : Included scope limit past ⟨.part (.grouped .sum) n, c⟩)
    (read : Reads scope limit (.grouped .sum) n c outcome) : Noted past c outcome := by
  obtain ⟨k, level, later, within⟩ := included
  have begun := level.begins
  obtain ⟨cameOut, same, _⟩ := kept_of_reads read _ begun.sound begun.room begun.level
  obtain ⟨inside, grown⟩ := (remembers scope limit).2.1 .sum c (k.note .begins c)
  have shown : k.depth = c.depth := level.level
  have shown' : (Counting.grouped scope limit .sum c (k.note .begins c)).2.depth = c.depth :=
    same.trans shown
  refine ⟨later, inside, k.past, ?_⟩
  rw [← within, past_expression, cameOut, shown', ← grown, Counter.note, shown]

end Included

end Counting

/-! ## The limit -/

/-- **The nesting limit is exact and otherwise invisible.** A line that keeps to
it is executed as with any higher limit. Any other line is rejected at the first
parenthesis with which more than the limit would be open, however it goes on
behind it, and the store stays as it is. A counter of open parentheses, left by
earlier lines as it may be, comes to the same: it always shows how many
parentheses have been opened and not left, stays between zero and the limit, and
shows zero behind the line. The beginning and the end of every expression on the
line are among what has been noted of it. -/
theorem nesting_limit_exact (store : Store) (line : Text) {limit : Nat}
    (higher : nestingLimit < limit) :
    (NeverBeyond nestingLimit (executeWithin limit store line).trace →
      execute store line = executeWithin limit store line) ∧
    (¬ NeverBeyond nestingLimit (executeWithin limit store line).trace →
      ∃ front behind, line = front ++ '(' :: behind ∧
        (∃ earlier later, (executeWithin limit store line).trace =
            earlier ++ parenAt (byteSize front) :: later ∧
          NeverBeyond nestingLimit earlier ∧ openParens earlier = nestingLimit) ∧
        ∀ behind', (execute store (front ++ '(' :: behind')).outcome =
            .error (.at (.nestingTooDeep nestingLimit) (.single (byteSize front))) ∧
          (execute store (front ++ '(' :: behind')).store = store) ∧
    ∀ leftover,
      (Counting.read store.isSet nestingLimit line leftover).1 =
        Statement.read store.isSet nestingLimit line ∧
      (Counting.read store.isSet nestingLimit line leftover).2.depth = 0 ∧
      (Counting.read store.isSet nestingLimit line leftover).2.Sound nestingLimit ∧
      ∀ n c outcome, AskedIn store.isSet nestingLimit line ⟨.part (.grouped .sum) n, c⟩ →
        Reads store.isSet nestingLimit (.grouped .sum) n c outcome →
        Noted (Counting.read store.isSet nestingLimit line leftover).2.past c outcome := by
  refine ⟨execute_of_neverBeyond higher, ?_, ?_⟩
  · intro exceeds
    obtain ⟨front, behind, rfl, failed, first⟩ := execute_of_beyond higher exceeds
    refine ⟨front, behind, rfl, first, ?_⟩
    intro behind'
    -- the parenthesis itself settles the error, whatever stands behind it
    have noString : (LineError.at (.nestingTooDeep nestingLimit)
        (.single (byteSize front))).cause ≠ .unterminatedString := by simp [LineError.at]
    obtain ⟨error', alike, failed'⟩ := rejected_alike_behind failed (Nat.le_refl _)
      (fun isOpen => absurd isOpen noString : _ → '"' ∉ behind')
    obtain rfl := alike.same noString
    refine ⟨failed', ?_⟩
    rw [store_execute, failed']
    rfl
  · intro leftover
    have keeps := Counting.keeps_read store.isSet nestingLimit line leftover
    refine ⟨keeps.outcome, keeps.depth, keeps.sound, ?_⟩
    intro n c outcome asked read
    exact (Counting.Included.of_askedIn leftover asked).noted read

/-- One parenthesis keeps to the limit, and `201` of them do not. -/
theorem nesting_limit_kept_and_exceeded :
    (NeverBeyond nestingLimit
        (executeWithin 201 .empty ['p', 'r', 'i', 'n', 't', '(', '1', ')']).trace ∧
      execute .empty ['p', 'r', 'i', 'n', 't', '(', '1', ')'] =
        executeWithin 201 .empty ['p', 'r', 'i', 'n', 't', '(', '1', ')']) ∧
    ¬ NeverBeyond nestingLimit
        (executeWithin 201 .empty (['p', 'r', 'i', 'n', 't'] ++ List.replicate 201 '(')).trace ∧
      ∃ front behind, ['p', 'r', 'i', 'n', 't'] ++ List.replicate 201 '(' =
          front ++ '(' :: behind ∧
        (execute .empty (front ++ '(' :: behind)).outcome =
          .error (.at (.nestingTooDeep nestingLimit) (.single (byteSize front))) := by
  have kept : NeverBeyond nestingLimit
      (executeWithin 201 .empty ['p', 'r', 'i', 'n', 't', '(', '1', ')']).trace := by
    decide +kernel
  have exceeded : ¬ NeverBeyond nestingLimit
      (executeWithin 201 .empty (['p', 'r', 'i', 'n', 't'] ++ List.replicate 201 '(')).trace := by
    decide +kernel
  have higher : nestingLimit < 201 := by decide
  obtain ⟨front, behind, whole, _, rejected⟩ := (nesting_limit_exact _ _ higher).2.1 exceeded
  exact ⟨⟨kept, (nesting_limit_exact _ _ higher).1 kept⟩, exceeded, front, behind, whole,
    (rejected behind).1⟩

end LineBasic
