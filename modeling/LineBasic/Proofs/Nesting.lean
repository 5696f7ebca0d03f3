import LineBasic.Proofs.Coverage
import LineBasic.Proofs.Locality
import Mathlib.Data.List.Infix

/-!
# The nesting limit is exact

How many parentheses are open is read off the observations (`openParens`). A
lower limit makes a difference only where a reading with a higher one would go
beyond it:

* **balance** — an expression that is read closes what it opens
  (`Reads.balanced`), so parentheses side by side do not add up;
* **simulation** — a reading under a higher limit either stays within the lower
  one and is the same there, or goes beyond it, and then the lower limit ends
  the reading at the parenthesis that does (`Reads.capped`, `ReadsLine.capped`);
* **executions** — `execute_of_neverBeyond` and `execute_of_beyond`.
-/

namespace LineBasic

/-! ## Open parentheses -/

/-- How many parentheses are open after an observation, where `count` were open
before it. -/
def Event.tally (count : Nat) : Event → Nat
  | .matched ⟨.literal, ['('], _⟩ => count + 1
  | .matched ⟨.literal, [')'], _⟩ => count - 1
  | _ => count

/-- How many parentheses have been matched and not closed yet. -/
def openParens (events : List Event) : Nat := events.foldl Event.tally 0

/-- At no time are more than `n` parentheses open. -/
def NeverBeyond (n : Nat) (events : List Event) : Prop :=
  ∀ earlier, earlier <+: events → openParens earlier ≤ n

instance (n : Nat) (events : List Event) : Decidable (NeverBeyond n events) :=
  decidable_of_iff (∀ earlier ∈ events.inits, openParens earlier ≤ n)
    (by simp [NeverBeyond, List.mem_inits])

theorem openParens_concat (events : List Event) (event : Event) :
    openParens (events ++ [event]) = event.tally (openParens events) := by
  rw [openParens, List.foldl_append]
  rfl

theorem neverBeyond_concat {n : Nat} {events : List Event} {event : Event} :
    NeverBeyond n (events ++ [event]) ↔
      NeverBeyond n events ∧ event.tally (openParens events) ≤ n := by
  refine ⟨?_, ?_⟩
  · intro never
    refine ⟨fun earlier front => never earlier (front.trans (List.prefix_append ..)), ?_⟩
    rw [← openParens_concat]
    exact never _ List.prefix_rfl
  · rintro ⟨never, last⟩ earlier front
    rcases List.prefix_concat_iff.1 front with rfl | front
    · rw [openParens_concat]
      exact last
    · exact never earlier front

namespace Cursor

/-- How many parentheses are open at a place. -/
def depth (c : Cursor) : Nat := openParens c.trace.reverse

/-- On the way to this place, no more than `n` parentheses were open. -/
def Within (n : Nat) (c : Cursor) : Prop := NeverBeyond n c.trace.reverse

variable {c next : Cursor} {n : Nat}

theorem depth_of_trace {event : Event} (trace : next.trace = event :: c.trace) :
    next.depth = event.tally c.depth := by
  rw [depth, trace, List.reverse_cons, openParens_concat]
  rfl

theorem within_of_trace {event : Event} (trace : next.trace = event :: c.trace) :
    next.Within n ↔ c.Within n ∧ next.depth ≤ n := by
  rw [depth_of_trace trace, Within, trace, List.reverse_cons, neverBeyond_concat]
  rfl

theorem Within.depth_le (within : c.Within n) : c.depth ≤ n := within _ List.prefix_rfl

theorem Within.of_suffix (within : next.Within n) (suffix : c.trace <:+ next.trace) :
    c.Within n := by
  intro earlier front
  exact within earlier (front.trans (List.reverse_prefix.2 suffix))

/-! ## Only parentheses count -/

/-- A step that opens and closes no parenthesis. -/
structure Level (c next : Cursor) : Prop where
  depth : next.depth = c.depth
  within {n : Nat} : c.Within n → next.Within n

theorem level_of_trace {event : Event} (plain : ∀ count, event.tally count = count)
    (trace : next.trace = event :: c.trace) : c.Level next := by
  have same : next.depth = c.depth := by rw [depth_of_trace trace, plain]
  refine ⟨same, ?_⟩
  intro n within
  rw [within_of_trace trace, same]
  exact ⟨within, within.depth_le⟩

variable {token : Token}

theorem level_of_scanWord {kind : TokenKind} {first more : Char → Bool} (plain : kind ≠ .literal)
    (found : scanWord kind first more c = some (token, next)) : c.Level next := by
  obtain ⟨_, form, trace⟩ := consumes_of_scanWord found
  refine level_of_trace ?_ trace
  intro count
  rw [form]
  cases kind with
  | literal => exact absurd rfl plain
  | _ => rfl

theorem level_of_scanLiteral {text : Text} (opening : text ≠ ['(']) (closing : text ≠ [')'])
    (found : scanLiteral text c = some (token, next)) : c.Level next := by
  refine level_of_trace ?_ (trace_of_scanLiteral found)
  intro count
  rw [(consumes_of_scanLiteral found).2]
  unfold Event.tally
  split
  · next same =>
    cases same
    exact absurd rfl opening
  · next same =>
    cases same
    exact absurd rfl closing
  · rfl

theorem level_of_scanTier {tier : Tier} (found : tier.scan c = some (token, next)) :
    c.Level next := by
  obtain ⟨operator, _, rest, front, taken⟩ := Tier.scan_eq_some_iff.1 found
  have literal : scanLiteral [operator.symbol] c =
      some (c.skipGap.take .literal [operator.symbol] rest) :=
    scanLiteral_eq_some_iff.2 ⟨rest, front, rfl⟩
  obtain ⟨_, rfl⟩ := Prod.mk.inj taken
  refine level_of_scanLiteral ?_ ?_ literal
  · cases operator <;> decide
  · cases operator <;> decide

theorem level_of_scanString (found : c.scanString = .ok (some (token, next))) : c.Level next := by
  refine level_of_trace ?_ (trace_of_scanString found)
  intro count
  obtain ⟨_, _, _, _, taken⟩ := scanString_eq_string_iff.1 found
  rw [(Prod.mk.inj taken).1]
  rfl

theorem level_printable (c : Cursor) (kind : ValueKind) : c.Level (c.observe (.printable kind)) :=
  level_of_trace (fun _ => rfl) rfl

theorem level_dispatching (c : Cursor) (word : Text) : c.Level (c.observe (.dispatching word)) :=
  level_of_trace (fun _ => rfl) rfl

theorem Level.trans {d : Cursor} (level : c.Level d) (level' : d.Level next) : c.Level next :=
  ⟨level'.depth.trans level.depth, fun within => level'.within (level.within within)⟩

/-- Up to the source of an assignment, nothing is opened. -/
theorem level_of_target {target equals : Token} {after : Cursor}
    (found : c.scanVariable = some (target, next))
    (sign : next.scanLiteral ['='] = some (equals, after)) : c.Level after :=
  (level_of_scanWord (by simp) found).trans (level_of_scanLiteral (by decide) (by decide) sign)

/-- Nor is anything opened between the items of a list. -/
theorem level_of_comma (found : c.scanLiteral [','] = some (token, next)) : c.Level next :=
  level_of_scanLiteral (by decide) (by decide) found

/-- Nor by the word that a line begins with. -/
theorem level_of_keyword (found : c.scanKeyword = some (token, next)) (word : Text) :
    c.Level (next.observe (.dispatching word)) :=
  (level_of_scanWord (by simp) found).trans (level_dispatching _ _)

theorem depth_of_open (found : c.scanLiteral ['('] = some (token, next)) :
    next.depth = c.depth + 1 := by
  rw [depth_of_trace (trace_of_scanLiteral found), (consumes_of_scanLiteral found).2]
  rfl

theorem within_of_open (found : c.scanLiteral ['('] = some (token, next)) :
    next.Within n ↔ c.Within n ∧ c.depth + 1 ≤ n := by
  rw [within_of_trace (trace_of_scanLiteral found), depth_of_open found]

theorem depth_of_close (found : c.scanLiteral [')'] = some (token, next)) :
    next.depth = c.depth - 1 := by
  rw [depth_of_trace (trace_of_scanLiteral found), (consumes_of_scanLiteral found).2]
  rfl

theorem within_of_close (found : c.scanLiteral [')'] = some (token, next))
    (within : c.Within n) : next.Within n := by
  rw [within_of_trace (trace_of_scanLiteral found), depth_of_close found]
  exact ⟨within, Nat.le_trans (Nat.sub_le ..) within.depth_le⟩

theorem Advances.trace_suffix (leads : c.Advances next) : c.trace <:+ next.trace := by
  induction leads with
  | refl => exact List.suffix_rfl
  | tail _ step ih =>
    cases step with
    | token _ _ trace =>
      rw [trace]
      exact ih.trans (List.suffix_cons ..)
    | remark => exact ih.trans (List.suffix_cons ..)

end Cursor

open Cursor Outcome

/-! ## Balance -/

/-- As many parentheses are open behind what was read as before it. -/
def Outcome.Balanced {α : Type} (c : Cursor) : Outcome α → Prop
  | .ok (_, next) => next.depth = c.depth
  | .error _ => True

theorem Outcome.Balanced.before {α : Type} {c d : Cursor} {outcome : Outcome α}
    (balanced : Balanced d outcome) (level : d.depth = c.depth) : Balanced c outcome := by
  cases outcome with
  | ok pair => exact Eq.trans balanced level
  | error rejection => trivial

section Balance

variable {scope : Scope} {limit : Nat} {c : Cursor}

theorem Reads.balanced {category : Category} {n : Nat} {outcome : Outcome Expr}
    (read : Reads scope limit category n c outcome) : Balanced c outcome := by
  induction read with
  | number found => exact (level_of_scanWord (by simp) found).depth
  | bound found _ => exact (level_of_scanWord (by simp) found).depth
  | @group _ c token next e body _ after found _ closed ih =>
    have opened := depth_of_open found
    have inside : body.depth = next.depth := ih
    show after.depth = c.depth
    rw [depth_of_close closed]
    omega
  | first _ _ ihFirst ihChain => exact ihChain.before ihFirst
  | done => rfl
  | more found _ _ _ ihRight ihChain =>
    exact ihChain.before (Eq.trans ihRight (level_of_scanTier found).depth)
  | unbound | tooDeep | groupFails | unclosed | absent | firstFails | operandFails => trivial

theorem ReadsItem.balanced {outcome : Outcome Item} (read : ReadsItem scope limit c outcome) :
    Balanced c outcome := by
  cases read with
  | string found => exact ((level_of_scanString found).trans (level_printable _ _)).depth
  | expr _ body => exact (level_printable _ _).depth.trans body.balanced
  | unterminated | exprFails => trivial

end Balance

/-! ## Simulation -/

/-- Along a way, some parenthesis is one more than `limit`, and the rejection is
for this. -/
inductive Beyond (limit : Nat) (trace : List Event) : Rejection → Prop
  | paren {c next : Cursor} {token : Token} :
      c.scanLiteral ['('] = some (token, next) → c.Within limit → c.depth = limit →
      next.trace <:+ trace → Beyond limit trace ⟨.at (.nestingTooDeep limit) token.span, next⟩

theorem Beyond.mono {limit : Nat} {trace trace' : List Event} {rejection : Rejection}
    (beyond : Beyond limit trace rejection) (suffix : trace <:+ trace') :
    Beyond limit trace' rejection := by
  cases beyond with
  | paren found within full onWay => exact .paren found within full (onWay.trans suffix)

/-- What a reading comes to under a lower limit, where it came to `outcome`
under a higher one and `reads` is how it may come out. -/
inductive Capped {α : Type} (limit : Nat) (outcome : Outcome α) (reads : Outcome α → Prop) : Prop
  | within : (reached outcome).Within limit → reads outcome → Capped limit outcome reads
  | beyond {rejection} :
      Beyond limit (reached outcome).trace rejection → reads (.error rejection) →
      Capped limit outcome reads

namespace Capped

variable {α β : Type} {limit : Nat}

/-- The work ends where a part of it does. -/
theorem fails {rejection : Rejection} {part : Outcome α → Prop} {reads : Outcome β → Prop}
    (capped : Capped limit (.error rejection) part)
    (stops : ∀ rejection, part (.error rejection) → reads (.error rejection)) :
    Capped limit (.error rejection) reads := by
  cases capped with
  | within within read => exact .within within (stops _ read)
  | beyond beyond read => exact .beyond beyond (stops _ read)

/-- The work goes on behind a part of it. -/
theorem andThen {value : α} {next : Cursor} {outcome : Outcome β} {part : Outcome α → Prop}
    {reads : Outcome β → Prop} (capped : Capped limit (.ok (value, next)) part)
    (leads : next.trace <:+ (reached outcome).trace)
    (stops : ∀ rejection, part (.error rejection) → reads (.error rejection))
    (goesOn : part (.ok (value, next)) → next.Within limit → Capped limit outcome reads) :
    Capped limit outcome reads := by
  cases capped with
  | within within read => exact goesOn read within
  | beyond beyond read => exact .beyond (beyond.mono leads) (stops _ read)

theorem map {outcome : Outcome α} {part reads : Outcome α → Prop}
    (capped : Capped limit outcome part) (same : ∀ outcome, part outcome → reads outcome) :
    Capped limit outcome reads := by
  cases capped with
  | within within read => exact .within within (same _ read)
  | beyond beyond read => exact .beyond beyond (same _ read)

end Capped

section Simulation

variable {scope : Scope} {limit k : Nat}

theorem Reads.capped {category : Category} {m : Nat} {c : Cursor} {outcome : Outcome Expr}
    (read : Reads scope (limit + k + 1) category m c outcome) :
    ∀ n, m = n + k + 1 → c.depth + n = limit → c.Within limit →
      Capped limit outcome (Reads scope limit category n c) := by
  induction read with
  | number found =>
    intro n _ _ within
    exact .within ((level_of_scanWord (by simp) found).within within) (.number found)
  | bound found isSet =>
    intro n _ _ within
    exact .within ((level_of_scanWord (by simp) found).within within) (.bound found isSet)
  | unbound found unset =>
    intro n _ _ within
    exact .within ((level_of_scanWord (by simp) found).within within) (.unbound found unset)
  | tooDeep =>
    intro n more
    omega
  | @groupFails m c token next rejection found body ih =>
    intro n more full within
    have opened := depth_of_open found
    cases n with
    | zero =>
      exact .beyond (.paren found within (by omega) body.advances.trace_suffix) (.tooDeep found)
    | succ n =>
      exact (ih n (by omega) (by omega) ((within_of_open found).2 ⟨within, by omega⟩)).fails
        fun _ => .groupFails found
  | @unclosed m c token next e place found body missing ih =>
    intro n more full within
    have opened := depth_of_open found
    cases n with
    | zero =>
      exact .beyond (.paren found within (by omega) body.advances.trace_suffix) (.tooDeep found)
    | succ n =>
      refine (ih n (by omega) (by omega) ((within_of_open found).2 ⟨within, by omega⟩)).andThen
        List.suffix_rfl (fun _ => .groupFails found) ?_
      intro body' inside
      exact .within inside (.unclosed found body' missing)
  | @group m c token next e place closing after found body closed ih =>
    intro n more full within
    have opened := depth_of_open found
    have left : place.trace <:+ after.trace := by
      rw [trace_of_scanLiteral closed]
      exact List.suffix_cons ..
    cases n with
    | zero =>
      exact .beyond (.paren found within (by omega) (body.advances.trace_suffix.trans left))
        (.tooDeep found)
    | succ n =>
      refine (ih n (by omega) (by omega) ((within_of_open found).2 ⟨within, by omega⟩)).andThen
        left (fun _ => .groupFails found) ?_
      intro body' inside
      exact .within (within_of_close closed inside) (.group found body' closed)
  | absent noNumber noName noParen =>
    intro n _ _ within
    exact .within within (.absent noNumber noName noParen)
  | firstFails _ ih =>
    intro n more full within
    exact (ih n more full within).fails fun _ => .firstFails
  | @first tier m c left next outcome first chain ihFirst ihChain =>
    intro n more full within
    have level : next.depth = c.depth := first.balanced
    refine (ihFirst n more full within).andThen chain.advances.trace_suffix
      (fun _ => .firstFails) ?_
    intro first' inside
    exact (ihChain n more (by omega) inside).map fun _ => .first first'
  | done absent =>
    intro n _ _ within
    exact .within within (.done absent)
  | @operandFails tier left m c sign after rejection found right ih =>
    intro n more full within
    have level := level_of_scanTier found
    have depth := level.depth
    exact (ih n more (by omega) (level.within within)).fails fun _ => .operandFails found
  | @more tier left m c sign after operator right next outcome found known operand chain ihRight
      ihChain =>
    intro n more full within
    have level := level_of_scanTier found
    have depth := level.depth
    have depth' : next.depth = after.depth := operand.balanced
    refine (ihRight n more (by omega) (level.within within)).andThen
      chain.advances.trace_suffix (fun _ => .operandFails found) ?_
    intro operand' inside
    exact (ihChain n more (by omega) inside).map fun _ => .more found known operand'

/-! Items and lines are read where no parenthesis is open. -/

variable {c : Cursor}

theorem ReadsItem.capped {outcome : Outcome Item}
    (read : ReadsItem scope (limit + k + 1) c outcome) (none_open : c.depth = 0)
    (within : c.Within limit) : Capped limit outcome (ReadsItem scope limit c) := by
  cases read with
  | unterminated found => exact .within within (.unterminated found)
  | string found =>
    exact .within (((level_of_scanString found).trans (level_printable _ _)).within within)
      (.string found)
  | exprFails noString failed =>
    exact (failed.capped limit rfl (by omega) within).fails fun _ => .exprFails noString
  | @expr e next noString body =>
    refine (body.capped limit rfl (by omega) within).andThen (List.suffix_cons ..)
      (fun _ => .exprFails noString) ?_
    intro body' inside
    exact .within ((level_printable _ _).within inside) (.expr noString body')

theorem ReadsItems.capped {outcome : Outcome (List Item)}
    (read : ReadsItems scope (limit + k + 1) c outcome) (none_open : c.depth = 0)
    (within : c.Within limit) : Capped limit outcome (ReadsItems scope limit c) := by
  induction read with
  | firstFails failed => exact (failed.capped none_open within).fails fun _ => .firstFails
  | last item noComma =>
    refine (item.capped none_open within).andThen List.suffix_rfl (fun _ => .firstFails) ?_
    intro item' inside
    exact .within inside (.last item' noComma)
  | @restFails c item next comma after rejection first found others ih =>
    have level := level_of_comma found
    have depth := level.depth
    have depth' : next.depth = c.depth := first.balanced
    have leads : next.Advances _ := .head (advance_of_scanLiteral (by simp) found) others.advances
    refine (first.capped none_open within).andThen leads.trace_suffix (fun _ => .firstFails) ?_
    intro first' inside
    exact (ih (by omega) (level.within inside)).fails fun _ => .restFails first' found
  | @more c item next comma after items tail first found others ih =>
    have level := level_of_comma found
    have depth := level.depth
    have depth' : next.depth = c.depth := first.balanced
    have leads : next.Advances _ := .head (advance_of_scanLiteral (by simp) found) others.advances
    refine (first.capped none_open within).andThen leads.trace_suffix (fun _ => .firstFails) ?_
    intro first' inside
    refine (ih (by omega) (level.within inside)).andThen List.suffix_rfl
      (fun _ => .restFails first' found) ?_
    intro others' inside'
    exact .within inside' (.more first' found others')

/-- The end of a line makes no difference to what is open. -/
theorem Capped.closed {α : Type} {value : α} {tail : Cursor} {statement : Statement}
    {part : Outcome α → Prop} {reads : Outcome Statement → Prop}
    (capped : Capped limit (.ok (value, tail)) part)
    (stops : ∀ rejection, part (.error rejection) → reads (.error rejection))
    (ends : part (.ok (value, tail)) → reads (Statement.closed statement tail)) :
    Capped limit (Statement.closed statement tail) reads := by
  have trace := Statement.trace_closed statement tail
  refine capped.andThen (trace ▸ List.suffix_rfl) stops ?_
  intro read inside
  refine .within ?_ (ends read)
  rw [Within, trace]
  exact inside

theorem ReadsLet.capped {outcome : Outcome Statement}
    (read : ReadsLet scope (limit + k + 1) c outcome) (none_open : c.depth = 0)
    (within : c.Within limit) : Capped limit outcome (ReadsLet scope limit c) := by
  cases read with
  | noVariable absent => exact .within within (.noVariable absent)
  | noEquals found absent =>
    exact .within ((level_of_scanWord (by simp) found).within within) (.noEquals found absent)
  | sourceFails found sign failed =>
    have level := level_of_target found sign
    have depth := level.depth
    exact (failed.capped limit rfl (by omega) (level.within within)).fails
      fun _ => .sourceFails found sign
  | source found sign body closing =>
    subst closing
    have level := level_of_target found sign
    have depth := level.depth
    exact (body.capped limit rfl (by omega) (level.within within)).closed
      (fun _ => .sourceFails found sign) fun body' => .source found sign body' rfl

theorem ReadsPrint.capped {outcome : Outcome Statement}
    (read : ReadsPrint scope (limit + k + 1) c outcome) (none_open : c.depth = 0)
    (within : c.Within limit) : Capped limit outcome (ReadsPrint scope limit c) := by
  cases read with
  | bare ends =>
    obtain ⟨_, taken⟩ := scanEndOfLine_eq_some_iff.1 ends
    obtain ⟨_, rfl⟩ := Prod.mk.inj taken
    exact .within within (.bare ends)
  | itemsFail noEnd failed =>
    exact (failed.capped none_open within).fails fun _ => .itemsFail noEnd
  | items noEnd list closing =>
    subst closing
    exact (list.capped none_open within).closed (fun _ => .itemsFail noEnd)
      fun list' => .items noEnd list' rfl

theorem Cursor.within_start (limit : Nat) (line : Text) : (Cursor.start line).Within limit := by
  intro earlier front
  rw [List.prefix_nil.1 front]
  exact Nat.zero_le _

/-- **A line is read alike under a lower limit, as long as it keeps to it.** -/
theorem ReadsLine.capped {line : Text} {outcome : Outcome Statement}
    (read : ReadsLine scope (limit + k + 1) line outcome) :
    Capped limit outcome (ReadsLine scope limit line) := by
  have within := Cursor.within_start limit line
  cases read with
  | noKeyword absent => exact .within within (.noKeyword absent)
  | unknown found notLet notPrint =>
    exact .within ((level_of_keyword found _).within within) (.unknown found notLet notPrint)
  | @assign word _ _ found isLet rest =>
    have level := level_of_keyword found (fold word.lexeme)
    exact (rest.capped level.depth (level.within within)).map fun _ => .assign found isLet
  | @print word _ _ found isPrint rest =>
    have level := level_of_keyword found (fold word.lexeme)
    exact (rest.capped level.depth (level.within within)).map fun _ => .print found isPrint

end Simulation

/-! ## Executions -/

/-- What an effect adds to the observations is about no parenthesis. -/
theorem neverBeyond_events {n : Nat} {events : List Event} (effect : Effect) :
    NeverBeyond n (events ++ effect.events) ↔ NeverBeyond n events := by
  cases effect with
  | printed => rw [Effect.events, List.append_nil]
  | assigned name value =>
    rw [Effect.events, neverBeyond_concat]
    exact and_iff_left_of_imp fun never => never _ List.prefix_rfl

/-- The observations of an execution begin with those of reading its line, and
tell as much about parentheses. -/
theorem trace_execution (limit : Nat) (store : Store) (line : Text) :
    ∃ effects, (executeWithin limit store line).trace =
        (reached (Statement.read store.isSet limit line)).trace.reverse ++ effects ∧
      ∀ n, NeverBeyond n (executeWithin limit store line).trace ↔
        (reached (Statement.read store.isSet limit line)).Within n := by
  rw [executeWithin_eq]
  cases Statement.read store.isSet limit line with
  | error rejection => exact ⟨[], (List.append_nil _).symm, fun _ => Iff.rfl⟩
  | ok pair =>
    obtain ⟨statement, lineEnd⟩ := pair
    exact ⟨(statement.effect store).events, rfl, fun _ => neverBeyond_events _⟩

/-- A parenthesis of the line, as it is observed. -/
def parenAt (place : Nat) : Event := .matched ⟨.literal, ['('], .single place⟩

/-- A parenthesis too many is one of the line. -/
theorem Beyond.placed {limit : Nat} {trace : List Event} {rejection : Rejection}
    (beyond : Beyond limit trace rejection) {line : Text} (on : Accounted line rejection.place) :
    ∃ front behind, line = front ++ '(' :: behind ∧
      rejection.error = .at (.nestingTooDeep limit) (.single (byteSize front)) ∧
      ∃ earlier later, trace.reverse = earlier ++ parenAt (byteSize front) :: later ∧
        NeverBeyond limit earlier ∧ openParens earlier = limit := by
  cases beyond with
  | @paren c next token found within full onWay =>
    have trace' := trace_of_scanLiteral found
    obtain ⟨_, form⟩ := consumes_of_scanLiteral found
    have member : token ∈ matchedTokens next.trace := by
      rw [trace']
      exact List.mem_cons_self
    obtain ⟨front, behind, whole, start, stop⟩ := on.holds token member
    have paren : byteSize token.lexeme = 1 := by
      rw [form]
      rfl
    have span : token.span = .single (byteSize front) := by
      show token.span = ⟨byteSize front, byteSize front + 1⟩
      rw [← paren, ← stop, ← start]
    have event : Event.matched token = parenAt (byteSize front) := by
      rw [parenAt, ← span, form]
    rw [form] at whole
    obtain ⟨earlier, rfl⟩ := onWay
    refine ⟨front, behind, whole, by rw [span], c.trace.reverse, earlier.reverse, ?_, within, full⟩
    rw [trace', event]
    simp

theorem Beyond.not_within {limit : Nat} {d : Cursor} {rejection : Rejection}
    (beyond : Beyond limit d.trace rejection) : ¬ d.Within limit := by
  cases beyond with
  | paren found _ full onWay =>
    intro within
    have once := (within_of_open found).1 (within.of_suffix onWay)
    omega

section Execution

variable {limit more : Nat} {store : Store} {line : Text}

theorem read_capped (lower : limit < more) :
    Capped limit (Statement.read store.isSet more line) (ReadsLine store.isSet limit line) := by
  obtain ⟨k, rfl⟩ := Nat.exists_eq_add_of_lt lower
  exact (Statement.read_iff.1 rfl).capped

/-- A limit that a line keeps to makes no difference. -/
theorem execute_of_neverBeyond (lower : limit < more)
    (never : NeverBeyond limit (executeWithin more store line).trace) :
    executeWithin limit store line = executeWithin more store line := by
  obtain ⟨_, _, observed⟩ := trace_execution more store line
  cases @read_capped limit more store line lower with
  | within _ read =>
    have same := Statement.read_iff.2 read
    rw [executeWithin_eq, executeWithin_eq, same]
  | beyond beyond _ => exact absurd ((observed limit).1 never) beyond.not_within

/-- A line that goes beyond a limit is rejected at the parenthesis with which it
does. -/
theorem execute_of_beyond (lower : limit < more)
    (exceeds : ¬ NeverBeyond limit (executeWithin more store line).trace) :
    ∃ front behind, line = front ++ '(' :: behind ∧
      (executeWithin limit store line).outcome =
        .error (.at (.nestingTooDeep limit) (.single (byteSize front))) ∧
      ∃ earlier later, (executeWithin more store line).trace =
          earlier ++ parenAt (byteSize front) :: later ∧
        NeverBeyond limit earlier ∧ openParens earlier = limit := by
  obtain ⟨effects, trace, observed⟩ := trace_execution more store line
  cases @read_capped limit more store line lower with
  | within within _ => exact absurd ((observed limit).2 within) exceeds
  | @beyond rejection beyond read =>
    obtain ⟨front, behind, whole, error, earlier, later, split, never, full⟩ :=
      beyond.placed read.finishes.accounted
    refine ⟨front, behind, whole, ?_, earlier, later ++ effects, ?_, never, full⟩
    · rw [outcome_eq_error_iff, ← error]
      exact ⟨rejection.place, read⟩
    · rw [trace, split, List.append_assoc, List.cons_append]

end Execution

end LineBasic
