import LineBasic.Proofs.Tokens
import Mathlib.Logic.Relation

/-!
# A line is read token by token

Whatever reading comes to, the place it has reached lies some tokens further
on, each taken and observed in turn (`Cursor.Advances`). So what a single step
keeps holds wherever a line is given up or ends:

* **expressions and items** — `Reads.advances`, `ReadsItem.advances`,
  `ReadsItems.advances`;
* **lines** — `ReadsLine.finishes`: a line is rejected at a place that was
  reached, or read to its end.
-/

namespace LineBasic

/-- The place that reading has reached when it ends, one way or the other. -/
def Outcome.reached {α : Type} : Outcome α → Cursor
  | .ok (_, next) => next
  | .error rejection => rejection.place

namespace Cursor

/-- One step along a line: a token is taken and observed, or something that is
no token is observed on the spot. -/
inductive Advance (c : Cursor) : Cursor → Prop
  | token {token next} :
      c.Takes token next → token.spelling ≠ [] → next.trace = .matched token :: c.trace →
      Advance c next
  | remark {event} : (∀ token, event ≠ .matched token) → Advance c (c.observe event)

/-- Any number of steps along a line. -/
abbrev Advances : Cursor → Cursor → Prop := Relation.ReflTransGen Advance

/-! ## Steps -/

variable {c next : Cursor} {token : Token}

theorem advance_of_scanWord {kind : TokenKind} {first more : Char → Bool} (plain : kind ≠ .string)
    (found : scanWord kind first more c = some (token, next)) : c.Advance next := by
  obtain ⟨word, rest, ⟨initial, tail, rfl, _⟩, _, _, taken⟩ := scanWord_eq_some_iff.1 found
  refine .token (takes_of_scanWord plain found) ?_ (consumes_of_scanWord found).2.2
  obtain ⟨rfl, _⟩ := Prod.mk.inj taken
  rw [Token.spelling_of_plain plain]
  exact List.cons_ne_nil initial tail

theorem advance_of_scanLiteral {text : Text} (nonempty : text ≠ [])
    (found : scanLiteral text c = some (token, next)) : c.Advance next := by
  refine .token (takes_of_scanLiteral found) ?_ (trace_of_scanLiteral found)
  rw [(consumes_of_scanLiteral found).2, Token.spelling_of_plain (by simp)]
  exact nonempty

theorem advance_of_scanTier {tier : Tier} (found : tier.scan c = some (token, next)) :
    c.Advance next := by
  -- an operator is observed as a literal
  have literal : ∃ symbol ≠ [], ∃ token, scanLiteral symbol c = some (token, next) := by
    cases tier with
    | product =>
      obtain ⟨symbol, member, matched, _⟩ := literal_of_scanOperator found
      exact ⟨symbol, by rintro rfl; simp at member, _, matched⟩
    | sum =>
      obtain ⟨symbol, member, matched, _⟩ := literal_of_scanOperator found
      exact ⟨symbol, by rintro rfl; simp at member, _, matched⟩
  obtain ⟨symbol, nonempty, _, matched⟩ := literal
  exact advance_of_scanLiteral nonempty matched

theorem advance_of_scanString (found : c.scanString = .ok (some (token, next))) :
    c.Advance next := by
  refine .token (takes_of_scanString found) ?_ (trace_of_scanString found)
  obtain ⟨_, _, _, _, taken⟩ := scanString_eq_string_iff.1 found
  rw [(Prod.mk.inj taken).1, Token.spelling_of_string rfl]
  exact List.cons_ne_nil _ _

theorem advances_printable (c : Cursor) (kind : ValueKind) :
    c.Advances (c.observe (.printable kind)) := .single (.remark (by simp))

theorem advances_dispatching (c : Cursor) (word : Text) :
    c.Advances (c.observe (.dispatching word)) := .single (.remark (by simp))

end Cursor

open Cursor Outcome

/-! ## Expressions -/

section Reading

variable {scope : Scope} {limit : Nat} {c : Cursor}

theorem Reads.advances {category : Category} {n : Nat} {outcome : Outcome Expr}
    (read : Reads scope limit category n c outcome) : c.Advances (reached outcome) := by
  induction read with
  | number found => exact .single (advance_of_scanWord (by simp) found)
  | bound found _ => exact .single (advance_of_scanWord (by simp) found)
  | unbound found _ => exact .single (advance_of_scanWord (by simp) found)
  | tooDeep found => exact .single (advance_of_scanLiteral (by simp) found)
  | groupFails found _ ih => exact .head (advance_of_scanLiteral (by simp) found) ih
  | unclosed found _ _ ih => exact .head (advance_of_scanLiteral (by simp) found) ih
  | group found _ closed ih =>
    exact .head (advance_of_scanLiteral (by simp) found)
      (ih.tail (advance_of_scanLiteral (by simp) closed))
  | absent => exact .refl
  | firstFails _ ih => exact ih
  | first _ _ ihFirst ihChain => exact ihFirst.trans ihChain
  | done => exact .refl
  | operandFails found _ ih => exact .head (advance_of_scanTier found) ih
  | more found _ _ _ ihRight ihChain =>
    exact .head (advance_of_scanTier found) (ihRight.trans ihChain)

/-! ## Items and lines -/

theorem ReadsItem.advances {outcome : Outcome Item} (read : ReadsItem scope limit c outcome) :
    c.Advances (reached outcome) := by
  cases read with
  | unterminated => exact .refl
  | string found => exact .head (advance_of_scanString found) (advances_printable _ _)
  | exprFails _ failed => exact failed.advances
  | expr _ body => exact body.advances.trans (advances_printable _ _)

theorem ReadsItems.advances {outcome : Outcome (List Item)}
    (read : ReadsItems scope limit c outcome) : c.Advances (reached outcome) := by
  induction read with
  | firstFails failed => exact failed.advances
  | last item _ => exact item.advances
  | restFails item found _ ih =>
    exact item.advances.trans (.head (advance_of_scanLiteral (by simp) found) ih)
  | more item found _ ih =>
    have first := item.advances
    exact first.trans (.head (advance_of_scanLiteral (by simp) found) ih)

/-- Reading gives up at a place that it has reached, or ends with nothing but a
gap left. -/
inductive Finishes (c : Cursor) : Outcome Statement → Prop
  | rejected {rejection} : c.Advances rejection.place → Finishes c (.error rejection)
  | read {statement d} :
      c.Advances d → d.skipGap.rest = [] → Finishes c (.ok (statement, d.skipGap))

theorem Finishes.before {d : Cursor} {outcome : Outcome Statement} (finishes : Finishes d outcome)
    (leads : c.Advances d) : Finishes c outcome := by
  cases finishes with
  | rejected onward => exact .rejected (leads.trans onward)
  | read onward ends => exact .read (leads.trans onward) ends

/-- Nothing is observed at the end of a line. -/
theorem Statement.trace_closed (statement : Statement) (c : Cursor) :
    (reached (Statement.closed statement c)).trace = c.trace := by
  cases closing : Statement.closed statement c with
  | error rejection =>
    obtain ⟨_, rfl⟩ := Statement.closed_eq_error_iff.1 closing
    rfl
  | ok pair =>
    obtain ⟨found, lineEnd⟩ := pair
    obtain ⟨_, _, rfl⟩ := Statement.closed_eq_ok_iff.1 closing
    rfl

theorem finishes_closed (statement : Statement) (c : Cursor) :
    Finishes c (Statement.closed statement c) := by
  cases closing : Statement.closed statement c with
  | error rejection =>
    obtain ⟨_, rfl⟩ := Statement.closed_eq_error_iff.1 closing
    exact .rejected .refl
  | ok pair =>
    obtain ⟨found, lineEnd⟩ := pair
    obtain ⟨ends, rfl, rfl⟩ := Statement.closed_eq_ok_iff.1 closing
    exact .read .refl ends

theorem ReadsLet.finishes {outcome : Outcome Statement} (read : ReadsLet scope limit c outcome) :
    Finishes c outcome := by
  cases read with
  | noVariable => exact .rejected .refl
  | noEquals found _ => exact .rejected (.single (advance_of_scanWord (by simp) found))
  | sourceFails found sign failed =>
    exact .rejected (.head (advance_of_scanWord (by simp) found)
      (.head (advance_of_scanLiteral (by simp) sign) failed.advances))
  | source found sign body closing =>
    subst closing
    exact (finishes_closed _ _).before (.head (advance_of_scanWord (by simp) found)
      (.head (advance_of_scanLiteral (by simp) sign) body.advances))

theorem ReadsPrint.finishes {outcome : Outcome Statement}
    (read : ReadsPrint scope limit c outcome) : Finishes c outcome := by
  cases read with
  | bare ends =>
    obtain ⟨none_left, taken⟩ := scanEndOfLine_eq_some_iff.1 ends
    rw [(Prod.mk.inj taken).2]
    exact .read .refl none_left
  | itemsFail _ failed => exact .rejected failed.advances
  | items _ list closing =>
    subst closing
    exact (finishes_closed _ _).before list.advances

/-- **A line is given up at a place that was reached, or read to its end.** -/
theorem ReadsLine.finishes {line : Text} {outcome : Outcome Statement}
    (read : ReadsLine scope limit line outcome) : Finishes (.start line) outcome := by
  cases read with
  | noKeyword => exact .rejected .refl
  | unknown found _ _ =>
    exact .rejected (.head (advance_of_scanWord (by simp) found) (advances_dispatching _ _))
  | assign found _ rest =>
    exact rest.finishes.before
      (.head (advance_of_scanWord (by simp) found) (advances_dispatching _ _))
  | print found _ rest =>
    exact rest.finishes.before
      (.head (advance_of_scanWord (by simp) found) (advances_dispatching _ _))

end Reading

end LineBasic
