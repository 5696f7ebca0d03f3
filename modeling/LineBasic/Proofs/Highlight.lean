import LineBasic.Diagnostic
import Mathlib.Order.Monotone.Basic

/-!
# Characters under any span

A span is two numbers of bytes, and nothing says that they fit the text they
are about: they may lie past its end, inside a character or in the wrong
order. What is highlighted is still a stretch of the text, and it consists of
the characters that begin under the span.

* **one number** — character `k` is among the first `charOffset source place`
  if and only if it begins before `place` (`lt_charOffset_iff`), so this count
  is bounded by the length of the text, monotone in the place, and the same for
  every place past the end (`charOffset_le_length`, `charOffset_mono`,
  `charOffset_min`); going through the characters up to the first that begins
  too late gives the same count (`charOffset_eq_length_takeWhile`);
* **two numbers** — hence the characters that a span highlights
  (`Span.highlight_iff`, `every_span_highlights_its_characters`).
-/

namespace LineBasic

/-- The place of the first byte of character `k`: the bytes of the characters
before it. -/
def firstByte (source : Text) (k : Nat) : Nat := byteSize (source.take k)

theorem firstByte_zero (source : Text) : firstByte source 0 = 0 := rfl

theorem firstByte_cons_succ (c : Char) (rest : Text) (k : Nat) :
    firstByte (c :: rest) (k + 1) = c.utf8Size + firstByte rest k := rfl

/-- Every character begins before the end of the text. -/
theorem firstByte_lt_byteSize {source : Text} {k : Nat} (there : k < source.length) :
    firstByte source k < byteSize source := by
  have nonempty : source.drop k ≠ [] := mt List.drop_eq_nil_iff.1 (Nat.not_le_of_lt there)
  calc firstByte source k < firstByte source k + byteSize (source.drop k) :=
        Nat.lt_add_of_pos_right (byteSize_pos nonempty)
    _ = byteSize source := by
        rw [firstByte, ← byteSize_append, List.take_append_drop]

/-! ## One number -/

theorem lt_charOffset_iff {source : Text} {k place : Nat} :
    k < charOffset source place ↔ k < source.length ∧ firstByte source k < place := by
  induction source generalizing k place with
  | nil => simp [charOffset]
  | cons c rest ih =>
    rw [charOffset]
    split
    case isTrue start => simp [start]
    case isFalse behind =>
      cases k with
      | zero => simp [firstByte_zero, Nat.pos_of_ne_zero behind]
      | succ k =>
        -- without the first character everything stands its bytes further left
        rw [List.length_cons, Nat.add_lt_add_iff_right, Nat.add_lt_add_iff_right, ih,
          firstByte_cons_succ, Nat.lt_sub_iff_add_lt']

theorem charOffset_le_length (source : Text) (place : Nat) :
    charOffset source place ≤ source.length :=
  le_of_forall_lt fun _ counted => (lt_charOffset_iff.1 counted).1

theorem charOffset_mono (source : Text) : Monotone (charOffset source) := by
  intro place later le
  refine le_of_forall_lt fun k counted => ?_
  obtain ⟨there, before⟩ := lt_charOffset_iff.1 counted
  exact lt_charOffset_iff.2 ⟨there, before.trans_le le⟩

theorem charOffset_min (source : Text) (place : Nat) :
    charOffset source (min place (byteSize source)) = charOffset source place := by
  refine eq_of_forall_lt_iff fun k => ?_
  rw [lt_charOffset_iff, lt_charOffset_iff, Nat.lt_min]
  exact and_congr_right fun there => and_iff_left (firstByte_lt_byteSize there)

/-- A count that stops at the first character to begin at the place or behind
it. -/
theorem length_takeWhile_firstByte (source : Text) (place : Nat) :
    ((List.range source.length).takeWhile fun k => firstByte source k < place).length =
      charOffset source place := by
  induction source generalizing place with
  | nil => rfl
  | cons c rest ih =>
    have further : (fun k => decide (firstByte (c :: rest) k < place)) ∘ Nat.succ =
        fun k => decide (firstByte rest k < place - c.utf8Size) :=
      funext fun _ => decide_eq_decide.2 Nat.lt_sub_iff_add_lt'.symm
    rw [List.length_cons, List.range_succ_eq_map, List.takeWhile_cons, List.takeWhile_map,
      further, charOffset]
    split
    case isTrue counted =>
      have behind : place ≠ 0 := Nat.ne_of_gt (of_decide_eq_true counted)
      rw [if_neg behind, List.length_cons, List.length_map, ih]
    case isFalse late =>
      have start : place = 0 := Nat.eq_zero_of_not_pos fun behind => late (decide_eq_true behind)
      rw [if_pos start, List.length_nil]

/-- The place may be cut down to the bytes of the text before counting. -/
theorem charOffset_eq_length_takeWhile (source : Text) (place : Nat) :
    charOffset source place = ((List.range source.length).takeWhile
      fun k => firstByte source k < min place (byteSize source)).length := by
  rw [length_takeWhile_firstByte, charOffset_min]

/-! ## Two numbers -/

namespace Span

variable (span : Span) (source : Text)

theorem highlight_le : (span.highlight source).1 ≤ (span.highlight source).2 :=
  Nat.le_max_right _ _

theorem highlight_le_length : (span.highlight source).2 ≤ source.length :=
  Nat.max_le.2 ⟨charOffset_le_length source span.stop, charOffset_le_length source span.start⟩

theorem highlight_iff (k : Nat) :
    (span.highlight source).1 ≤ k ∧ k < (span.highlight source).2 ↔
      k < source.length ∧ span.start ≤ firstByte source k ∧ firstByte source k < span.stop := by
  have start : k < charOffset source span.start ↔
      k < source.length ∧ firstByte source k < span.start := lt_charOffset_iff
  have stop : k < charOffset source span.stop ↔
      k < source.length ∧ firstByte source k < span.stop := lt_charOffset_iff
  show charOffset source span.start ≤ k ∧
    k < max (charOffset source span.stop) (charOffset source span.start) ↔ _
  -- where the maximum is not the count up to the second number, both sides are false
  omega

end Span

/-- **Every span highlights its characters.** Places are turned into characters
by a count of first bytes up to the place, or up to the end of the text if that
comes first. Whatever its two numbers are, a span then highlights a stretch of
the text, and a character is in it if and only if its first byte is under the
span. -/
theorem every_span_highlights_its_characters (source : Text) (span : Span) :
    (∀ place, charOffset source place = ((List.range source.length).takeWhile
      fun k => firstByte source k < min place (byteSize source)).length) ∧
    Monotone (charOffset source) ∧
    (span.highlight source).1 ≤ (span.highlight source).2 ∧
    (span.highlight source).2 ≤ source.length ∧
    ∀ k, (span.highlight source).1 ≤ k ∧ k < (span.highlight source).2 ↔
      k < source.length ∧ span.start ≤ firstByte source k ∧ firstByte source k < span.stop :=
  ⟨charOffset_eq_length_takeWhile source, charOffset_mono source, span.highlight_le source,
    span.highlight_le_length source, span.highlight_iff source⟩

/-- A span from inside the first character into the second, one past the end
and one that stops before it starts. -/
example :
    [(⟨1, 4⟩ : Span), ⟨3, 99⟩, ⟨4, 1⟩].map (·.highlight ['é', '∑', 'x']) =
      [(1, 2), (2, 3), (2, 2)] := by
  decide

end LineBasic
