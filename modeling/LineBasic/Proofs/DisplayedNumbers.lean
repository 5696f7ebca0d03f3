import LineBasic.Statement
import LineBasic.Proofs.FloatPatterns
import LineBasic.Proofs.Numerals
import LineBasic.Proofs.ShortestDigits

/-!
# Displayed numbers

The text of a number is a word if the number is infinite or not a number at all,
`0` for the zeros, and otherwise a numeral (`shown_displayBits`). The digits of the
numeral identify the number, so that a text stands for one number only
(`Shown.bits_eq`).

Main result: **`display_identifies_number`**.
-/

namespace LineBasic

open Double DecimalDigits

/-- One of the two zeros. -/
def Double.IsZero (d : Double) : Prop := ∃ negative exponent, d = .finite negative 0 exponent

/-- The text of a number, by the kind of the number. -/
inductive Shown (bits : UInt64) : Text → Prop
  | nan : ofBits bits = .nan → Shown bits "NaN".toList
  | infinite (negative : Bool) : ofBits bits = .infinite negative →
      Shown bits (signed negative "Infinity".toList)
  | zero : (ofBits bits).IsZero → Shown bits "0".toList
  | numeral {negative : Bool} {significand : Nat} {exponent : Int} {text : Text} {q : ℚ} :
      ofBits bits = .finite negative significand exponent → significand ≠ 0 → q ≠ 0 →
      numeralValue? text = some q →
      Identifies (significantDigits text).length q (ofBits bits) → Shown bits text

/-! ## Every number -/

/-- The text of the number with a pattern. -/
def displayBits (bits : UInt64) : Text := (Value.number (Float.ofBits bits)).display

theorem displayBits_eq (bits : UInt64) :
    displayBits bits = (ofBits bits).display printedNumbers := by
  rw [displayBits, Value.display, displayNumber, ofFloat_ofBits]

theorem display_ranked (negative : Bool) {rank : Nat} (positive : 0 < rank)
    (finite : rank < infinityBits) (layout : NumberLayout) :
    (ranked negative rank).display layout = signed negative ((ofRank rank).layOut layout) := by
  have some := significandAt_pos positive
  rw [ranked, if_neg finite.ne, Double.display, if_neg some.ne']
  rfl

theorem signFactor_ne_zero (negative : Bool) : signFactor negative ≠ 0 := by
  cases negative <;> simp [signFactor]

theorem value_finite_ne_zero (negative : Bool) {significand : Nat} (nonzero : significand ≠ 0)
    (exponent : Int) : (Double.finite negative significand exponent).value ≠ 0 := by
  have some : (significand : ℚ) ≠ 0 := by exact_mod_cast nonzero
  exact mul_ne_zero (signFactor_ne_zero negative) (mul_ne_zero some (two_zpow_pos _).ne')

/-- A number that is finite and not zero is shown by its shortest digits. -/
theorem shown_ranked {bits : UInt64} {negative : Bool} {rank : Nat} (positive : 0 < rank)
    (finite : rank < infinityBits) (pattern : ofBits bits = ranked negative rank) :
    Shown bits (signed negative ((ofRank rank).layOut printedNumbers)) := by
  have normal := normal_ofRank positive
  have kind : ofBits bits = .finite negative (significandAt rank) (exponentAt rank) := by
    rw [pattern, ranked, if_neg finite.ne]
  refine .numeral kind (significandAt_pos positive).ne' ?_
    (numeralValue?_signed negative (decimalValue?_layOut normal printedNumbers)) ?_
  · exact mul_ne_zero (signFactor_ne_zero negative) normal.value_pos.ne'
  · rw [pattern, significantDigits_signed, significantDigits_layOut normal]
    exact identifies_signed positive negative finite

/-- **Every number is shown by its text.** -/
theorem shown_displayBits (bits : UInt64) : Shown bits (displayBits bits) := by
  rw [displayBits_eq]
  cases kind : ofBits bits with
  | nan => exact .nan kind
  | infinite negative => exact .infinite negative kind
  | finite negative significand exponent =>
    obtain ⟨rank, finite, rfl, rfl⟩ := exists_rank kind
    by_cases zero : significandAt rank = 0
    · rw [zero] at kind ⊢
      exact .zero ⟨negative, _, kind⟩
    · have positive := pos_of_significandAt_ne_zero zero
      have same : Double.finite negative (significandAt rank) (exponentAt rank) =
          ranked negative rank := by rw [ranked, if_neg finite.ne]
      rw [same] at kind ⊢
      rw [display_ranked negative positive finite]
      exact shown_ranked positive finite kind

/-! ## The kinds are told apart -/

theorem numeralValue?_nan : numeralValue? "NaN".toList = none := rfl

theorem numeralValue?_infinity (negative : Bool) :
    numeralValue? (signed negative "Infinity".toList) = none := by
  cases negative <;> rfl

theorem numeralValue?_zero : numeralValue? "0".toList = some 0 := by
  have read := decimalValue?_whole (allDigits_zeros 1) (by simp) (stops_nil isDigit) (by simp)
  have zero : scaledValue (List.replicate 1 '0') 0 = 0 := by
    rw [scaledValue, digitsValue_zeros]
    simp
  rw [exponentValue?, Option.map_some, zero] at read
  exact read

section

variable {bits : UInt64} {text : Text} (shown : Shown bits text)

include shown

theorem Shown.nan_iff : text = "NaN".toList ↔ ofBits bits = .nan := by
  cases shown with
  | nan kind => simp [kind]
  | infinite negative kind => cases negative <;> simp [kind, signed]
  | zero kind =>
    obtain ⟨negative, exponent, kind⟩ := kind
    simp [kind]
  | numeral kind _ _ read _ =>
    have different : text ≠ "NaN".toList := by
      rintro rfl
      rw [numeralValue?_nan] at read
      cases read
    exact iff_of_false different (by simp [kind])

theorem Shown.infinite_iff (negative : Bool) :
    text = signed negative "Infinity".toList ↔ ofBits bits = .infinite negative := by
  cases shown with
  | nan kind => cases negative <;> simp [kind, signed]
  | infinite negative' kind => cases negative <;> cases negative' <;> simp [kind, signed]
  | zero kind =>
    obtain ⟨negative', exponent, kind⟩ := kind
    cases negative <;> simp [kind, signed]
  | numeral kind _ _ read _ =>
    have different : text ≠ signed negative "Infinity".toList := by
      rintro rfl
      rw [numeralValue?_infinity] at read
      cases read
    exact iff_of_false different (by simp [kind])

theorem Shown.zero_iff : text = "0".toList ↔ (ofBits bits).IsZero := by
  cases shown with
  | nan kind => simp [kind, Double.IsZero]
  | infinite negative kind => cases negative <;> simp [kind, signed, Double.IsZero]
  | zero kind => simp [kind]
  | numeral kind nonzero nonzero' read _ =>
    have different : text ≠ "0".toList := by
      rintro rfl
      rw [numeralValue?_zero] at read
      exact nonzero' (Option.some.inj read).symm
    exact iff_of_false different (by simp [kind, Double.IsZero, nonzero])

end

theorem eq_of_infinite {bits bits' : UInt64} {negative : Bool}
    (kind : ofBits bits = .infinite negative) (kind' : ofBits bits' = .infinite negative) :
    bits' = bits := by
  have same := eq_or_zero_of_value_eq (by simp [kind'] : ofBits bits' ≠ .nan)
    (by simp [kind] : ofBits bits ≠ .nan) (by rw [kind, kind'])
  refine same.resolve_right ?_
  rw [kind']
  exact mul_ne_zero (signFactor_ne_zero negative) (by positivity)

/-- **A text stands for one number**, but for the two zeros and what is not a
number. -/
theorem Shown.bits_eq {bits bits' : UInt64} {text : Text} (shown : Shown bits text)
    (shown' : Shown bits' text) :
    bits' = bits ∨ (ofBits bits').IsZero ∧ (ofBits bits).IsZero ∨
      ofBits bits' = .nan ∧ ofBits bits = .nan := by
  cases shown' with
  | nan kind' => exact .inr (.inr ⟨kind', shown.nan_iff.mp rfl⟩)
  | infinite negative kind' =>
    exact .inl (eq_of_infinite ((shown.infinite_iff negative).mp rfl) kind')
  | zero kind' => exact .inr (.inl ⟨kind', shown.zero_iff.mp rfl⟩)
  | numeral kind' nonzero nonzero' read' identifies' =>
    left
    cases shown with
    | nan kind => rw [numeralValue?_nan] at read'; cases read'
    | infinite negative kind => rw [numeralValue?_infinity] at read'; cases read'
    | zero kind =>
      rw [numeralValue?_zero] at read'
      exact absurd (Option.some.inj read').symm nonzero'
    | numeral kind _ _ read identifies =>
      have same := Option.some.inj (read'.symm.trans read)
      rw [same] at identifies'
      have values := identifies'.rounds.unique identifies.rounds
      refine (eq_or_zero_of_value_eq identifies'.rounds.number identifies.rounds.number
        values).resolve_right ?_
      rw [kind']
      exact value_finite_ne_zero _ nonzero _

theorem displayBits_eq_iff (bits bits' : UInt64) :
    displayBits bits' = displayBits bits ↔
      bits' = bits ∨ (ofBits bits').IsZero ∧ (ofBits bits).IsZero ∨
        ofBits bits' = .nan ∧ ofBits bits = .nan := by
  have shown := shown_displayBits bits
  have shown' := shown_displayBits bits'
  constructor
  · intro same
    rw [same] at shown'
    exact shown.bits_eq shown'
  · rintro (rfl | ⟨zero', zero⟩ | ⟨nan', nan⟩)
    · rfl
    · rw [shown'.zero_iff.mpr zero', shown.zero_iff.mpr zero]
    · rw [shown'.nan_iff.mpr nan', shown.nan_iff.mpr nan]

/-- **The text of a number identifies it.** Only what is not a number, infinities
and zeros have texts of their own. The text of any other number is a numeral that
rounds to it, no decimal of fewer digits does, and none of as many is nearer. -/
theorem display_identifies_number (bits : UInt64) :
    (displayBits bits = "NaN".toList ↔ ofBits bits = .nan) ∧
      (displayBits bits = "Infinity".toList ↔ ofBits bits = .infinite false) ∧
      (displayBits bits = "-Infinity".toList ↔ ofBits bits = .infinite true) ∧
      (displayBits bits = "0".toList ↔ (ofBits bits).IsZero) ∧
      (ofBits bits = .nan ∨ (∃ negative, ofBits bits = .infinite negative) ∨
        (ofBits bits).IsZero ∨
        ∃ q, numeralValue? (displayBits bits) = some q ∧
          Identifies (significantDigits (displayBits bits)).length q (ofBits bits)) ∧
      ∀ bits', displayBits bits' = displayBits bits ↔
        bits' = bits ∨ (ofBits bits').IsZero ∧ (ofBits bits).IsZero ∨
          ofBits bits' = .nan ∧ ofBits bits = .nan := by
  have shown := shown_displayBits bits
  refine ⟨shown.nan_iff, shown.infinite_iff false, shown.infinite_iff true, shown.zero_iff, ?_,
    displayBits_eq_iff bits⟩
  generalize displayBits bits = text at shown ⊢
  cases shown with
  | nan kind => exact .inl kind
  | infinite negative kind => exact .inr (.inl ⟨negative, kind⟩)
  | zero kind => exact .inr (.inr (.inl kind))
  | numeral _ _ _ read identifies => exact .inr (.inr (.inr ⟨_, read, identifies⟩))

/-- The least positive number: of the five decimals of one digit that round to
it, `3e-324` to `7e-324`, it is shown by the nearest. -/
example : displayBits 1 = "5e-324".toList := by decide +kernel

end LineBasic
