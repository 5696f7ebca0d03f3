import LineBasic.Number.Nearest
import LineBasic.Proofs.Characters
import LineBasic.Proofs.DecimalGrid

/-!
# Runs of digits

What a run of decimal digits spells, and the numerals that the digits of a
number are: a number has one numeral in *normal* form, with a point before its
digits and no zeros at their ends, and that has the fewest digits
(`DecimalDigits.Normal.length_le`). Stripping the zeros behind the digits of a
multiple of a power of ten gives that form (`DecimalDigits.normal_ofScaled`).
-/

namespace LineBasic

/-- All characters are decimal digits. -/
def AllDigits (t : Text) : Prop := ∀ c ∈ t, isDigit c = true

theorem allDigits_append {t u : Text} : AllDigits (t ++ u) ↔ AllDigits t ∧ AllDigits u :=
  List.forall_mem_append

theorem AllDigits.take_drop {t : Text} (digits : AllDigits t) (n : Nat) :
    AllDigits (t.take n) ∧ AllDigits (t.drop n) := by
  rw [← allDigits_append, List.take_append_drop]
  exact digits

theorem allDigits_zeros (count : Nat) : AllDigits (List.replicate count '0') := by
  intro c member
  rw [List.eq_of_mem_replicate member]
  decide

theorem allDigits_toDigits (n : Nat) : AllDigits (Nat.toDigits 10 n) := by
  intro c member
  have := Nat.isDigit_of_mem_toDigits (by decide) (by decide) member
  rw [Char.isDigit, Bool.and_eq_true, decide_eq_true_iff, decide_eq_true_iff] at this
  exact isDigit_iff.mpr this

@[simp]
theorem digitsValue_nil : digitsValue [] = 0 := rfl

theorem digitsValue_append (t u : Text) :
    digitsValue (t ++ u) = digitsValue t * 10 ^ u.length + digitsValue u := by
  rw [digitsValue, Nat.ofDigitChars_append, Nat.ofDigitChars_eq_ofDigitChars_zero, mul_comm]
  rfl

theorem digitsValue_singleton (c : Char) : digitsValue [c] = c.toNat - 48 := by
  simp [digitsValue, Nat.ofDigitChars_cons]

theorem digitsValue_cons (c : Char) (t : Text) :
    digitsValue (c :: t) = (c.toNat - 48) * 10 ^ t.length + digitsValue t := by
  rw [← List.singleton_append, digitsValue_append, digitsValue_singleton]

@[simp]
theorem digitsValue_zeros (count : Nat) : digitsValue (List.replicate count '0') = 0 := by
  simp [digitsValue]

@[simp]
theorem digitsValue_toDigits (n : Nat) : digitsValue (Nat.toDigits 10 n) = n :=
  Nat.ofDigitChars_ten_toDigits

/-- A run of digits spells less than the power of ten with as many zeros. -/
theorem digitsValue_lt {t : Text} (digits : AllDigits t) : digitsValue t < 10 ^ t.length := by
  induction t with
  | nil => simp
  | cons c t ih =>
    have digit := isDigit_iff.mp (digits c List.mem_cons_self)
    have rest := ih fun d member => digits d (List.mem_cons_of_mem _ member)
    have first : (c.toNat - 48) * 10 ^ t.length ≤ 9 * 10 ^ t.length :=
      Nat.mul_le_mul_right _ (by omega)
    rw [digitsValue_cons, List.length_cons, pow_succ]
    omega

theorem digit_pos {c : Char} (digit : isDigit c = true) (nonzero : c ≠ '0') :
    0 < c.toNat - 48 ∧ c.toNat - 48 < 10 := by
  have bounds := isDigit_iff.mp digit
  have : c.toNat ≠ 48 := fun same => nonzero (Char.toNat_inj.mp same)
  omega

/-- Without a zero in front, not less than the power of ten with one zero less. -/
theorem le_digitsValue {c : Char} {t : Text} (digits : AllDigits (c :: t)) (nonzero : c ≠ '0') :
    10 ^ t.length ≤ digitsValue (c :: t) := by
  have first := (digit_pos (digits c List.mem_cons_self) nonzero).1
  have : 1 * 10 ^ t.length ≤ (c.toNat - 48) * 10 ^ t.length := Nat.mul_le_mul_right _ first
  rw [digitsValue_cons]
  omega

/-- A run of digits without a zero at its end is not a multiple of ten. -/
theorem digitsValue_concat_mod {c : Char} {t : Text} (digit : isDigit c = true)
    (nonzero : c ≠ '0') : digitsValue (t ++ [c]) % 10 ≠ 0 := by
  have last := digit_pos digit nonzero
  rw [digitsValue_append, digitsValue_singleton, List.length_singleton]
  omega

theorem digitChar_sub {c : Char} (digit : isDigit c = true) :
    Nat.digitChar (c.toNat - 48) = c := by
  have bounds := isDigit_iff.mp digit
  apply Char.toNat_inj.mp
  rw [Nat.toNat_digitChar_of_lt_ten (by omega)]
  omega

/-- A run of digits without a zero in front is the numeral of its number. -/
theorem toDigits_digitsValue {c : Char} {t : Text} (digits : AllDigits (c :: t))
    (nonzero : c ≠ '0') : Nat.toDigits 10 (digitsValue (c :: t)) = c :: t := by
  induction t using List.reverseRecOn with
  | nil =>
    have digit := digits c List.mem_cons_self
    have below := (digit_pos digit nonzero).2
    rw [digitsValue_singleton, Nat.toDigits_of_lt_base below, digitChar_sub digit]
  | append_singleton t d ih =>
    rw [← List.cons_append] at digits ⊢
    obtain ⟨front, last⟩ := allDigits_append.mp digits
    have digit := last d List.mem_cons_self
    have bounds := isDigit_iff.mp digit
    have below : d.toNat - 48 < 10 := by omega
    have positive : 0 < digitsValue (c :: t) :=
      (Nat.pow_pos (by decide)).trans_le (le_digitsValue front nonzero)
    have whole : digitsValue ((c :: t) ++ [d]) = 10 * digitsValue (c :: t) + (d.toNat - 48) := by
      rw [digitsValue_append, digitsValue_singleton, List.length_singleton, pow_one, mul_comm]
    rw [whole, ← Nat.toDigits_append_toDigits (by decide) positive below, ih front,
      Nat.toDigits_of_lt_base below, digitChar_sub digit]

namespace DecimalDigits

/-- The number `0.d₁…dₖ * 10 ^ point`. -/
def value (d : DecimalDigits) : ℚ :=
  digitsValue d.digits * 10 ^ (d.point - d.digits.length)

/-- The digits neither begin nor end with a zero. -/
structure Normal (d : DecimalDigits) : Prop where
  digits : AllDigits d.digits
  front : ∃ c t, d.digits = c :: t ∧ c ≠ '0'
  back : ∃ t c, d.digits = t ++ [c] ∧ c ≠ '0'

theorem hasDigits_value {d : DecimalDigits} (digits : AllDigits d.digits) :
    HasDigits d.digits.length d.value := by
  refine ⟨digitsValue d.digits, d.point - d.digits.length, ?_, rfl⟩
  exact digitsValue_lt digits

section

variable {d : DecimalDigits} (normal : d.Normal)

include normal

theorem Normal.length_pos : 0 < d.digits.length := by
  obtain ⟨c, t, same, _⟩ := normal.front
  simp [same]

theorem Normal.le_digitsValue : 10 ^ (d.digits.length - 1) ≤ digitsValue d.digits := by
  obtain ⟨c, t, same, nonzero⟩ := normal.front
  have digits := normal.digits
  rw [same] at digits ⊢
  exact LineBasic.le_digitsValue digits nonzero

theorem Normal.mod_ten : digitsValue d.digits % 10 ≠ 0 := by
  obtain ⟨t, c, same, nonzero⟩ := normal.back
  have digits := normal.digits
  rw [same] at digits ⊢
  exact digitsValue_concat_mod (digits c (by simp)) nonzero

/-- **The point tells the size of the number.** -/
theorem Normal.value_bounds :
    (10 : ℚ) ^ (d.point - 1) ≤ d.value ∧ d.value < (10 : ℚ) ^ d.point := by
  have some := normal.length_pos
  have step := ten_zpow_pos (d.point - d.digits.length)
  have least : ((10 ^ (d.digits.length - 1) : Nat) : ℚ) ≤ digitsValue d.digits := by
    exact_mod_cast normal.le_digitsValue
  have most : (digitsValue d.digits : ℚ) < ((10 ^ d.digits.length : Nat) : ℚ) := by
    exact_mod_cast digitsValue_lt normal.digits
  have floor : (10 : ℚ) ^ (d.point - 1) =
      ((10 ^ (d.digits.length - 1) : Nat) : ℚ) * 10 ^ (d.point - d.digits.length) := by
    rw [← cast_zpow (show d.point - d.digits.length ≤ d.point - 1 by omega)]
    congr 3
    omega
  have ceiling : (10 : ℚ) ^ d.point =
      ((10 ^ d.digits.length : Nat) : ℚ) * 10 ^ (d.point - d.digits.length) := by
    rw [← cast_zpow (show d.point - d.digits.length ≤ d.point by omega)]
    congr 3
    omega
  rw [floor, ceiling, value]
  constructor <;> gcongr

theorem Normal.value_pos : 0 < d.value :=
  (ten_zpow_pos _).trans_le normal.value_bounds.1

/-- **No decimal of fewer digits is the same number.** -/
theorem Normal.length_le {count : Nat} (spelled : HasDigits count d.value) :
    d.digits.length ≤ count := by
  obtain ⟨n, e, few, same⟩ := spelled.exists_nat normal.value_pos
  have ten : (10 : ℚ) ^ (d.point - d.digits.length) ≠ 0 := (ten_zpow_pos _).ne'
  by_cases longer : d.point - d.digits.length < e
  · -- Otherwise the last digit would be a zero.
    rw [← cast_mul_zpow n longer.le, value] at same
    have whole : digitsValue d.digits = n * 10 ^ (e - (d.point - d.digits.length)).toNat := by
      exact_mod_cast mul_right_cancel₀ ten same
    have tens : 10 ∣ 10 ^ (e - (d.point - d.digits.length)).toNat := dvd_pow_self 10 (by omega)
    exact absurd (Nat.mod_eq_zero_of_dvd (whole ▸ tens.mul_left n)) normal.mod_ten
  · rw [value, ← cast_mul_zpow (digitsValue d.digits) (not_lt.mp longer)] at same
    have whole : digitsValue d.digits * 10 ^ (d.point - d.digits.length - e).toNat = n := by
      exact_mod_cast mul_right_cancel₀ (ten_zpow_pos e).ne' same
    have more : digitsValue d.digits ≤ n := by
      rw [← whole]
      exact Nat.le_mul_of_pos_right _ (by positivity)
    have := (Nat.pow_lt_pow_iff_right (by norm_num)).mp
      ((normal.le_digitsValue.trans more).trans_lt few)
    omega

end

/-! ## Stripping zeros -/

/-- The digits of a natural number without the zeros at their end. -/
def kept (n : Nat) : Text := ((Nat.toDigits 10 n).reverse.dropWhile (· == '0')).reverse

theorem ofScaled_eq (n : Nat) (e : Int) :
    ofScaled n e = ⟨kept n, (Nat.toDigits 10 n).length + e⟩ := rfl

theorem exists_kept_zeros (n : Nat) :
    ∃ zeros, Nat.toDigits 10 n = kept n ++ List.replicate zeros '0' := by
  let stripped := (Nat.toDigits 10 n).reverse.takeWhile (· == '0')
  refine ⟨stripped.length, ?_⟩
  have same : stripped = List.replicate stripped.length '0' := by
    rw [List.eq_replicate_iff]
    refine ⟨rfl, fun c member => ?_⟩
    simpa using List.mem_takeWhile_imp member
  rw [← List.reverse_replicate, ← same, kept, ← List.reverse_append,
    List.takeWhile_append_dropWhile, List.reverse_reverse]

theorem value_ofScaled (n : Nat) (e : Int) : (ofScaled n e).value = n * 10 ^ e := by
  obtain ⟨zeros, split⟩ := exists_kept_zeros n
  have spelled : digitsValue (kept n) * 10 ^ zeros = n := by
    have whole := digitsValue_toDigits n
    rw [split, digitsValue_append] at whole
    simpa using whole
  have place : ((Nat.toDigits 10 n).length : Int) + e - (kept n).length = e + zeros := by
    rw [split]
    simp
    ring
  rw [ofScaled_eq, value]
  simp only
  rw [place, zpow_add₀ (by norm_num), zpow_natCast]
  conv_rhs => rw [← spelled]
  push_cast
  ring

/-- The numeral of a positive number does not begin with a zero. -/
theorem toDigits_front {n : Nat} (positive : 0 < n) :
    ∃ c t, Nat.toDigits 10 n = c :: t ∧ c ≠ '0' := by
  cases spelled : Nat.toDigits 10 n with
  | nil => exact absurd spelled Nat.toDigits_ne_nil
  | cons c t =>
    refine ⟨c, t, rfl, ?_⟩
    rintro rfl
    have digits := allDigits_toDigits n
    have whole := digitsValue_toDigits n
    have least := (pow_le_of_length_toDigits positive).1
    rw [spelled] at digits whole least
    have rest := digitsValue_lt fun d member => digits d (List.mem_cons_of_mem _ member)
    rw [digitsValue_cons] at whole
    simp at whole least
    omega

theorem normal_ofScaled {n : Nat} (e : Int) (positive : 0 < n) : (ofScaled n e).Normal := by
  obtain ⟨zeros, split⟩ := exists_kept_zeros n
  have digits := allDigits_toDigits n
  have whole := digitsValue_toDigits n
  rw [split, allDigits_append] at digits
  rw [split, digitsValue_append] at whole
  have some : kept n ≠ [] := by
    intro nothing
    rw [nothing] at whole
    simp at whole
    omega
  rw [ofScaled_eq]
  refine ⟨digits.1, ?_, ?_⟩
  · obtain ⟨c, t, same, nonzero⟩ := toDigits_front positive
    rw [split] at same
    cases here : kept n with
    | nil => exact absurd here some
    | cons d u =>
      rw [here, List.cons_append] at same
      exact ⟨d, u, rfl, (List.cons.inj same).1 ▸ nonzero⟩
  · have stops := List.head?_dropWhile_not (· == '0') (Nat.toDigits 10 n).reverse
    cases back : (Nat.toDigits 10 n).reverse.dropWhile (· == '0') with
    | nil => exact absurd (by rw [kept, back]; rfl) some
    | cons c t =>
      rw [back] at stops
      refine ⟨t.reverse, c, ?_, by simpa using stops⟩
      simp only
      rw [kept, back, List.reverse_cons]

end DecimalDigits

end LineBasic
