import LineBasic.Proofs.Literals
import LineBasic.Proofs.PointPosition

/-!
# Whole numbers survive

A double that is a whole number below `10 ^ 21` is displayed as a run of digits.
Its shortest digits are never more than the places before its point: a power of
ten that lies between them and the number would have been nearer
(`length_le_point`). The digits, with zeros up to the point, spell a number that
rounds to the double again, although not always the number itself
(`wholeNumeral_displayBits`).

* **reading the text back** — as a literal it denotes a double with the same text
  (`WholeNumeral.reprints`);
* **small numbers** — up to `2 ^ 53` the text is the numeral of the number
  (`displayNumber_literalValue`).

Main result: **`whole_numbers_survive`**.
-/

namespace LineBasic

open Double DecimalDigits

/-! ## The point of a whole number -/

/-- A power of ten has one digit. -/
theorem hasDigits_power {count : Nat} (some : 0 < count) (k : Nat) :
    HasDigits count ((10 : ℚ) ^ k) := by
  have single : HasDigits 1 ((10 : ℚ) ^ k) := ⟨1, k, by decide, by simp⟩
  exact single.mono some

theorem value_ranked {rank : Nat} (within : rank ≤ infinityBits) :
    (ranked false rank).value = magnitude rank := by
  rw [(at_ranked false within).value]
  exact valueAt_natCast rank

theorem roundsTo_magnitude {rank : Nat} (within : rank ≤ infinityBits) :
    RoundsTo (magnitude rank) (ranked false rank) := by
  obtain ⟨bits, pattern⟩ := exists_ofBits false within
  have number : ofBits bits ≠ .nan := pattern ▸ (at_ranked false within).number
  rw [← value_ranked within, ← pattern]
  exact .self number

/-- What lies between a number that rounds to a double and the double rounds to it. -/
theorem roundsTo_of_between {rank : Nat} (positive : 0 < rank) (finite : rank < infinityBits)
    {q r : ℚ} (rounds : RoundsTo q (ranked false rank)) (le : q ≤ r)
    (below : r ≤ magnitude rank) : RoundsTo r (ranked false rank) := by
  rw [← contains_interval_iff positive finite] at rounds ⊢
  refine (proper_interval positive).contains_of_below rounds le ?_
  rw [center_interval]
  exact below

section Point

variable {rank n : Nat} (positive : 0 < rank) (finite : rank < infinityBits)
  (whole : magnitude rank = n)

theorem magnitude_leastScientific : magnitude leastScientific = 10 ^ 21 := by
  have significand : significandAt leastScientific = 7629394531250000 := by decide
  have exponent : exponentAt leastScientific = 17 := by decide
  rw [magnitude, significand, exponent]
  norm_num

include positive finite whole

theorem point_le_of_lt (small : n < 10 ^ 21) : (ofRank rank).point ≤ 21 := by
  have below : rank < leastScientific := by
    rw [← magnitude_strictMono.lt_iff_lt, magnitude_leastScientific, whole]
    exact_mod_cast small
  have before := (point_lt_iff positive finite (by decide) (by decide) limits.2.2).mpr below
  omega

/-- **No digit of a whole number is behind its point.** -/
theorem length_le_point : ((ofRank rank).digits.length : Int) ≤ (ofRank rank).point := by
  have normal := normal_ofRank positive
  have identifies := identifies_ofRank positive finite
  have value := value_ranked finite.le
  have some : 0 < n := by
    have above := magnitude_strictMono positive
    rw [magnitude_zero, whole] at above
    exact_mod_cast above
  obtain ⟨least, most⟩ := pow_le_of_length_toDigits some
  have fewest := identifies.fewest n (Nat.toDigits 10 n).length
    (whole ▸ roundsTo_magnitude finite.le) ⟨n, 0, by simpa using most, by simp⟩
  by_contra! beyond
  -- the leading power of ten is above the shortest digits and not above the number
  have less : (ofRank rank).value < 10 ^ ((Nat.toDigits 10 n).length - 1) := by
    refine normal.value_bounds.2.trans_le ?_
    rw [← zpow_natCast]
    exact zpow_le_zpow_right₀ (by norm_num) (by omega)
  have le : (10 : ℚ) ^ ((Nat.toDigits 10 n).length - 1) ≤ n := by exact_mod_cast least
  have rounds := roundsTo_of_between positive finite identifies.rounds less.le (whole ▸ le)
  have nearest := identifies.nearest _ rounds (hasDigits_power normal.length_pos _)
  rw [value, whole, abs_of_nonpos (by linarith), abs_of_nonpos (by linarith)] at nearest
  linarith

end Point

/-! ## The text of a whole number -/

/-- A run of digits without a zero in front, of a number that rounds to a double. -/
structure WholeNumeral (text : Text) (bits : UInt64) : Prop where
  digits : AllDigits text
  front : ∃ c t, text = c :: t ∧ c ≠ '0'
  rounds : RoundsTo (digitsValue text) (ofBits bits)

theorem WholeNumeral.isNumber {text : Text} {bits : UInt64} (numeral : WholeNumeral text bits) :
    IsNumber text := by
  obtain ⟨c, t, rfl, _⟩ := numeral.front
  exact ⟨c, t, rfl, numeral.digits c List.mem_cons_self,
    fun d member => numeral.digits d (List.mem_cons_of_mem c member)⟩

/-- Digits with zeros up to their point spell their number. -/
theorem cast_digitsValue_zeros {d : DecimalDigits} (behind : d.digits.length ≤ d.point) :
    (digitsValue (d.digits ++ List.replicate (d.point - d.digits.length).toNat '0') : ℚ) =
      d.value := by
  have zeros : ((d.point - d.digits.length).toNat : Int) = d.point - d.digits.length :=
    Int.toNat_of_nonneg (by omega)
  rw [digitsValue_append, digitsValue_zeros, add_zero, List.length_replicate, Nat.cast_mul,
    Nat.cast_pow, Nat.cast_ofNat, ← zpow_natCast, zeros, DecimalDigits.value]

section Text

variable {bits : UInt64} {n : Nat} (number : ofBits bits ≠ .nan)
  (whole : (ofBits bits).value = n)

include number whole

/-- A whole number that is not zero has a rank, and no sign. -/
theorem exists_rank_of_whole (positive : 0 < n) (small : n < 10 ^ 21) :
    ∃ rank, 0 < rank ∧ rank < infinityBits ∧ ofBits bits = ranked false rank ∧
      magnitude rank = n := by
  have some : (0 : ℚ) < n := by exact_mod_cast positive
  have most : (n : ℚ) < 10 ^ 21 := by exact_mod_cast small
  have vast : (10 : ℚ) ^ 21 < 2 ^ 1024 := by
    calc (10 : ℚ) ^ 21 < 2 ^ 70 := by norm_num
      _ ≤ 2 ^ 1024 := pow_le_pow_right₀ (by norm_num) (by norm_num)
  cases kind : ofBits bits with
  | nan => exact absurd kind number
  | infinite negative =>
    rw [kind, Double.value] at whole
    generalize (2 : ℚ) ^ 1024 = top at whole vast
    cases negative with
    | true =>
      rw [signFactor, if_pos rfl] at whole
      linarith
    | false =>
      rw [signFactor, if_neg (by decide), one_mul] at whole
      linarith
  | finite negative significand exponent =>
    obtain ⟨rank, finite, rfl, rfl⟩ := exists_rank kind
    have value : signFactor negative * magnitude rank = n := by
      rw [← whole, kind]
      rfl
    have least : 0 ≤ magnitude rank := by
      rw [← magnitude_zero]
      exact magnitude_strictMono.monotone (Nat.zero_le rank)
    cases negative with
    | true =>
      rw [signFactor, if_pos rfl] at value
      linarith
    | false =>
      rw [signFactor, if_neg (by decide), one_mul] at value
      refine ⟨rank, ?_, finite, by rw [ranked, if_neg finite.ne], value⟩
      rw [← value, ← magnitude_zero] at some
      exact magnitude_strictMono.lt_iff_lt.mp some

/-- **A whole number is displayed as a run of digits.** -/
theorem wholeNumeral_displayBits (positive : 0 < n) (small : n < 10 ^ 21) :
    WholeNumeral (displayBits bits) bits := by
  obtain ⟨rank, positive', finite, pattern, size⟩ :=
    exists_rank_of_whole number whole positive small
  have normal := normal_ofRank positive'
  have behind := length_le_point positive' finite size
  have text : displayBits bits = (ofRank rank).digits ++
      List.replicate ((ofRank rank).point - (ofRank rank).digits.length).toNat '0' := by
    rw [displayBits_eq, pattern, display_ranked false positive' finite]
    exact (writtenAs_layOut normal).behind behind (point_le_of_lt positive' finite size small)
  rw [text]
  refine ⟨allDigits_append.mpr ⟨normal.digits, allDigits_zeros _⟩, ?_, ?_⟩
  · obtain ⟨c, t, same, nonzero⟩ := normal.front
    exact ⟨c, _, by rw [same, List.cons_append], nonzero⟩
  · rw [cast_digitsValue_zeros behind, pattern]
    exact (identifies_ofRank positive' finite).rounds

theorem isZero_of_value_zero (zero : n = 0) : (ofBits bits).IsZero := by
  rw [zero, Nat.cast_zero] at whole
  cases kind : ofBits bits with
  | nan => exact absurd kind number
  | infinite negative =>
    rw [kind] at whole
    exact absurd whole (mul_ne_zero (signFactor_ne_zero negative) (by positivity))
  | finite negative significand exponent =>
    have none : significand = 0 := by
      by_contra nonzero
      rw [kind] at whole
      exact value_finite_ne_zero negative nonzero exponent whole
    exact ⟨negative, exponent, by rw [none]⟩

end Text

theorem displayNumber_literalValue_eq (digits : Text) : displayNumber (literalValue digits) =
    displayBits (UInt64.ofNat (nearestBits (digitsValue digits))) := rfl

/-- A numeral that rounds to a double is displayed as the double is. -/
theorem WholeNumeral.reprints {text : Text} {bits : UInt64} (numeral : WholeNumeral text bits)
    (nonzero : (ofBits bits).value ≠ 0) :
    displayNumber (literalValue text) = displayBits bits := by
  have rounds := roundsTo_nearestTo (digitsValue text)
  have values := numeral.rounds.unique rounds
  have same := eq_or_zero_of_value_eq numeral.rounds.number rounds.number values
  rw [displayNumber_literalValue_eq, ← same.resolve_right nonzero]

/-- Below `2 ^ 53` the numeral is that of the number itself. -/
theorem WholeNumeral.digitsValue_eq {text : Text} {bits : UInt64} {n : Nat}
    (numeral : WholeNumeral text bits) (whole : (ofBits bits).value = n) (small : n < 2 ^ 53) :
    digitsValue text = n := by
  have within : digitsValue text ≤ 2 ^ 53 := by
    by_contra! beyond
    have le : ((2 ^ 53 : Nat) : ℚ) ≤ digitsValue text := by exact_mod_cast beyond.le
    have mono := (roundsTo_nearestTo (2 ^ 53)).mono le numeral.rounds
    rw [whole] at mono
    have value := value_nearestTo (n := 2 ^ 53) le_rfl
    rw [nearestTo] at value
    rw [value] at mono
    have : 2 ^ 53 ≤ n := by exact_mod_cast mono
    omega
  have values := numeral.rounds.unique (roundsTo_nearestTo (digitsValue text))
  have value := value_nearestTo within
  rw [nearestTo] at value
  rw [whole, value] at values
  exact_mod_cast values.symm

/-- **Up to `2 ^ 53`, a literal is displayed as the numeral of its number.** -/
theorem displayNumber_literalValue {digits : Text} (small : digitsValue digits ≤ 2 ^ 53) :
    displayNumber (literalValue digits) = Nat.toDigits 10 (digitsValue digits) := by
  rw [displayNumber_literalValue_eq]
  generalize digitsValue digits = n at small ⊢
  have whole : (ofBits (UInt64.ofNat (nearestBits n))).value = n := value_nearestTo small
  have number := (roundsTo_nearestTo n).number
  rcases Nat.eq_zero_or_pos n with rfl | positive
  · decide +kernel
  · rcases small.lt_or_eq with below | rfl
    · have numeral := wholeNumeral_displayBits number whole positive (by omega)
      have spelled := numeral.digitsValue_eq whole below
      obtain ⟨c, t, same, nonzero⟩ := numeral.front
      have digits := numeral.digits
      rw [same] at digits spelled ⊢
      rw [← spelled, toDigits_digitsValue digits nonzero]
    · -- `2 ^ 53 + 1` rounds to it as well, so the digits are looked at
      decide +kernel

/-- **Whole numbers survive.** Up to `2 ^ 53`, what a literal stores is printed as
the numeral of its number, in every store and under every name. Every double that
is a whole number below `10 ^ 21` has a run of digits as its text, and this text,
used as a literal, prints itself. -/
theorem whole_numbers_survive :
    (∀ (store : Store) (name digits : Text), IsName name → IsNumber digits →
      digitsValue digits ≤ 2 ^ 53 →
      (∃ x, (execute store (letLine name digits)).outcome = .ok (.assigned (fold name) x)) ∧
        (execute (execute store (letLine name digits)).store (printLine name)).outcome =
          .ok (.printed (Nat.toDigits 10 (digitsValue digits)))) ∧
    ∀ (bits : UInt64) (n : Nat), ofBits bits ≠ .nan → (ofBits bits).value = n → n < 10 ^ 21 →
      IsNumber (displayBits bits) ∧
        ∀ store, (execute store (printLine (displayBits bits))).outcome =
          .ok (.printed (displayBits bits)) := by
  refine ⟨?_, ?_⟩
  · intro store name digits isName isNumber small
    refine ⟨⟨_, outcome_letLine store isName isNumber⟩, ?_⟩
    rw [store_letLine store isName isNumber,
      outcome_printLine_name _ isName (Store.get?_assign rfl store _),
      displayNumber_literalValue small]
  · intro bits n number whole small
    rcases Nat.eq_zero_or_pos n with zero | positive
    · have text := (shown_displayBits bits).zero_iff.mpr (isZero_of_value_zero number whole zero)
      have isNumber : IsNumber "0".toList := ⟨'0', [], rfl, by decide, by simp⟩
      have printed : displayNumber (literalValue "0".toList) = "0".toList := by decide +kernel
      rw [text]
      refine ⟨isNumber, fun store => ?_⟩
      rw [outcome_printLine_number store isNumber, printed]
    · have numeral := wholeNumeral_displayBits number whole positive small
      have nonzero : (ofBits bits).value ≠ 0 := by
        rw [whole]
        exact_mod_cast positive.ne'
      refine ⟨numeral.isNumber, fun store => ?_⟩
      rw [outcome_printLine_number store numeral.isNumber, numeral.reprints nonzero]

/-- A name with an accent and zeros in front; and `2 ^ 60`, whose last digits are
zeros where the number has others. -/
theorem whole_numbers_survive_padded :
    (execute (execute .empty (letLine ['é'] "007".toList)).store (printLine ['é'])).outcome =
        .ok (.printed ['7']) ∧
      displayBits 0x43B0000000000000 = "1152921504606847000".toList ∧
      ∀ store, (execute store (printLine "1152921504606847000".toList)).outcome =
        .ok (.printed "1152921504606847000".toList) := by
  have isName : IsName ['é'] := ⟨'é', [], rfl, by decide +kernel, by simp⟩
  have isNumber : IsNumber "007".toList :=
    ⟨'0', ['0', '7'], rfl, by decide, List.all_eq_true.mp (by decide)⟩
  have pattern : ofBits 0x43B0000000000000 = .finite false 4503599627370496 8 := by decide
  have whole : (ofBits 0x43B0000000000000).value = (1152921504606846976 : Nat) := by
    rw [pattern, Double.value, signFactor]
    norm_num
  have text : displayBits 0x43B0000000000000 = "1152921504606847000".toList := by decide +kernel
  have printed := (whole_numbers_survive.1 .empty ['é'] "007".toList isName isNumber
    (by decide)).2
  have again := (whole_numbers_survive.2 0x43B0000000000000 1152921504606846976
    (by rw [pattern]; simp) whole (by decide)).2
  rw [text] at again
  exact ⟨printed, text, again⟩

end LineBasic
