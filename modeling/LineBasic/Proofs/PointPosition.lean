import LineBasic.Proofs.DisplayedNumbers

/-!
# The position of the point decides the notation

A number is written with an exponent if it is less than `1e-6` or not less than
`1e21`, without its sign. Of these doubles the first is no power of ten, and yet
comparing the number with them is the same as looking at the point of its
digits: rounding keeps the order of numbers, and the digits of the two doubles
themselves are those of a power of ten (`point_lt_iff`).

Main result: **`text_follows_point`**.
-/

namespace LineBasic

open Double DecimalDigits

/-! ## Powers of ten -/

theorem value_power (t : Int) : (⟨['1'], t⟩ : DecimalDigits).value = 10 ^ (t - 1) := by
  have one : digitsValue ['1'] = 1 := rfl
  simp [DecimalDigits.value, one]

/-- **A double below one that is written as a power of ten has its point before
that of the power.** -/
theorem point_lt_iff {rank limit : Nat} {t : Int} (positive : 0 < rank)
    (finite : rank < infinityBits) (positive' : 0 < limit) (finite' : limit < infinityBits)
    (power : ofRank limit = ⟨['1'], t⟩) : (ofRank rank).point < t ↔ rank < limit := by
  have rounds := (identifies_ofRank positive finite).rounds
  have rounds' := (identifies_ofRank positive' finite').rounds
  have here : At (rank : Int) (ranked false rank) := at_ranked false finite.le
  have there : At (limit : Int) (ranked false limit) := at_ranked false finite'.le
  obtain ⟨least, most⟩ := (normal_ofRank positive).value_bounds
  rw [power, value_power] at rounds'
  constructor
  · intro before
    have below : (ofRank rank).value ≤ 10 ^ (t - 1) :=
      most.le.trans (zpow_le_zpow_right₀ (by norm_num) (by omega))
    have le := rounds.place_le below rounds' here there
    have differs : rank ≠ limit := by
      rintro rfl
      rw [power] at before
      exact lt_irrefl t before
    omega
  · intro less
    by_contra! behind
    have above : (10 : ℚ) ^ (t - 1) ≤ (ofRank rank).value :=
      (zpow_le_zpow_right₀ (by norm_num) (by omega)).trans least
    have le := rounds'.place_le above rounds there here
    omega

/-! ## The two limits -/

/-- The rank of the double `1e-6`, the least one that is written positionally. -/
def leastPositional : Nat := 0x3EB0C6F7A0B5ED8D

/-- The rank of the double `1e21`, the least one that is not any more. -/
def leastScientific : Nat := 0x444B1AE4D6E2EF50

theorem limits :
    (ofFloat 1e-6 =
        .finite false (significandAt leastPositional) (exponentAt leastPositional) ∧
      ofRank leastPositional = ⟨['1'], -5⟩) ∧
    ofFloat 1e21 =
        .finite false (significandAt leastScientific) (exponentAt leastScientific) ∧
      ofRank leastScientific = ⟨['1'], 22⟩ := by
  decide +kernel

/-- **Comparing a number with the limits is looking at its point.** -/
theorem compare_limits {bits : UInt64} {negative : Bool} {rank : Nat} (positive : 0 < rank)
    (finite : rank < infinityBits)
    (kind : ofBits bits = .finite negative (significandAt rank) (exponentAt rank)) :
    ((Float.ofBits bits).abs < 1e-6 ↔ (ofRank rank).point ≤ -6) ∧
      (1e21 ≤ (Float.ofBits bits).abs ↔ 21 < (ofRank rank).point) := by
  obtain ⟨⟨least, leastDigits⟩, most, mostDigits⟩ := limits
  have here : HasRank (Float.ofBits bits).abs rank :=
    hasRank_abs positive finite (by rw [ofFloat_ofBits, kind])
  have low := point_lt_iff positive finite (by decide) (by decide) leastDigits
  have high := point_lt_iff positive finite (by decide) (by decide) mostDigits
  rw [here.lt_iff (hasRank_of_pattern (by decide) least),
    (hasRank_of_pattern (by decide) most).le_iff here]
  omega

/-! ## The notations -/

/-- A text writes digits by the place of their point: positionally from the
point at `-5` on up to `21`, with an exponent otherwise. -/
structure WrittenAs (digits : Text) (p : Int) (text : Text) : Prop where
  /-- The point is behind the digits. -/
  behind : digits.length ≤ p → p ≤ 21 →
    text = digits ++ List.replicate (p - digits.length).toNat '0'
  /-- The point is between two digits. -/
  between : 0 < p → p < digits.length → p ≤ 21 →
    text = digits.take p.toNat ++ '.' :: digits.drop p.toNat
  /-- The point is before the digits. -/
  before : -6 < p → p ≤ 0 →
    text = '0' :: '.' :: (List.replicate (-p).toNat '0' ++ digits)
  /-- The point is far from the digits. -/
  far : p ≤ -6 ∨ 21 < p →
    text = digits.take 1 ++ (if 1 < digits.length then '.' :: digits.drop 1 else []) ++
      'e' :: (if p - 1 < 0 then '-' else '+') :: Nat.toDigits 10 (p - 1).natAbs

theorem writtenAs_layOut {d : DecimalDigits} (normal : d.Normal) :
    WrittenAs d.digits d.point (d.layOut printedNumbers) := by
  have some := normal.length_pos
  have layout : d.layOut printedNumbers =
      if -5 ≤ d.point ∧ d.point ≤ 21 then d.positional else d.scientific := rfl
  rw [layout]
  refine ⟨?_, ?_, ?_, ?_⟩
  · intro large small
    rw [if_pos (by omega), positional, if_pos large]
  · intro positive less small
    rw [if_pos (by omega), positional, if_neg (by omega), if_pos positive]
  · intro large nonpositive
    rw [if_pos (by omega), positional, if_neg (by omega), if_neg (by omega)]
    rfl
  · intro outside
    rw [if_neg (by omega), scientific]
    by_cases single : 1 < d.digits.length
    · rw [if_neg (by omega), if_pos single]
    · rw [if_pos (by omega), if_neg single]

/-- **The text of a number follows from its digits and their point.** The digits
are the shortest that identify the number, and the comparison with the two limits
chooses the notation that the point does. -/
theorem text_follows_point {bits : UInt64} {negative : Bool} {significand : Nat} {exponent : Int}
    (kind : ofBits bits = .finite negative significand exponent) (nonzero : significand ≠ 0) :
    ∃ d : DecimalDigits, d.Normal ∧
      Identifies d.digits.length (signFactor negative * d.value) (ofBits bits) ∧
      d = .shortest significand exponent ∧
      (∃ t, displayBits bits = signed negative t ∧ WrittenAs d.digits d.point t) ∧
      ((Float.ofBits bits).abs < 1e-6 ↔ d.point ≤ -6) ∧
      (1e21 ≤ (Float.ofBits bits).abs ↔ 21 < d.point) := by
  obtain ⟨rank, finite, rfl, rfl⟩ := exists_rank kind
  have positive := pos_of_significandAt_ne_zero nonzero
  have normal := normal_ofRank positive
  have pattern : ofBits bits = ranked negative rank := by rw [kind, ranked, if_neg finite.ne]
  refine ⟨ofRank rank, normal, ?_, rfl, ⟨_, ?_, writtenAs_layOut normal⟩,
    compare_limits positive finite kind⟩
  · rw [pattern]
    exact identifies_signed positive negative finite
  · rw [displayBits_eq, pattern, display_ranked negative positive finite]

/-- The greatest double below `1e-6` has its point just where the exponent
begins. -/
theorem text_below_least_positional :
    ofBits 0x3EB0C6F7A0B5ED8C = .finite false 4722366482869644 (-72) ∧
      Float.abs (Float.ofBits 0x3EB0C6F7A0B5ED8C) < 1e-6 ∧
      displayBits 0x3EB0C6F7A0B5ED8C = "9.999999999999997e-7".toList := by
  have facts : ofBits 0x3EB0C6F7A0B5ED8C = .finite false 4722366482869644 (-72) ∧
      DecimalDigits.shortest 4722366482869644 (-72) = ⟨"9999999999999997".toList, -6⟩ := by
    decide +kernel
  obtain ⟨d, _, _, digits, ⟨t, text, written⟩, below, _⟩ :=
    text_follows_point facts.1 (by decide)
  rw [digits, facts.2] at written below
  refine ⟨facts.1, below.mpr (by decide), ?_⟩
  rw [text, written.far (.inl (by decide))]
  rfl

end LineBasic
