import LineBasic.Proofs.Rounding

/-!
# Floats and their patterns

Every pattern makes a float, and the float stands for the double of the pattern
(`Double.ofFloat_ofBits`): only what is not a number loses its pattern. So what
holds for all patterns holds for all floats. Floats compare as the ranks of their
doubles do (`Double.HasRank.lt_iff`).
-/

namespace LineBasic

open Float.Model Float.Model.UnpackedFloat

namespace Double

/-! ## The fields of a pattern -/

section Fields

variable (bits : UInt64)

theorem toNat_unpackMantissa :
    (@unpackMantissa Format.binary64 bits.toBitVec).toNat = bits.toNat % unit := by
  simp [unpackMantissa]
  rfl

theorem toNat_unpackExponent :
    (@unpackExponent Format.binary64 bits.toBitVec).toNat =
      bits.toNat / unit % (topField + 1) := by
  simp [unpackExponent, Nat.shiftRight_eq_div_pow]
  rfl

theorem unpackExponent_eq_ones_iff :
    @unpackExponent Format.binary64 bits.toBitVec = -1#_ ↔
      bits.toNat / unit % (topField + 1) = topField := by
  rw [← toNat_unpackExponent, ← BitVec.toNat_inj]
  rfl

theorem unpackExponent_eq_zero_iff :
    @unpackExponent Format.binary64 bits.toBitVec = 0#_ ↔
      bits.toNat / unit % (topField + 1) = 0 := by
  rw [← toNat_unpackExponent, ← BitVec.toNat_inj]
  rfl

theorem unpackMantissa_eq_zero_iff :
    @unpackMantissa Format.binary64 bits.toBitVec = 0#_ ↔ bits.toNat % unit = 0 := by
  rw [← toNat_unpackMantissa, ← BitVec.toNat_inj]
  rfl

theorem unpackSign_eq_zero_iff :
    @unpackSign Format.binary64 bits.toBitVec = 0#_ ↔ ¬ twoTo 63 ≤ bits.toNat := by
  have bound := bits.toNat_lt
  have signBit : twoTo 63 = 9223372036854775808 := by decide
  rw [← BitVec.toNat_inj, signBit]
  simp [unpackSign, Nat.shiftRight_eq_div_pow]
  omega

theorem toNat_append_one {r : Nat} (m : BitVec r) : (1#1 ++ m).toNat = 2 ^ r + m.toNat := by
  rw [BitVec.toNat_append, ← Nat.shiftLeft_add_eq_or_of_lt m.isLt]
  simp [Nat.shiftLeft_eq]

end Fields

/-! ## Doubles of the model of floats -/

/-- Whether a sign of the model of floats is the minus sign. -/
def isNegative : Sign → Bool
  | .negative => true
  | .positive => false

/-- The double that a value of the model of floats stands for. -/
def ofUnpacked : UnpackedFloat → Double
  | .notANumber => .nan
  | .infinity sign => .infinite (isNegative sign)
  | .zero sign => .finite (isNegative sign) 0 leastExponent
  | .finite sign significand exponent _ => .finite (isNegative sign) significand exponent

theorem isNegative_unpackSign (bits : UInt64) :
    isNegative (Sign.ofBitVec (@unpackSign Format.binary64 bits.toBitVec)) =
      decide (twoTo 63 ≤ bits.toNat) := by
  unfold Sign.ofBitVec
  by_cases negative : twoTo 63 ≤ bits.toNat
  · rw [if_neg (mt (unpackSign_eq_zero_iff bits).mp (not_not.mpr negative))]
    simpa [isNegative] using negative
  · rw [if_pos ((unpackSign_eq_zero_iff bits).mpr negative)]
    simpa [isNegative] using negative

/-- Both readings of a pattern agree. -/
theorem ofUnpacked_unpack (bits : UInt64) :
    ofUnpacked (UnpackedFloat.unpack Format.binary64 bits.toBitVec) = ofBits bits := by
  have sign := isNegative_unpackSign bits
  have bias : Format.binary64.exponentBias = 1023 := rfl
  unfold UnpackedFloat.unpack ofBits
  simp only
  split
  · next ones =>
    rw [if_pos ((unpackExponent_eq_ones_iff bits).mp ones)]
    split
    · next whole =>
      rw [if_pos ((unpackMantissa_eq_zero_iff bits).mp whole), ← sign]
      rfl
    · next broken =>
      rw [if_neg (mt (unpackMantissa_eq_zero_iff bits).mpr broken)]
      rfl
  · next ones =>
    rw [if_neg (mt (unpackExponent_eq_ones_iff bits).mpr ones)]
    split
    · next least =>
      have field := (unpackExponent_eq_zero_iff bits).mp least
      rw [if_pos field, ← sign, ← toNat_unpackMantissa]
      split
      · next zero =>
        rw [zero]
        rfl
      · next some =>
        rw [ofUnpacked, toNat_unpackExponent, field, bias]
        rfl
    · next normal =>
      have field := mt (unpackExponent_eq_zero_iff bits).mpr normal
      rw [if_neg field, ← sign, ofUnpacked, toNat_append_one, toNat_unpackExponent,
        toNat_unpackMantissa, bias, leastExponent]
      generalize bits.toNat / unit % (topField + 1) = f at field
      congr 1
      push_cast
      omega

/-! ## Making floats from patterns -/

theorem toBitVec_ofBitVec (sign : BitVec 1) : (Sign.ofBitVec sign).toBitVec = sign := by
  revert sign
  decide

/-- A pattern is put together again from its fields. -/
theorem packComponents_fields {b : BitVec Format.binary64.numBits}
    {exponent : BitVec Format.binary64.exponentBits}
    {mantissa : BitVec Format.binary64.mantissaBitsWithoutImplicit}
    (upper : unpackExponent b = exponent) (lower : unpackMantissa b = mantissa) :
    packComponents Format.binary64 (Sign.ofBitVec (unpackSign b)) exponent mantissa = b := by
  subst upper lower
  simp only [packComponents, toBitVec_ofBitVec, unpackSign, unpackExponent, unpackMantissa,
    BitVec.extractLsb]
  ext i hi
  grind

/-- What is read from the pattern of a number is written as the same pattern. -/
theorem pack_unpack {bits : UInt64} (number : ofBits bits ≠ .nan) :
    UnpackedFloat.pack Format.binary64 (UnpackedFloat.unpack Format.binary64 bits.toBitVec) =
      bits.toBitVec := by
  have read := ofUnpacked_unpack bits
  have bias : Format.binary64.exponentBias = 1023 := rfl
  have precision : Format.binary64.mantissaBits = 53 := rfl
  have mantissa := toNat_unpackMantissa bits
  have exponent := toNat_unpackExponent bits
  unfold UnpackedFloat.unpack at read ⊢
  simp only at read ⊢
  split
  · next ones =>
    split
    · next whole => exact packComponents_fields ones whole
    · next broken =>
      rw [if_pos ones, if_neg broken] at read
      exact absurd read.symm number
  · next ones =>
    split
    · next least =>
      split
      · next zero => exact packComponents_fields least zero
      · next some =>
        have field := (unpackExponent_eq_zero_iff bits).mp least
        have small : (@unpackMantissa Format.binary64 bits.toBitVec).toNat.log2 < 52 := by
          rw [Nat.log2_lt (by simpa [← BitVec.toNat_inj] using some)]
          exact (@unpackMantissa Format.binary64 bits.toBitVec).isLt
        rw [UnpackedFloat.pack, exponent, field, bias, precision, if_neg (by decide),
          if_neg (by omega)]
        exact packComponents_fields least (by simp)
    · next normal =>
      have field := mt (unpackExponent_eq_ones_iff bits).mpr ones
      have bound : bits.toNat / unit % (topField + 1) < topField + 1 := Nat.mod_lt _ (by decide)
      have top : topField = 2047 := rfl
      have leading : (1#1 ++ @unpackMantissa Format.binary64 bits.toBitVec).toNat.log2 =
          52 := by
        have small : bits.toNat % unit < 2 ^ 52 := Nat.mod_lt _ (by decide)
        have sum : (1#1 ++ @unpackMantissa Format.binary64 bits.toBitVec).toNat =
            2 ^ 52 + bits.toNat % unit := by
          rw [← mantissa]
          exact toNat_append_one _
        rw [sum, Nat.log2_eq_iff (by omega)]
        omega
      have biased : (((@unpackExponent Format.binary64 bits.toBitVec).toNat : Int) -
          ((1023 : Nat) + (52 : Nat)) + (1023 : Nat) + (52 : Nat)).toNat =
            (@unpackExponent Format.binary64 bits.toBitVec).toNat := by
        omega
      rw [UnpackedFloat.pack, leading, precision, bias]
      simp only
      rw [biased, if_neg (by rw [exponent]; omega), if_pos trivial]
      refine packComponents_fields (by simp) ?_
      rw [← BitVec.toNat_inj, BitVec.toNat_ofNat, toNat_append_one, Nat.add_mod_left]
      exact (Nat.mod_eq_of_lt (BitVec.isLt _)).symm

/-- **A float that is a number keeps its pattern.** -/
theorem toBits_ofBits {bits : UInt64} (number : ofBits bits ≠ .nan) :
    (Float.ofBits bits).toBits = bits :=
  congrArg UInt64.ofBitVec (pack_unpack number)

/-- **The float of a pattern stands for the double of the pattern.** -/
theorem ofFloat_ofBits (bits : UInt64) : ofFloat (Float.ofBits bits) = ofBits bits := by
  by_cases number : ofBits bits = .nan
  · have read := ofUnpacked_unpack bits
    have nothing : UnpackedFloat.unpack Format.binary64 bits.toBitVec = .notANumber := by
      rw [number] at read
      cases unpacked : UnpackedFloat.unpack Format.binary64 bits.toBitVec with
      | notANumber => rfl
      | _ => rw [unpacked] at read; cases read
    have pattern : (Float.ofBits bits).toBits =
        UInt64.ofBitVec (UnpackedFloat.pack Format.binary64 .notANumber) :=
      congrArg (fun unpacked => UInt64.ofBitVec (UnpackedFloat.pack Format.binary64 unpacked))
        nothing
    rw [ofFloat, pattern, number]
    decide
  · rw [ofFloat, toBits_ofBits number]

/-! ## Comparing floats -/

/-- The model of floats reads the pattern of a positive double as that double. -/
theorem unpack_of_finite {bits : UInt64} {negative : Bool} {significand : Nat} {exponent : Int}
    (finite : ofBits bits = .finite negative significand exponent) (positive : 0 < significand) :
    UnpackedFloat.unpack Format.binary64 bits.toBitVec =
      .finite (if negative then .negative else .positive) significand exponent positive := by
  have read := ofUnpacked_unpack bits
  rw [finite] at read
  cases unpacked : UnpackedFloat.unpack Format.binary64 bits.toBitVec with
  | finite sign significand' exponent' positive' =>
    rw [unpacked] at read
    cases read
    cases sign <;> rfl
  | zero sign =>
    rw [unpacked] at read
    cases read
    omega
  | infinity sign => rw [unpacked] at read; cases read
  | notANumber => rw [unpacked] at read; cases read

/-- The model of floats compares positive doubles by their ranks. -/
theorem compare_finite {rank rank' : Nat} (positive : 0 < significandAt rank)
    (positive' : 0 < significandAt rank') :
    UnpackedFloat.compare
        (.finite .positive (significandAt rank) (exponentAt rank) positive)
        (.finite .positive (significandAt rank') (exponentAt rank') positive') =
      some (compare rank rank') := by
  rw [UnpackedFloat.compare, Option.some_inj]
  rcases Nat.lt_trichotomy rank rank' with less | rfl | greater
  · rw [Nat.compare_eq_lt.mpr less, Ordering.then_eq_lt, Int.compare_eq_lt, Int.compare_eq_eq,
      Nat.compare_eq_lt]
    exact rank_lt_iff.mp less
  · rw [Nat.compare_eq_eq.mpr rfl, Int.compare_eq_eq.mpr rfl, Nat.compare_eq_eq.mpr rfl]
    rfl
  · rw [Nat.compare_eq_gt.mpr greater, Ordering.then_eq_gt, Int.compare_eq_gt,
      Int.compare_eq_eq, Nat.compare_eq_gt, eq_comm]
    exact rank_lt_iff.mp greater

/-- The float is the positive double with a rank. -/
def HasRank (x : Float) (rank : Nat) : Prop :=
  ∃ positive, x.toModel.unpack =
    .finite .positive (significandAt rank) (exponentAt rank) positive

section Compare

variable {x y : Float} {rank rank' : Nat}

theorem HasRank.lt_iff (left : HasRank x rank) (right : HasRank y rank') :
    x < y ↔ rank < rank' := by
  obtain ⟨positive, unpacked⟩ := left
  obtain ⟨positive', unpacked'⟩ := right
  have lt : x < y ↔ decide (UnpackedFloat.lt x.toModel.unpack y.toModel.unpack = true) = true :=
    Iff.rfl
  rw [lt, decide_eq_true_iff, UnpackedFloat.lt, unpacked, unpacked',
    compare_finite positive positive', beq_iff_eq, Option.some_inj, Nat.compare_eq_lt]

theorem HasRank.le_iff (left : HasRank x rank) (right : HasRank y rank') :
    x ≤ y ↔ rank ≤ rank' := by
  obtain ⟨positive, unpacked⟩ := left
  obtain ⟨positive', unpacked'⟩ := right
  have le : x ≤ y ↔ decide (UnpackedFloat.le x.toModel.unpack y.toModel.unpack = true) = true :=
    Iff.rfl
  rw [le, decide_eq_true_iff, UnpackedFloat.le, unpacked, unpacked',
    compare_finite positive positive', Option.any_some, Nat.isLE_compare]

theorem hasRank_of_pattern (positive : 0 < rank)
    (here : ofFloat x = .finite false (significandAt rank) (exponentAt rank)) : HasRank x rank :=
  ⟨significandAt_pos positive, unpack_of_finite here (significandAt_pos positive)⟩

theorem hasRank_abs {negative : Bool} (positive : 0 < rank) (finite : rank < infinityBits)
    (here : ofFloat x = .finite negative (significandAt rank) (exponentAt rank)) :
    HasRank x.abs rank := by
  have some := significandAt_pos positive
  obtain ⟨bits, pattern⟩ := exists_ofBits false finite.le
  rw [ranked, if_neg finite.ne] at pattern
  have number : ofBits bits ≠ .nan := by simp [pattern]
  have written := pack_unpack number
  have read : UnpackedFloat.unpack Format.binary64 bits.toBitVec = .finite .positive _ _ some :=
    unpack_of_finite pattern some
  have absolute : x.toModel.unpack.abs = .finite .positive _ _ some :=
    congrArg UnpackedFloat.abs (unpack_of_finite here some)
  have back : x.abs.toModel.unpack = UnpackedFloat.unpack Format.binary64
      (UnpackedFloat.pack Format.binary64 x.toModel.unpack.abs) := rfl
  refine ⟨some, ?_⟩
  rw [back, absolute, ← read, written]

end Compare

end Double

end LineBasic
