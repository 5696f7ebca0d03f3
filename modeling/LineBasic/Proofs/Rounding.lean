import LineBasic.Number.Nearest
import Mathlib

/-!
# Rounding to doubles

A double is, exactly, a rational number, and a rational number rounds to the
double that is nearest to it, of two that are equally near to the even one
(`Double.RoundsTo`). What rounds to infinity is fixed by letting it count as the
power of two beyond the finite doubles.

The bits of a double without its sign are its *rank*, and with the sign its
*place*: doubles are ordered by their places, and they are even exactly if their
places are.

* **one step** — from one rank to the next the magnitude grows by a unit in the
  last place (`magnitude_succ`), so values ascend with places
  (`valueAt_strictMono`);
* **all doubles** — a number rounds to a double exactly if it prefers its place
  to the two places beside it (`roundsTo_iff`);
* **order** — rounding keeps the order of numbers (`RoundsTo.mono`), and what a
  number rounds to is unique up to the sign of zero (`eq_or_zero_of_value_eq`).
-/

namespace LineBasic

/-- The sign of a number as a factor. -/
def signFactor (negative : Bool) : ℚ := if negative then -1 else 1

namespace Double

/-- The number that a double stands for. Infinities count as the power of two
beyond the finite doubles, as they do in rounding. -/
def value : Double → ℚ
  | .nan => 0
  | .infinite negative => signFactor negative * 2 ^ 1024
  | .finite negative significand exponent =>
    signFactor negative * (significand * 2 ^ exponent)

/-- The last bit of the significand is zero. -/
def IsEven : Double → Prop
  | .nan => False
  | .infinite _ => True
  | .finite _ significand _ => significand % 2 = 0

/-- A number rounds to a double: no other is nearer, and if another is as near,
this one is even. -/
structure RoundsTo (q : ℚ) (d : Double) : Prop where
  number : d ≠ .nan
  nearest : ∀ bits, ofBits bits ≠ .nan → |q - d.value| ≤ |q - (ofBits bits).value|
  ties : ∀ bits, ofBits bits ≠ .nan → (ofBits bits).value ≠ d.value →
    |q - (ofBits bits).value| = |q - d.value| → d.IsEven

/-! ## Ranks -/

/-- The significand of the doubles with a rank. -/
def significandAt (rank : Nat) : Nat :=
  if rank / unit = 0 then rank % unit else unit + rank % unit

/-- Their exponent. -/
def exponentAt (rank : Nat) : Int := leastExponent + (rank / unit - 1 : Nat)

/-- The number that the double with a rank and no sign stands for. -/
def magnitude (rank : Nat) : ℚ := significandAt rank * 2 ^ exponentAt rank

/-- The double with a sign and a rank. -/
def ranked (negative : Bool) (rank : Nat) : Double :=
  if rank = infinityBits then .infinite negative
  else .finite negative (significandAt rank) (exponentAt rank)

theorem unit_eq : unit = 4503599627370496 := by decide

theorem infinityBits_eq : infinityBits = 9218868437227405312 := by decide

/-- The bits of a double are its sign and its rank. -/
theorem ofBits_eq (bits : UInt64) :
    ofBits bits =
      if bits.toNat % twoTo 63 ≤ infinityBits then
        ranked (decide (twoTo 63 ≤ bits.toNat)) (bits.toNat % twoTo 63)
      else .nan := by
  have signBit : twoTo 63 = 9223372036854775808 := by decide
  have top : topField = 2047 := rfl
  unfold ofBits ranked significandAt exponentAt infinityBits
  simp only
  generalize bits.toNat = n
  have field : n % twoTo 63 / unit = n / unit % (topField + 1) := by
    rw [signBit, unit_eq, top]
    omega
  have fraction : n % twoTo 63 % unit = n % unit := by
    rw [signBit, unit_eq]
    omega
  have rank : n % twoTo 63 = n / unit % (topField + 1) * unit + n % unit := by
    rw [signBit, unit_eq, top]
    omega
  have fieldBound : n / unit % (topField + 1) < topField + 1 := Nat.mod_lt _ (by decide)
  have fractionBound : n % unit < unit := Nat.mod_lt _ (by decide)
  rw [field, fraction, rank]
  generalize n / unit % (topField + 1) = f at fieldBound
  generalize n % unit = r at fractionBound
  rw [top] at fieldBound ⊢
  rw [unit_eq] at fractionBound ⊢
  have within : f * 4503599627370496 + r ≤ 2047 * 4503599627370496 ↔ f ≠ 2047 ∨ r = 0 := by
    omega
  have isTop : f * 4503599627370496 + r = 2047 * 4503599627370496 ↔ f = 2047 ∧ r = 0 := by
    omega
  simp only [within, isTop]
  by_cases last : f = 2047
  · by_cases whole : r = 0 <;> simp [last, whole]
  · by_cases least : f = 0 <;> simp [last, least]

/-- From one rank to the next the significand grows by one, or starts again with
the next exponent. -/
theorem succ_cases (rank : Nat) :
    (significandAt (rank + 1) = significandAt rank + 1 ∧
      exponentAt (rank + 1) = exponentAt rank ∧
      (significandAt (rank + 1) = unit → exponentAt (rank + 1) = leastExponent)) ∨
    (significandAt (rank + 1) = unit ∧ significandAt rank + 1 = 2 * unit ∧
      exponentAt (rank + 1) = exponentAt rank + 1 ∧ leastExponent < exponentAt (rank + 1)) := by
  unfold significandAt exponentAt
  rw [unit_eq]
  by_cases full : rank % 4503599627370496 = 4503599627370495
  · have field : (rank + 1) / 4503599627370496 = rank / 4503599627370496 + 1 := by omega
    have fraction : (rank + 1) % 4503599627370496 = 0 := by omega
    rw [field, fraction, full]
    by_cases least : rank / 4503599627370496 = 0
    · left
      simp [least]
    · right
      rw [if_neg (by omega), if_neg least]
      omega
  · have field : (rank + 1) / 4503599627370496 = rank / 4503599627370496 := by omega
    have fraction : (rank + 1) % 4503599627370496 = rank % 4503599627370496 + 1 := by omega
    left
    rw [field, fraction]
    by_cases least : rank / 4503599627370496 = 0
    · rw [if_pos least, if_pos least, least]
      omega
    · rw [if_neg least, if_neg least]
      omega

/-- Exponents and significands ascend with ranks. -/
theorem rank_lt_iff {rank rank' : Nat} : rank < rank' ↔
    exponentAt rank < exponentAt rank' ∨
      exponentAt rank = exponentAt rank' ∧ significandAt rank < significandAt rank' := by
  unfold exponentAt significandAt
  rw [unit_eq]
  split <;> split <;> omega

theorem significandAt_pos {rank : Nat} (positive : 0 < rank) : 0 < significandAt rank := by
  unfold significandAt
  rw [unit_eq]
  split <;> omega

theorem pos_of_significandAt_ne_zero {rank : Nat} (nonzero : significandAt rank ≠ 0) :
    0 < rank := by
  by_contra none
  rw [show rank = 0 by omega] at nonzero
  exact nonzero (by decide)

theorem significandAt_mod_two (rank : Nat) : significandAt rank % 2 = rank % 2 := by
  unfold significandAt
  rw [unit_eq]
  split <;> omega

theorem two_zpow_pos (e : Int) : (0 : ℚ) < 2 ^ e := zpow_pos (by norm_num) e

/-- From one rank to the next the magnitude grows by a unit in the last place. -/
theorem magnitude_succ (rank : Nat) :
    magnitude (rank + 1) = magnitude rank + 2 ^ exponentAt rank := by
  unfold magnitude
  rcases succ_cases rank with ⟨next, same, _⟩ | ⟨next, last, carried, _⟩
  · rw [next, same]
    push_cast
    ring
  · have last' : (significandAt rank : ℚ) = 2 * unit - 1 := by
      rw [eq_sub_iff_add_eq]
      exact_mod_cast last
    rw [next, carried, last', zpow_add_one₀ (by norm_num)]
    ring

theorem magnitude_zero : magnitude 0 = 0 := by simp [magnitude, significandAt]

/-! ## Places -/

/-- The number of the double with a signed rank. -/
def valueAt (place : Int) : ℚ := place.sign * magnitude place.natAbs

theorem valueAt_natCast (rank : Nat) : valueAt rank = magnitude rank := by
  rw [valueAt, Int.natAbs_natCast]
  cases rank with
  | zero => simp [magnitude_zero]
  | succ rank => rw [Int.sign_natCast_of_ne_zero (Nat.succ_ne_zero rank), Int.cast_one, one_mul]

theorem valueAt_neg (place : Int) : valueAt (-place) = -valueAt place := by
  simp [valueAt]

theorem valueAt_lt_succ (place : Int) : valueAt place < valueAt (place + 1) := by
  have gap (rank : Nat) : magnitude rank < magnitude (rank + 1) := by
    have := two_zpow_pos (exponentAt rank)
    rw [magnitude_succ]
    linarith
  rcases place with rank | rank
  · have here : Int.ofNat rank + 1 = ((rank + 1 : Nat) : Int) := rfl
    rw [here, Int.ofNat_eq_natCast, valueAt_natCast, valueAt_natCast]
    exact gap rank
  · have here : Int.negSucc rank = -((rank + 1 : Nat) : Int) := rfl
    have next : -((rank + 1 : Nat) : Int) + 1 = -(rank : Int) := by push_cast; ring
    rw [here, next, valueAt_neg, valueAt_neg, valueAt_natCast, valueAt_natCast]
    have := gap rank
    linarith

/-- **Doubles are ordered by their places.** -/
theorem valueAt_strictMono : StrictMono valueAt := strictMono_int_of_lt_succ valueAt_lt_succ

/-- A double has a place: the value there is its own, and it is even exactly if
the place is. -/
structure At (place : Int) (d : Double) : Prop where
  number : d ≠ .nan
  bounded : place.natAbs ≤ infinityBits
  value : d.value = valueAt place
  even : d.IsEven ↔ place % 2 = 0

/-- A rank with the sign of a double. -/
def signedRank (negative : Bool) (rank : Nat) : Int := if negative then -rank else rank

theorem at_ranked (negative : Bool) {rank : Nat} (within : rank ≤ infinityBits) :
    At (signedRank negative rank) (ranked negative rank) := by
  have place : valueAt (signedRank negative rank) = signFactor negative * magnitude rank := by
    cases negative <;> simp [signedRank, signFactor, valueAt_neg, valueAt_natCast]
  refine ⟨?_, ?_, ?_, ?_⟩
  · unfold ranked
    split <;> simp
  · cases negative <;> simpa [signedRank] using within
  · rw [place]
    unfold ranked
    split
    · next top =>
      rw [top]
      have : magnitude infinityBits = 2 ^ 1024 := by
        have fraction : significandAt infinityBits = 2 ^ 52 := by decide
        have exponent : exponentAt infinityBits = 972 := by decide
        rw [magnitude, fraction, exponent, Nat.cast_pow, Nat.cast_ofNat, ← zpow_natCast,
          ← zpow_add₀ two_ne_zero, ← zpow_natCast]
        rfl
      rw [this]
      rfl
    · rfl
  · have parity : signedRank negative rank % 2 = 0 ↔ rank % 2 = 0 := by
      cases negative <;> simp only [signedRank] <;> omega
    rw [parity]
    unfold ranked
    split
    · next top => simp [IsEven, top, infinityBits_eq]
    · simp [IsEven, significandAt_mod_two]

theorem exists_at (bits : UInt64) (number : ofBits bits ≠ .nan) :
    ∃ place, At place (ofBits bits) := by
  rw [ofBits_eq] at number ⊢
  split at number
  · next within =>
    rw [if_pos within]
    exact ⟨_, at_ranked _ within⟩
  · exact absurd rfl number

theorem exists_ofBits (negative : Bool) {rank : Nat} (within : rank ≤ infinityBits) :
    ∃ bits, ofBits bits = ranked negative rank := by
  have signBit : twoTo 63 = 9223372036854775808 := by decide
  rw [infinityBits_eq] at within
  refine ⟨UInt64.ofNat (if negative then twoTo 63 + rank else rank), ?_⟩
  have bits : (UInt64.ofNat (if negative then twoTo 63 + rank else rank)).toNat =
      if negative then twoTo 63 + rank else rank := by
    rw [UInt64.toNat_ofNat', signBit]
    apply Nat.mod_eq_of_lt
    split <;> omega
  have rest : (if negative then twoTo 63 + rank else rank) % twoTo 63 = rank := by
    rw [signBit]
    split <;> omega
  have sign : decide (twoTo 63 ≤ if negative then twoTo 63 + rank else rank) = negative := by
    rw [signBit]
    cases negative
    · simpa using by omega
    · simp
  rw [ofBits_eq, bits, rest, sign, infinityBits_eq, if_pos within]

theorem exists_ofBits_at {place : Int} (bounded : place.natAbs ≤ infinityBits) :
    ∃ bits, At place (ofBits bits) := by
  obtain ⟨bits, same⟩ := exists_ofBits (decide (place < 0)) bounded
  have back : signedRank (decide (place < 0)) place.natAbs = place := by
    by_cases below : place < 0
    · rw [signedRank, decide_eq_true below, if_pos rfl]
      omega
    · rw [signedRank, decide_eq_false below, if_neg (by decide)]
      omega
  refine ⟨bits, ?_⟩
  rw [same, ← back]
  simpa [back] using at_ranked (decide (place < 0)) bounded

/-! ## Which numbers round to a place -/

section TwoNumbers

variable {q a b : ℚ}

theorem abs_sub_lt_iff_middle (less : a < b) : |q - b| < |q - a| ↔ (a + b) / 2 < q := by
  have difference : (q - a) ^ 2 - (q - b) ^ 2 = 2 * (b - a) * (q - (a + b) / 2) := by ring
  rw [← sq_lt_sq, ← sub_pos, difference, mul_pos_iff_of_pos_left (by linarith), sub_pos]

theorem abs_sub_eq_iff_middle (less : a < b) : |q - b| = |q - a| ↔ q = (a + b) / 2 := by
  have difference : (q - a) ^ 2 - (q - b) ^ 2 = 2 * (b - a) * (q - (a + b) / 2) := by ring
  have apart : 2 * (b - a) ≠ 0 := by linarith
  rw [← sq_eq_sq_iff_abs_eq_abs, eq_comm, ← sub_eq_zero, difference, mul_eq_zero_iff_left apart,
    sub_eq_zero]

end TwoNumbers

/-- A number rounds to one place rather than to another. -/
def Prefers (q : ℚ) (place other : Int) : Prop :=
  |q - valueAt place| < |q - valueAt other| ∨
    |q - valueAt place| = |q - valueAt other| ∧ place % 2 = 0

theorem prefers_iff_of_lt {q : ℚ} {place other : Int} (lower : other < place) :
    Prefers q place other ↔ (valueAt other + valueAt place) / 2 < q ∨
      q = (valueAt other + valueAt place) / 2 ∧ place % 2 = 0 := by
  have less := valueAt_strictMono lower
  rw [Prefers, abs_sub_lt_iff_middle less, abs_sub_eq_iff_middle less]

theorem prefers_neg {q : ℚ} {place other : Int} :
    Prefers (-q) (-place) (-other) ↔ Prefers q place other := by
  have mirrored (p : Int) : |-q - valueAt (-p)| = |q - valueAt p| := by
    rw [valueAt_neg, ← abs_neg]
    ring_nf
  have parity : -place % 2 = 0 ↔ place % 2 = 0 := by omega
  rw [Prefers, Prefers, mirrored, mirrored, parity]

theorem prefers_iff_of_gt {q : ℚ} {place other : Int} (higher : place < other) :
    Prefers q place other ↔ q < (valueAt place + valueAt other) / 2 ∨
      q = (valueAt place + valueAt other) / 2 ∧ place % 2 = 0 := by
  have parity : -place % 2 = 0 ↔ place % 2 = 0 := by omega
  rw [← prefers_neg, prefers_iff_of_lt (by omega), valueAt_neg, valueAt_neg, parity]
  have middle : (-valueAt other + -valueAt place) / 2 = -((valueAt place + valueAt other) / 2) := by
    ring
  rw [middle, neg_lt_neg_iff, neg_inj]

/-- What rounds to a place rather than to the one before it lies beyond all the
places before. -/
theorem Prefers.of_pred {q : ℚ} {place other : Int} (pred : Prefers q place (place - 1))
    (lower : other < place) : Prefers q place other := by
  have lowest : valueAt other ≤ valueAt (place - 1) :=
    valueAt_strictMono.monotone (by omega)
  rw [prefers_iff_of_lt (by omega)] at pred
  rw [prefers_iff_of_lt lower]
  rcases pred with beyond | ⟨tie, even⟩
  · left
    linarith
  · rcases lowest.lt_or_eq with less | same
    · left
      linarith
    · rw [same]
      exact .inr ⟨tie, even⟩

theorem Prefers.of_succ {q : ℚ} {place other : Int} (succ : Prefers q place (place + 1))
    (higher : place < other) : Prefers q place other := by
  rw [← prefers_neg] at succ ⊢
  refine Prefers.of_pred ?_ (by omega)
  convert succ using 1
  ring

/-- **The numbers that round to a double are those between the middles of the
gaps beside it.** -/
theorem roundsTo_iff {q : ℚ} {place : Int} {d : Double} (here : At place d) :
    RoundsTo q d ↔ (-(infinityBits : Int) < place → Prefers q place (place - 1)) ∧
      (place < infinityBits → Prefers q place (place + 1)) := by
  constructor
  · intro rounds
    have prefers (other : Int) (differs : other ≠ place)
        (bounded : other.natAbs ≤ infinityBits) : Prefers q place other := by
      obtain ⟨bits, there⟩ := exists_ofBits_at bounded
      have nearest := rounds.nearest bits there.number
      have ties := rounds.ties bits there.number
      rw [there.value, here.value] at nearest ties
      rcases nearest.lt_or_eq with nearer | tie
      · exact .inl nearer
      · refine .inr ⟨tie, here.even.mp (ties ?_ tie.symm)⟩
        exact valueAt_strictMono.injective.ne differs
    have bounded := here.bounded
    exact ⟨fun _ => prefers _ (by omega) (by omega), fun _ => prefers _ (by omega) (by omega)⟩
  · rintro ⟨pred, succ⟩
    have prefers (other : Int) (differs : other ≠ place)
        (bounded : other.natAbs ≤ infinityBits) : Prefers q place other := by
      rcases lt_or_gt_of_ne differs with lower | higher
      · exact (pred (by omega)).of_pred lower
      · exact (succ (by omega)).of_succ higher
    refine ⟨here.number, fun bits number => ?_, fun bits number apart tie => ?_⟩
    · obtain ⟨other, there⟩ := exists_at bits number
      rw [there.value, here.value]
      by_cases differs : other = place
      · rw [differs]
      · rcases prefers other differs there.bounded with nearer | ⟨tie, _⟩
        · exact nearer.le
        · exact tie.le
    · obtain ⟨other, there⟩ := exists_at bits number
      rw [there.value, here.value] at apart tie
      have differs : other ≠ place := fun same => apart (by rw [same])
      rcases prefers other differs there.bounded with nearer | ⟨_, even⟩
      · exact absurd tie nearer.ne'
      · exact here.even.mpr even

/-- **Rounding is the same below zero and above it.** -/
theorem roundsTo_neg_iff {q : ℚ} {place : Int} {d d' : Double} (here : At place d)
    (there : At (-place) d') : RoundsTo (-q) d' ↔ RoundsTo q d := by
  have pred : -place - 1 = -(place + 1) := by ring
  have succ : -place + 1 = -(place - 1) := by ring
  rw [roundsTo_iff here, roundsTo_iff there, pred, succ, prefers_neg, prefers_neg, and_comm]
  have below : -place < infinityBits ↔ -(infinityBits : Int) < place := by omega
  have above : -(infinityBits : Int) < -place ↔ place < infinityBits := by omega
  rw [below, above]

/-! ## Order -/

/-- **Rounding keeps the order of numbers.** -/
theorem RoundsTo.place_le {q q' : ℚ} {d d' : Double} {place place' : Int} (le : q ≤ q')
    (rounds : RoundsTo q d) (rounds' : RoundsTo q' d') (here : At place d)
    (here' : At place' d') : place ≤ place' := by
  by_contra! lower
  have bounded := here.bounded
  have bounded' := here'.bounded
  have back := ((roundsTo_iff here).mp rounds).1 (by omega)
  have ahead := (((roundsTo_iff here').mp rounds').2 (by omega)).of_succ lower
  have beyond := back.of_pred lower
  rw [prefers_iff_of_lt lower] at beyond
  rw [prefers_iff_of_gt lower] at ahead
  -- Both numbers are the middle of the two places, which are even: so there is one between.
  rcases beyond with beyond | ⟨_, even⟩
  · rcases ahead with ahead | ⟨tie', _⟩ <;> linarith
  · rcases ahead with ahead | ⟨tie', even'⟩
    · linarith
    · have between := back.of_pred (show place' + 1 < place by omega)
      have above := valueAt_lt_succ place'
      rw [prefers_iff_of_lt (by omega)] at between
      rcases between with between | ⟨between, _⟩ <;> linarith

theorem RoundsTo.mono {q q' : ℚ} {bits bits' : UInt64} (le : q ≤ q')
    (rounds : RoundsTo q (ofBits bits)) (rounds' : RoundsTo q' (ofBits bits')) :
    (ofBits bits).value ≤ (ofBits bits').value := by
  obtain ⟨place, here⟩ := exists_at bits rounds.number
  obtain ⟨place', here'⟩ := exists_at bits' rounds'.number
  rw [here.value, here'.value]
  exact valueAt_strictMono.monotone (rounds.place_le le rounds' here here')

theorem RoundsTo.unique {q : ℚ} {bits bits' : UInt64} (rounds : RoundsTo q (ofBits bits))
    (rounds' : RoundsTo q (ofBits bits')) : (ofBits bits).value = (ofBits bits').value :=
  (rounds.mono le_rfl rounds').antisymm (rounds'.mono le_rfl rounds)

/-- Doubles that stand for the same number have the same bits, or are zeros. -/
theorem eq_or_zero_of_value_eq {bits bits' : UInt64} (number : ofBits bits ≠ .nan)
    (number' : ofBits bits' ≠ .nan) (same : (ofBits bits).value = (ofBits bits').value) :
    bits = bits' ∨ (ofBits bits).value = 0 := by
  rw [ofBits_eq] at number number' same ⊢
  rw [ofBits_eq] at same
  split at number
  · split at number'
    · next within within' =>
      rw [if_pos within, if_pos within'] at same
      rw [if_pos within]
      have here := at_ranked (decide (twoTo 63 ≤ bits.toNat)) within
      have there := at_ranked (decide (twoTo 63 ≤ bits'.toNat)) within'
      rw [here.value, there.value] at same
      rw [here.value]
      have places := valueAt_strictMono.injective same
      have signBit : twoTo 63 = 9223372036854775808 := by decide
      by_cases zero : bits.toNat % twoTo 63 = 0
      · right
        rw [zero]
        cases decide (twoTo 63 ≤ bits.toNat) <;> simp [signedRank, valueAt]
      · left
        rw [← UInt64.toNat_inj]
        have bound := bits.toNat_lt
        have bound' := bits'.toNat_lt
        simp only [signedRank, decide_eq_true_eq, signBit] at places zero
        split at places <;> split at places <;> omega
    · exact absurd rfl number'
  · exact absurd rfl number

/-- A number without a minus sign. -/
def Unsigned : Double → Prop
  | .nan => False
  | .infinite negative => negative = false
  | .finite negative _ _ => negative = false

theorem unsigned_ranked {negative : Bool} {rank : Nat} :
    (ranked negative rank).Unsigned ↔ negative = false := by
  unfold ranked
  split <;> exact Iff.rfl

/-- The bits of a number without a sign are its rank. -/
theorem ofBits_of_unsigned {bits : UInt64} (unsigned : (ofBits bits).Unsigned) :
    bits.toNat ≤ infinityBits ∧ ofBits bits = ranked false bits.toNat := by
  rw [ofBits_eq] at unsigned ⊢
  split at unsigned
  · next within =>
    have below : ¬ twoTo 63 ≤ bits.toNat := of_decide_eq_false (unsigned_ranked.1 unsigned)
    have rank : bits.toNat % twoTo 63 = bits.toNat := Nat.mod_eq_of_lt (by omega)
    rw [rank] at within ⊢
    rw [if_pos within, decide_eq_false below]
    exact ⟨within, rfl⟩
  · exact absurd unsigned id

/-- **No number rounds to two doubles without a sign.** -/
theorem RoundsTo.eq_of_unsigned {q : ℚ} {bits bits' : UInt64} (rounds : RoundsTo q (ofBits bits))
    (rounds' : RoundsTo q (ofBits bits')) (unsigned : (ofBits bits).Unsigned)
    (unsigned' : (ofBits bits').Unsigned) : bits = bits' := by
  have same := rounds.unique rounds'
  obtain ⟨within, rank⟩ := ofBits_of_unsigned unsigned
  obtain ⟨within', rank'⟩ := ofBits_of_unsigned unsigned'
  rw [rank, rank', (at_ranked false within).value, (at_ranked false within').value] at same
  have places : (bits.toNat : Int) = bits'.toNat := valueAt_strictMono.injective same
  exact UInt64.toNat_inj.1 (by exact_mod_cast places)

/-- A finite double has the significand and the exponent of its rank. -/
theorem exists_rank {bits : UInt64} {negative : Bool} {significand : Nat} {exponent : Int}
    (finite : ofBits bits = .finite negative significand exponent) :
    ∃ rank < infinityBits, significand = significandAt rank ∧ exponent = exponentAt rank := by
  rw [ofBits_eq] at finite
  split at finite
  · next within =>
    unfold ranked at finite
    split at finite
    · cases finite
    · next differs =>
      cases finite
      exact ⟨_, by omega, rfl, rfl⟩
  · cases finite

/-- Every number rounds to itself. -/
theorem RoundsTo.self {bits : UInt64} (number : ofBits bits ≠ .nan) :
    RoundsTo (ofBits bits).value (ofBits bits) := by
  refine ⟨number, fun other _ => ?_, fun other _ apart tie => absurd ?_ apart⟩
  · rw [sub_self, abs_zero]
    exact abs_nonneg _
  · rw [sub_self, abs_zero, abs_eq_zero] at tie
    linarith

end Double

end LineBasic
