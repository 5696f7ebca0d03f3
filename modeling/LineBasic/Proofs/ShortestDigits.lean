import LineBasic.Proofs.DigitRuns
import LineBasic.Proofs.Rounding

/-!
# Shortest digits identify a double

`DecimalDigits.shortest` finds, for a finite double that is not zero, the digits
of the decimal that is nearest to it among those of the fewest digits that round
to it (`DecimalDigits.identifies_signed`).

* **the interval** — the interval of the search contains just the numbers that
  round to the double (`contains_interval_iff`);
* **one grid** — a grid that has a point in the interval gives the point nearest
  to the double (`RoundingInterval.Proper.onGrid_eq_some`);
* **all grids** — the grid of seventeen digits has one (`onGrid_last`), and the
  first grid that has one is the one of the fewest digits
  (`DecimalDigits.identifies_ofRank`).
-/

namespace LineBasic

open Double

/-- A decimal of `count` digits is the numeral of a double: it rounds to the
double, no decimal of fewer digits does, and none of as many digits is nearer. -/
structure Identifies (count : Nat) (q : ℚ) (d : Double) : Prop where
  rounds : RoundsTo q d
  spelled : HasDigits count q
  fewest : ∀ q' count', RoundsTo q' d → HasDigits count' q' → count ≤ count'
  nearest : ∀ q', RoundsTo q' d → HasDigits count q' → |q - d.value| ≤ |q' - d.value|

theorem Identifies.neg {count : Nat} {q : ℚ} {place : Int} {d d' : Double}
    (identifies : Identifies count q d) (here : At place d) (there : At (-place) d') : Identifies count (-q) d' := by
  have opposite : d'.value = -d.value := by rw [there.value, here.value, valueAt_neg]
  have back (q' : ℚ) : RoundsTo q' d' ↔ RoundsTo (-q') d := by
    rw [← roundsTo_neg_iff here there, neg_neg]
  refine ⟨(roundsTo_neg_iff here there).mpr identifies.rounds,
    hasDigits_neg.mpr identifies.spelled, ?_, ?_⟩
  · intro q' count' rounds spelled
    exact identifies.fewest _ _ ((back q').mp rounds) (hasDigits_neg.mpr spelled)
  · intro q' rounds spelled
    have := identifies.nearest _ ((back q').mp rounds) (hasDigits_neg.mpr spelled)
    rw [opposite]
    calc |-q - -d.value| = |q - d.value| := by rw [← abs_neg]; ring_nf
      _ ≤ |-q' - d.value| := this
      _ = |q' - -d.value| := by rw [← abs_neg]; ring_nf

/-! ## The interval -/

namespace Double

theorem significandAt_lt (rank : Nat) : significandAt rank < 2 * unit := by
  unfold significandAt
  rw [unit_eq]
  split <;> omega

/-- The interval of a rank. -/
def interval (rank : Nat) : RoundingInterval :=
  .around (significandAt rank) (exponentAt rank)

/-- How many quarters of a unit in the last place the interval reaches down. -/
def quartersBelow (rank : Nat) : Nat :=
  if significandAt rank = unit ∧ leastExponent < exponentAt rank then 1 else 2

variable (rank : Nat)

theorem interval_value : (interval rank).value =
    4 * significandAt rank * twoTo (exponentAt rank - 2).toNat := rfl

theorem interval_low : (interval rank).low =
    (4 * significandAt rank - quartersBelow rank) * twoTo (exponentAt rank - 2).toNat := rfl

theorem interval_high : (interval rank).high =
    (4 * significandAt rank + 2) * twoTo (exponentAt rank - 2).toNat := rfl

theorem interval_denominator : (interval rank).denominator =
    twoTo (2 - exponentAt rank).toNat := rfl

theorem interval_closed : (interval rank).closed = true ↔ rank % 2 = 0 := by
  rw [← significandAt_mod_two]
  exact beq_iff_eq

theorem quartersBelow_le : quartersBelow rank ≤ 2 := by
  unfold quartersBelow
  split <;> omega

theorem quartersBelow_pos : 0 < quartersBelow rank := by
  unfold quartersBelow
  split <;> omega

theorem proper_interval {rank : Nat} (positive : 0 < rank) : (interval rank).Proper := by
  have some := significandAt_pos positive
  have scale : 0 < twoTo (exponentAt rank - 2).toNat := Nat.pow_pos (by norm_num)
  have most := quartersBelow_le rank
  have least := quartersBelow_pos rank
  refine ⟨Nat.pow_pos (by norm_num), ?_, ?_, ?_⟩
  · rw [interval_low]
    exact Nat.mul_pos (by omega) scale
  · rw [interval_low, interval_value]
    exact Nat.mul_lt_mul_of_pos_right (by omega) scale
  · rw [interval_high, interval_value]
    exact Nat.mul_lt_mul_of_pos_right (by omega) scale

/-- Quarters of a unit in the last place are over the denominator. -/
theorem quarters_div (n : Nat) :
    ((n * twoTo (exponentAt rank - 2).toNat : Nat) : ℚ) / (interval rank).denominator =
      n / 4 * 2 ^ exponentAt rank := by
  have power := pow_toNat_div (b := 2) (by norm_num) (exponentAt rank - 2)
  rw [neg_sub, zpow_sub₀ (by norm_num)] at power
  rw [interval_denominator, Nat.cast_mul, cast_twoTo, cast_twoTo, mul_div_assoc, power]
  norm_num
  ring

theorem center_interval : (interval rank).center = magnitude rank := by
  rw [RoundingInterval.center, interval_value, quarters_div, magnitude]
  push_cast
  ring

theorem high_interval : ((interval rank).high / (interval rank).denominator : ℚ) =
    (magnitude rank + magnitude (rank + 1)) / 2 := by
  rw [interval_high, quarters_div, magnitude_succ, magnitude]
  push_cast
  ring

theorem low_interval : ((interval (rank + 1)).low / (interval (rank + 1)).denominator : ℚ) =
    (magnitude rank + magnitude (rank + 1)) / 2 := by
  have some : 0 < significandAt (rank + 1) := significandAt_pos (Nat.succ_pos rank)
  have most := quartersBelow_le (rank + 1)
  have step := magnitude_succ rank
  have here : magnitude (rank + 1) = significandAt (rank + 1) * 2 ^ exponentAt (rank + 1) := rfl
  rw [interval_low, quarters_div, Nat.cast_sub (by omega)]
  rcases succ_cases rank with ⟨_, same, least⟩ | ⟨first, _, carried, above⟩
  · have quarters : quartersBelow (rank + 1) = 2 := by
      unfold quartersBelow
      rw [if_neg]
      rintro ⟨first, above⟩
      have := least first
      omega
    rw [quarters, show magnitude rank = magnitude (rank + 1) - 2 ^ exponentAt (rank + 1) by
      rw [step, same]; ring, here]
    push_cast
    ring
  · have quarters : quartersBelow (rank + 1) = 1 := by
      unfold quartersBelow
      rw [if_pos ⟨first, above⟩]
    have half : (2 : ℚ) ^ exponentAt (rank + 1) = 2 * 2 ^ exponentAt rank := by
      rw [carried, zpow_add_one₀ (by norm_num)]
      ring
    rw [quarters, show magnitude rank = magnitude (rank + 1) - 2 ^ exponentAt rank by
      rw [step]; ring, here, half]
    push_cast
    ring

/-- **The interval of a double contains the numbers that round to it.** -/
theorem contains_interval_iff {rank : Nat} (positive : 0 < rank) (finite : rank < infinityBits)
    {q : ℚ} : (interval rank).Contains q ↔ RoundsTo q (ranked false rank) := by
  have here : At (rank : Int) (ranked false rank) := at_ranked false finite.le
  obtain ⟨before, rfl⟩ : ∃ before, rank = before + 1 := ⟨rank - 1, by omega⟩
  have pred : ((before + 1 : Nat) : Int) - 1 = before := by push_cast; ring
  have succ : ((before + 1 : Nat) : Int) + 1 = (before + 1 + 1 : Nat) := by push_cast; ring
  have parity : ((before + 1 : Nat) : Int) % 2 = 0 ↔ (before + 1) % 2 = 0 := by omega
  rw [roundsTo_iff here, prefers_iff_of_lt (by omega), prefers_iff_of_gt (by omega), pred, succ,
    valueAt_natCast, valueAt_natCast, valueAt_natCast, parity, ← interval_closed]
  have within : -(infinityBits : Int) < (before + 1 : Nat) ∧
      ((before + 1 : Nat) : Int) < infinityBits := by omega
  unfold RoundingInterval.Contains
  rw [low_interval, high_interval]
  by_cases closed : (interval (before + 1)).closed = true
  · simp only [closed, if_true, and_true, within, true_implies, le_iff_lt_or_eq, eq_comm]
  · simp only [closed, and_false, or_false, within, true_implies, Bool.false_eq_true, if_false]

/-- A double is less than ten to the sixteenth times as large as its interval is
wide. -/
theorem center_lt_width {rank : Nat} (positive : 0 < rank) :
    (interval rank).center < 10 ^ 16 *
      ((interval rank).high / (interval rank).denominator -
        (interval rank).low / (interval rank).denominator) := by
  have some := significandAt_pos positive
  have most := quartersBelow_le rank
  have quarters : 4 * significandAt rank < 10 ^ 16 * (2 + quartersBelow rank) := by
    have bound := significandAt_lt rank
    rw [unit_eq] at bound
    unfold quartersBelow
    rw [unit_eq]
    split <;> omega
  have scale := two_zpow_pos (exponentAt rank)
  rw [center_interval, magnitude, interval_high, interval_low, quarters_div, quarters_div,
    ← sub_mul, ← mul_assoc, Nat.cast_sub (by omega)]
  gcongr
  have : ((4 * significandAt rank : Nat) : ℚ) < ((10 ^ 16 * (2 + quartersBelow rank) : Nat) : ℚ) :=
    by exact_mod_cast quarters
  push_cast at this ⊢
  linarith

/-- The grid of seventeen digits is fine enough for every double. -/
theorem onGrid_last {rank : Nat} (positive : 0 < rank) :
    (interval rank).onGrid ((interval rank).grid 17) ≠ none := by
  have proper := proper_interval positive
  refine proper.onGrid_ne_none _ ?_
  have wide := center_lt_width positive
  have least := proper.point_spec.1
  have step : (10 : ℚ) ^ ((interval rank).point - 1) = 10 ^ 16 * 10 ^ (interval rank).grid 17 := by
    rw [← zpow_natCast, ← zpow_add₀ (by norm_num), RoundingInterval.grid]
    congr 1
    push_cast
    ring
  linarith

end Double

/-! ## The search -/

/-- A search over a range finds the first number that has an answer. -/
theorem findSome?_range {α : Type} {f : Nat → Option α} {n : Nat}
    (answers : ∃ k < n, f k ≠ none) :
    ∃ k < n, ∃ a, f k = some a ∧ (List.range n).findSome? f = some a ∧ ∀ j < k, f j = none := by
  induction n with
  | zero =>
    obtain ⟨k, below, _⟩ := answers
    omega
  | succ n ih =>
    rw [List.range_succ, List.findSome?_append]
    by_cases earlier : ∃ k < n, f k ≠ none
    · obtain ⟨k, below, a, here, found, none⟩ := ih earlier
      exact ⟨k, by omega, a, here, by rw [found]; rfl, none⟩
    · push Not at earlier
      obtain ⟨k, below, answer⟩ := answers
      have last : k = n := by
        by_contra differs
        exact answer (earlier k (by omega))
      subst last
      obtain ⟨a, here⟩ := Option.ne_none_iff_exists'.mp answer
      have nothing : (List.range k).findSome? f = none := by
        rw [List.findSome?_eq_none_iff]
        exact fun j member => earlier j (List.mem_range.mp member)
      exact ⟨k, by omega, a, here, by simp [nothing, here], earlier⟩

namespace DecimalDigits

variable {rank : Nat} (positive : 0 < rank)

/-- The shortest digits of the doubles with a rank. -/
def ofRank (rank : Nat) : DecimalDigits := shortest (significandAt rank) (exponentAt rank)

/-- What comes of the grid of `count + 1` digits. -/
def onGridOf (rank count : Nat) : Option DecimalDigits :=
  ((interval rank).onGrid ((interval rank).grid (count + 1))).map
    (ofScaled · ((interval rank).grid (count + 1)))

theorem ofRank_eq (rank : Nat) :
    ofRank rank =
      match (List.range mostDigits).findSome? (onGridOf rank) with
      | some found => found
      | none => ⟨[], 0⟩ := by
  rw [ofRank, shortest, List.findSome?_map]
  rfl

include positive

/-- The digits come from the first grid that has a point in the interval. -/
theorem exists_onGrid : ∃ count n : Nat,
    (interval rank).onGrid ((interval rank).grid (count + 1)) = some n ∧
      ofRank rank = ofScaled n ((interval rank).grid (count + 1)) ∧
      ∀ fewer < count, (interval rank).onGrid ((interval rank).grid (fewer + 1)) = none := by
  have last : ∃ count < mostDigits, onGridOf rank count ≠ none :=
    ⟨16, by decide, by simpa [onGridOf] using onGrid_last positive⟩
  obtain ⟨count, _, digits, here, found, before⟩ := findSome?_range last
  obtain ⟨n, grid, scaled⟩ := Option.map_eq_some_iff.mp here
  refine ⟨count, n, grid, ?_, ?_⟩
  · rw [ofRank_eq, found, ← scaled]
  · intro fewer less
    simpa [onGridOf] using before fewer less

theorem normal_ofRank : (ofRank rank).Normal := by
  obtain ⟨count, n, grid, same, _⟩ := exists_onGrid positive
  have proper := proper_interval positive
  have inside := proper.pos_of_contains (proper.onGrid_eq_some _ grid).1
  rw [same]
  refine normal_ofScaled _ ?_
  by_contra zero
  rw [show n = 0 by omega] at inside
  simp at inside

/-- **The shortest digits identify the double.** -/
theorem identifies_ofRank (finite : rank < infinityBits) :
    Identifies (ofRank rank).digits.length (ofRank rank).value (ranked false rank) := by
  obtain ⟨count, n, grid, same, before⟩ := exists_onGrid positive
  have proper := proper_interval positive
  have inside {q : ℚ} : (interval rank).Contains q ↔ RoundsTo q (ranked false rank) :=
    contains_interval_iff positive finite
  obtain ⟨here, nearest⟩ := proper.onGrid_eq_some _ grid
  have value : (ofRank rank).value = n * 10 ^ (interval rank).grid (count + 1) := by
    rw [same, value_ofScaled]
  have length : (ofRank rank).digits.length ≤ count + 1 := by
    refine (normal_ofRank positive).length_le ?_
    rw [value]
    exact proper.hasDigits_of_onGrid (by omega) grid
  have center : (ranked false rank).value = (interval rank).center := by
    rw [(at_ranked false finite.le).value, center_interval]
    exact valueAt_natCast rank
  refine ⟨?_, hasDigits_value (normal_ofRank positive).digits, ?_, ?_⟩
  · rw [value]
    exact inside.mp here
  · intro q' count' rounds spelled
    refine length.trans ?_
    by_contra! fewer
    have some := spelled.count_pos (proper.pos_of_contains (inside.mpr rounds))
    obtain ⟨few, rfl⟩ : ∃ few, count' = few + 1 := ⟨count' - 1, by omega⟩
    obtain ⟨m, point, _⟩ := proper.exists_gridPoint (inside.mpr rounds) spelled
    exact proper.onGrid_eq_none _ (before few (by omega)) m point
  · intro q' rounds spelled
    obtain ⟨m, point, closer⟩ :=
      proper.exists_gridPoint (inside.mpr rounds) (spelled.mono length)
    rw [value, center, abs_sub_comm, abs_sub_comm q']
    exact (nearest m point).trans closer

/-- **With its sign, the same holds of every double.** -/
theorem identifies_signed (negative : Bool) (finite : rank < infinityBits) :
    Identifies (ofRank rank).digits.length (signFactor negative * (ofRank rank).value)
      (ranked negative rank) := by
  have unsigned := identifies_ofRank positive finite
  cases negative with
  | false => simpa [signFactor] using unsigned
  | true =>
    have := unsigned.neg (at_ranked false finite.le) (at_ranked true finite.le)
    simpa [signFactor] using this

end DecimalDigits

end LineBasic
