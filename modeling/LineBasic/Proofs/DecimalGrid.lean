import LineBasic.Number.Shortest
import Mathlib

/-!
# Decimal grids in an interval

An interval of numbers meets a decimal grid, the multiples of a power of ten, or
it does not. The search for the shortest digits looks only at the two neighbours
of the centre on each grid. That is enough:

* **one grid** — if the interval has a point of a grid, the search finds the
  point of the grid in the interval that is nearest to the centre
  (`onGrid_eq_some`, `onGrid_eq_none`);
* **any decimal** — a decimal of `k` digits in the interval has a point of the
  grid of `k` digits between itself and the centre (`exists_gridPoint`), so that
  the grids stand for all decimals.
-/

namespace LineBasic

/-- Some decimal numeral of a number has at most so many digits, zeros at its
ends not counted. -/
def HasDigits (count : Nat) (q : ℚ) : Prop :=
  ∃ (m e : Int), m.natAbs < 10 ^ count ∧ q = m * 10 ^ e

theorem pow_toNat_div {b : ℚ} (positive : 0 < b) (e : Int) :
    b ^ e.toNat / b ^ (-e).toNat = b ^ e := by
  rw [← zpow_natCast, ← zpow_natCast, ← zpow_sub₀ positive.ne']
  congr 1
  omega

theorem cast_tenTo (n : Nat) : (tenTo n : ℚ) = 10 ^ n := by
  have : tenTo n = 10 ^ n := rfl
  rw [this]
  norm_num

theorem cast_twoTo (n : Nat) : (Double.twoTo n : ℚ) = 2 ^ n := by
  have : Double.twoTo n = 2 ^ n := rfl
  rw [this]
  norm_num

theorem tenTo_div (e : Int) : (tenTo e.toNat : ℚ) / tenTo (-e).toNat = 10 ^ e := by
  rw [cast_tenTo, cast_tenTo]
  exact pow_toNat_div (by norm_num) e

theorem ten_zpow_pos (e : Int) : (0 : ℚ) < 10 ^ e := zpow_pos (by norm_num) e

theorem HasDigits.mono {count count' : Nat} {q : ℚ} (spelled : HasDigits count q)
    (le : count ≤ count') : HasDigits count' q := by
  obtain ⟨m, e, few, same⟩ := spelled
  exact ⟨m, e, few.trans_le (Nat.pow_le_pow_right (by norm_num) le), same⟩

theorem hasDigits_neg {count : Nat} {q : ℚ} : HasDigits count (-q) ↔ HasDigits count q := by
  have mirrored (q : ℚ) (spelled : HasDigits count q) : HasDigits count (-q) := by
    obtain ⟨m, e, few, rfl⟩ := spelled
    exact ⟨-m, e, by simpa using few, by push_cast; ring⟩
  exact ⟨fun spelled => neg_neg q ▸ mirrored _ spelled, mirrored q⟩

theorem HasDigits.exists_nat {count : Nat} {q : ℚ} (spelled : HasDigits count q)
    (positive : 0 < q) : ∃ (n : Nat) (e : Int), n < 10 ^ count ∧ q = n * 10 ^ e := by
  obtain ⟨m, e, few, rfl⟩ := spelled
  have sign : 0 < m := by
    have := ten_zpow_pos e
    exact_mod_cast (pos_iff_pos_of_mul_pos positive).mpr this
  obtain ⟨n, rfl⟩ := Int.eq_ofNat_of_zero_le sign.le
  exact ⟨n, e, few, rfl⟩

theorem HasDigits.count_pos {count : Nat} {q : ℚ} (spelled : HasDigits count q)
    (positive : 0 < q) : 0 < count := by
  obtain ⟨n, e, few, rfl⟩ := spelled.exists_nat positive
  by_contra none
  have zero : n = 0 := by simpa [show count = 0 by omega] using few
  rw [zero] at positive
  simp at positive

/-- A multiple of a power of ten is one of each smaller power. -/
theorem cast_mul_zpow (n : Nat) {grid e : Int} (le : grid ≤ e) :
    ((n * 10 ^ (e - grid).toNat : Nat) : ℚ) * 10 ^ grid = n * 10 ^ e := by
  push_cast
  rw [mul_assoc, ← zpow_natCast, ← zpow_add₀ (by norm_num), Int.toNat_of_nonneg (by omega)]
  congr 2
  ring

theorem cast_zpow {grid e : Int} (le : grid ≤ e) :
    ((10 ^ (e - grid).toNat : Nat) : ℚ) * 10 ^ grid = 10 ^ e := by
  simpa using cast_mul_zpow 1 le

/-- The lengths of numerals are powers of ten. -/
theorem pow_le_of_length_toDigits {n : Nat} (positive : 0 < n) :
    10 ^ ((Nat.toDigits 10 n).length - 1) ≤ n ∧ n < 10 ^ (Nat.toDigits 10 n).length := by
  have some : 0 < (Nat.toDigits 10 n).length := Nat.length_toDigits_pos
  refine ⟨?_, (Nat.length_toDigits_le_iff (by norm_num) some).mp le_rfl⟩
  by_cases one : (Nat.toDigits 10 n).length = 1
  · rw [one]
    exact positive
  · by_contra! less
    have := (Nat.length_toDigits_le_iff (by norm_num) (by omega)).mpr less
    omega

namespace RoundingInterval

/-- The number that the interval is around. -/
def center (i : RoundingInterval) : ℚ := i.value / i.denominator

/-- A number lies in the interval. -/
def Contains (i : RoundingInterval) (q : ℚ) : Prop :=
  if i.closed then (i.low / i.denominator : ℚ) ≤ q ∧ q ≤ (i.high / i.denominator : ℚ)
  else (i.low / i.denominator : ℚ) < q ∧ q < (i.high / i.denominator : ℚ)

/-- The centre is inside the interval, which is positive. -/
structure Proper (i : RoundingInterval) : Prop where
  denominator_pos : 0 < i.denominator
  low_pos : 0 < i.low
  low_lt : i.low < i.value
  lt_high : i.value < i.high

section

variable {i : RoundingInterval} (proper : i.Proper)

include proper

theorem Proper.lt_center : (i.low / i.denominator : ℚ) < i.center := by
  have := proper.denominator_pos
  have := proper.low_lt
  unfold center
  gcongr

theorem Proper.center_lt : i.center < (i.high / i.denominator : ℚ) := by
  have := proper.denominator_pos
  have := proper.lt_high
  unfold center
  gcongr

theorem Proper.low_div_pos : (0 : ℚ) < i.low / i.denominator := by
  have := proper.denominator_pos
  have := proper.low_pos
  positivity

theorem Proper.pos_of_contains {q : ℚ} (inside : i.Contains q) : 0 < q := by
  have := proper.low_div_pos
  unfold Contains at inside
  split at inside <;> linarith

/-- What lies between the centre and a number of the interval is in it. -/
theorem Proper.contains_of_below {q r : ℚ} (inside : i.Contains q) (le : q ≤ r)
    (below : r ≤ i.center) : i.Contains r := by
  have := proper.center_lt
  unfold Contains at inside ⊢
  split at inside
  · next closed =>
    rw [if_pos closed]
    exact ⟨by linarith, by linarith⟩
  · next strict =>
    rw [if_neg strict]
    exact ⟨by linarith, by linarith⟩

theorem Proper.contains_of_above {q r : ℚ} (inside : i.Contains q) (le : r ≤ q)
    (above : i.center ≤ r) : i.Contains r := by
  have := proper.lt_center
  unfold Contains at inside ⊢
  split at inside
  · next closed =>
    rw [if_pos closed]
    exact ⟨by linarith, by linarith⟩
  · next strict =>
    rw [if_neg strict]
    exact ⟨by linarith, by linarith⟩

/-! ## One grid -/

theorem Proper.admits_iff (n : Nat) (e : Int) :
    i.admits n e = true ↔ i.Contains (n * 10 ^ e) := by
  have denominator : (0 : ℚ) < i.denominator := by exact_mod_cast proper.denominator_pos
  have scale : (0 : ℚ) < tenTo (-e).toNat := by
    rw [cast_tenTo]
    positivity
  have point : (n * 10 ^ e : ℚ) = n * tenTo e.toNat / tenTo (-e).toNat := by
    rw [← tenTo_div, mul_div_assoc]
  rw [point]
  unfold admits Contains
  simp only [div_le_div_iff₀ denominator scale, div_le_div_iff₀ scale denominator,
    div_lt_div_iff₀ denominator scale, div_lt_div_iff₀ scale denominator]
  norm_cast
  split <;> simp

end

/-- The last point of a grid that is not above the centre. -/
def floorOn (i : RoundingInterval) (e : Int) : Nat :=
  i.value * tenTo (-e).toNat / (i.denominator * tenTo e.toNat)

/-- The lower neighbour is the nearer one. -/
def nearerFloor (i : RoundingInterval) (e : Int) : Bool :=
  decide (2 * (i.value * tenTo (-e).toNat % (i.denominator * tenTo e.toNat)) <
    i.denominator * tenTo e.toNat)

theorem onGrid_eq (i : RoundingInterval) (e : Int) :
    i.onGrid e =
      match i.admits (i.floorOn e) e, i.admits (i.floorOn e + 1) e with
      | true, true => some (if i.nearerFloor e then i.floorOn e else i.floorOn e + 1)
      | true, false => some (i.floorOn e)
      | false, true => some (i.floorOn e + 1)
      | false, false => none := rfl

theorem onGrid_le {i : RoundingInterval} {e : Int} {n : Nat} (found : i.onGrid e = some n) :
    n ≤ i.floorOn e + 1 := by
  rw [onGrid_eq] at found
  split at found
  · cases found
    split <;> omega
  · cases found
    omega
  · cases found
    omega
  · cases found

section

variable {i : RoundingInterval} (proper : i.Proper) (e : Int)

include proper

/-- The centre lies between its two neighbours on a grid. -/
theorem Proper.floorOn_spec :
    (i.floorOn e : ℚ) * 10 ^ e ≤ i.center ∧ i.center < (i.floorOn e + 1) * 10 ^ e ∧
      (i.nearerFloor e = true ↔ 2 * (i.center - i.floorOn e * 10 ^ e) < 10 ^ e) := by
  have denominator : (0 : ℚ) < i.denominator := by exact_mod_cast proper.denominator_pos
  have scale : (0 : ℚ) < tenTo (-e).toNat := by
    rw [cast_tenTo]
    positivity
  have positive : 0 < i.denominator * tenTo e.toNat :=
    Nat.mul_pos proper.denominator_pos (Nat.pow_pos (by norm_num))
  unfold floorOn nearerFloor
  rw [decide_eq_true_iff]
  have split := Nat.div_add_mod (i.value * tenTo (-e).toNat) (i.denominator * tenTo e.toNat)
  have bound := Nat.mod_lt (i.value * tenTo (-e).toNat) positive
  generalize i.value * tenTo (-e).toNat / (i.denominator * tenTo e.toNat) = n at split
  generalize i.value * tenTo (-e).toNat % (i.denominator * tenTo e.toNat) = r at split bound
  -- Over the common denominator, the step is `step` and the centre `step * n + r`.
  have step : (10 ^ e : ℚ) =
      ↑(i.denominator * tenTo e.toNat) / (i.denominator * tenTo (-e).toNat) := by
    rw [← tenTo_div]
    push_cast
    field_simp
  have here : i.center =
      ↑(i.denominator * tenTo e.toNat * n + r) / (i.denominator * tenTo (-e).toNat) := by
    rw [split, center]
    push_cast
    field_simp
  have common : (0 : ℚ) < i.denominator * tenTo (-e).toNat := by positivity
  rw [step, here]
  generalize i.denominator * tenTo e.toNat = s at bound
  refine ⟨?_, ?_, ?_⟩
  · rw [mul_div_assoc', div_le_div_iff_of_pos_right common]
    exact_mod_cast (by linarith [Nat.zero_le r] : n * s ≤ s * n + r)
  · rw [mul_div_assoc', div_lt_div_iff_of_pos_right common]
    exact_mod_cast (by linarith : s * n + r < (n + 1) * s)
  · rw [mul_div_assoc', ← sub_div, mul_div_assoc', div_lt_div_iff_of_pos_right common]
    push_cast
    rw [← Nat.cast_lt (α := ℚ)]
    push_cast
    constructor <;> intro less <;> linarith

theorem Proper.floorOn_of_contains {m : Nat} (inside : i.Contains (m * 10 ^ e)) :
    m ≤ i.floorOn e ∧ i.Contains (i.floorOn e * 10 ^ e) ∨
      i.floorOn e + 1 ≤ m ∧ i.Contains (↑(i.floorOn e + 1) * 10 ^ e) := by
  have step := ten_zpow_pos e
  obtain ⟨floor, ceiling, _⟩ := proper.floorOn_spec e
  by_cases low : m ≤ i.floorOn e
  · refine .inl ⟨low, proper.contains_of_below inside ?_ floor⟩
    gcongr
  · refine .inr ⟨by omega, proper.contains_of_above inside ?_ ?_⟩
    · gcongr
      omega
    · push_cast
      exact ceiling.le

theorem Proper.onGrid_eq_none (nothing : i.onGrid e = none) (m : Nat) :
    ¬ i.Contains (m * 10 ^ e) := by
  intro inside
  rw [onGrid_eq] at nothing
  rcases proper.floorOn_of_contains e inside with ⟨_, here⟩ | ⟨_, here⟩ <;>
    rw [← proper.admits_iff] at here <;> rw [here] at nothing <;> split at nothing <;> simp_all

/-- A grid that is finer than the interval is wide has a point in it. -/
theorem Proper.onGrid_ne_none
    (fine : (10 : ℚ) ^ e < i.high / i.denominator - i.low / i.denominator) :
    i.onGrid e ≠ none := by
  intro nothing
  obtain ⟨floor, ceiling, _⟩ := proper.floorOn_spec e
  have below := proper.onGrid_eq_none e nothing (i.floorOn e)
  have above := proper.onGrid_eq_none e nothing (i.floorOn e + 1)
  have inside := proper.lt_center
  have inside' := proper.center_lt
  push_cast at above
  -- Otherwise the neighbours of the centre lie outside the interval, on either side.
  have low : (i.floorOn e : ℚ) * 10 ^ e ≤ i.low / i.denominator := by
    by_contra! inner
    exact below (by unfold Contains; split <;> constructor <;> linarith)
  have high : (i.high / i.denominator : ℚ) ≤ (i.floorOn e + 1) * 10 ^ e := by
    by_contra! inner
    exact above (by unfold Contains; split <;> constructor <;> linarith)
  linarith

/-- Of the points on either side, the neighbours are nearest to the centre. -/
theorem Proper.neighbours_nearest (m : Nat) :
    (m ≤ i.floorOn e → |i.center - i.floorOn e * 10 ^ e| ≤ |i.center - m * 10 ^ e|) ∧
      (i.floorOn e + 1 ≤ m →
        |i.center - ↑(i.floorOn e + 1) * 10 ^ e| ≤ |i.center - m * 10 ^ e|) := by
  obtain ⟨floor, ceiling, _⟩ := proper.floorOn_spec e
  have step := ten_zpow_pos e
  constructor <;> intro side
  · have order : (m * 10 ^ e : ℚ) ≤ i.floorOn e * 10 ^ e := by gcongr
    rw [abs_of_nonneg (by linarith), abs_of_nonneg (by linarith)]
    linarith
  · have order : (↑(i.floorOn e + 1) * 10 ^ e : ℚ) ≤ m * 10 ^ e := by gcongr
    have above : i.center < ↑(i.floorOn e + 1) * 10 ^ e := by
      push_cast
      exact ceiling
    rw [abs_of_neg (by linarith), abs_of_neg (by linarith)]
    linarith

/-- The search takes the nearer neighbour. -/
theorem Proper.nearerFloor_iff : i.nearerFloor e = true ↔
    |i.center - i.floorOn e * 10 ^ e| < |i.center - ↑(i.floorOn e + 1) * 10 ^ e| := by
  obtain ⟨floor, ceiling, nearer⟩ := proper.floorOn_spec e
  rw [nearer, abs_of_nonneg (by linarith), abs_of_neg (by push_cast; linarith)]
  push_cast
  constructor <;> intro less <;> linarith

/-- **The search finds the nearest point of a grid in the interval.** -/
theorem Proper.onGrid_eq_some {n : Nat} (found : i.onGrid e = some n) :
    i.Contains (n * 10 ^ e) ∧
      ∀ m : Nat, i.Contains (m * 10 ^ e) → |i.center - n * 10 ^ e| ≤ |i.center - m * 10 ^ e| := by
  have floor := proper.admits_iff (i.floorOn e) e
  have ceiling := proper.admits_iff (i.floorOn e + 1) e
  rw [onGrid_eq] at found
  split at found
  · next below above =>
    rw [below] at floor
    rw [above] at ceiling
    by_cases nearer : i.nearerFloor e = true
    · rw [if_pos nearer] at found
      cases found
      rw [proper.nearerFloor_iff] at nearer
      refine ⟨floor.mp rfl, fun m inside => ?_⟩
      rcases proper.floorOn_of_contains e inside with ⟨le, _⟩ | ⟨le, _⟩
      · exact (proper.neighbours_nearest e m).1 le
      · exact nearer.le.trans ((proper.neighbours_nearest e m).2 le)
    · rw [if_neg nearer] at found
      cases found
      rw [proper.nearerFloor_iff, not_lt] at nearer
      refine ⟨ceiling.mp rfl, fun m inside => ?_⟩
      rcases proper.floorOn_of_contains e inside with ⟨le, _⟩ | ⟨le, _⟩
      · exact nearer.trans ((proper.neighbours_nearest e m).1 le)
      · exact (proper.neighbours_nearest e m).2 le
  · next below above =>
    cases found
    rw [below] at floor
    refine ⟨floor.mp rfl, fun m inside => ?_⟩
    rcases proper.floorOn_of_contains e inside with ⟨le, _⟩ | ⟨_, here⟩
    · exact (proper.neighbours_nearest e m).1 le
    · rw [ceiling.mpr here] at above
      cases above
  · next below above =>
    cases found
    rw [above] at ceiling
    refine ⟨ceiling.mp rfl, fun m inside => ?_⟩
    rcases proper.floorOn_of_contains e inside with ⟨_, here⟩ | ⟨le, _⟩
    · rw [floor.mpr here] at below
      cases below
    · exact (proper.neighbours_nearest e m).2 le
  · cases found

end

/-! ## The place of the decimal point -/

section

variable {i : RoundingInterval} (proper : i.Proper)

include proper

/-- **The point tells the size of the centre.** -/
theorem Proper.point_spec :
    (10 : ℚ) ^ (i.point - 1) ≤ i.center ∧ i.center < (10 : ℚ) ^ i.point := by
  have denominator := proper.denominator_pos
  have value : 0 < i.value := by
    have := proper.low_lt
    omega
  have denominator' : (0 : ℚ) < i.denominator := by exact_mod_cast denominator
  have value' : (0 : ℚ) < i.value := by exact_mod_cast value
  unfold point center
  split
  · next large =>
    obtain ⟨least, greatest⟩ := pow_le_of_length_toDigits (Nat.div_pos large denominator)
    have some : 0 < (Nat.toDigits 10 (i.value / i.denominator)).length := Nat.length_toDigits_pos
    generalize (Nat.toDigits 10 (i.value / i.denominator)).length = count at *
    rw [Nat.le_div_iff_mul_le denominator] at least
    rw [Nat.div_lt_iff_lt_mul denominator] at greatest
    have last : ((count : Int) - 1) = ((count - 1 : Nat) : Int) := by omega
    rw [last, zpow_natCast, zpow_natCast, le_div_iff₀ denominator', div_lt_iff₀ denominator']
    exact ⟨by exact_mod_cast least, by exact_mod_cast greatest⟩
  · next small =>
    have positive : 0 < (i.denominator - 1) / i.value := Nat.div_pos (by omega) value
    obtain ⟨least, greatest⟩ := pow_le_of_length_toDigits positive
    have some : 0 < (Nat.toDigits 10 ((i.denominator - 1) / i.value)).length :=
      Nat.length_toDigits_pos
    generalize (Nat.toDigits 10 ((i.denominator - 1) / i.value)).length = count at *
    rw [Nat.le_div_iff_mul_le value] at least
    rw [Nat.div_lt_iff_lt_mul value] at greatest
    have first : (1 - (count : Int) - 1) = -(count : Int) := by ring
    have last : (1 - (count : Int)) = -((count - 1 : Nat) : Int) := by omega
    rw [first, last, zpow_neg, zpow_neg, zpow_natCast, zpow_natCast]
    rw [inv_le_iff_one_le_mul₀ (by positivity), lt_inv_comm₀ (by positivity) (by positivity),
      inv_div, lt_div_iff₀ value', div_mul_eq_mul_div, one_le_div denominator']
    refine ⟨?_, ?_⟩
    · rw [mul_comm]
      exact_mod_cast (by omega : i.denominator ≤ 10 ^ count * i.value)
    · exact_mod_cast (by omega : 10 ^ (count - 1) * i.value < i.denominator)

/-! ## All decimals -/

/-- The exponent of the grid whose points have `count` digits. -/
def grid (i : RoundingInterval) (count : Nat) : Int := i.point - count

/-- What the search finds on the grid of `count` digits has so many. -/
theorem Proper.hasDigits_of_onGrid {count n : Nat} (some : 0 < count)
    (found : i.onGrid (i.grid count) = Option.some n) : HasDigits count (n * 10 ^ i.grid count) := by
  have power : ((10 ^ count : Nat) : ℚ) * 10 ^ i.grid count = 10 ^ i.point := by
    rw [← cast_zpow (show i.grid count ≤ i.point by unfold grid; omega)]
    congr 3
    unfold grid
    omega
  have most : n ≤ 10 ^ count := by
    have floor := (proper.floorOn_spec (i.grid count)).1.trans_lt proper.point_spec.2
    rw [← power] at floor
    have less : i.floorOn (i.grid count) < 10 ^ count := by
      exact_mod_cast lt_of_mul_lt_mul_right floor (ten_zpow_pos _).le
    have := onGrid_le found
    omega
  rcases most.lt_or_eq with less | all
  · exact ⟨n, _, less, rfl⟩
  · refine ⟨1, i.point, Nat.one_lt_pow some.ne' (by norm_num), ?_⟩
    rw [all, power, Int.cast_one, one_mul]

/-- **A decimal of `count` digits in the interval has a point of the grid of
`count` digits between itself and the centre**, or is one. -/
theorem Proper.exists_gridPoint {count : Nat} {q : ℚ} (inside : i.Contains q)
    (spelled : HasDigits count q) :
    ∃ m : Nat, i.Contains (m * 10 ^ i.grid count) ∧
      |i.center - m * 10 ^ i.grid count| ≤ |i.center - q| := by
  have some := spelled.count_pos (proper.pos_of_contains inside)
  obtain ⟨n, e, few, rfl⟩ := spelled.exists_nat (proper.pos_of_contains inside)
  obtain ⟨least, greatest⟩ := proper.point_spec
  unfold grid
  by_cases large : (10 : ℚ) ^ i.point ≤ n * 10 ^ e
  · -- the power of ten above the centre
    have here := cast_zpow (show i.point - count ≤ i.point by omega)
    refine ⟨_, here ▸ proper.contains_of_above inside large greatest.le, ?_⟩
    rw [here, abs_of_neg (by linarith), abs_of_neg (by linarith)]
    linarith
  by_cases small : n * 10 ^ e < (10 : ℚ) ^ (i.point - 1)
  · -- the power of ten below it
    have here := cast_zpow (show i.point - count ≤ i.point - 1 by omega)
    refine ⟨_, here ▸ proper.contains_of_below inside small.le least, ?_⟩
    rw [here, abs_of_nonneg (by linarith), abs_of_nonneg (by linarith)]
    linarith
  · -- Between them the last of the digits is not behind the grid.
    have ends : i.point - count ≤ e := by
      have bound : (n : ℚ) * 10 ^ e < 10 ^ (count + e) := by
        rw [zpow_add₀ (by norm_num), zpow_natCast]
        have := ten_zpow_pos e
        gcongr
        exact_mod_cast few
      have := (not_lt.mp small).trans_lt bound
      rw [zpow_lt_zpow_iff_right₀ (by norm_num)] at this
      omega
    have here := cast_mul_zpow n ends
    exact ⟨_, here ▸ inside, by rw [here]⟩

end

end RoundingInterval

end LineBasic
