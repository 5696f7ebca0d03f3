import LineBasic.Proofs.DecimalGrid
import LineBasic.Proofs.FloatPatterns

/-!
# The double nearest to a natural number

A natural number with leading power `2 ^ top` is rounded as the quotient by
`2 ^ (top - 52)`, and the rounded quotient is added to an exponent field. The
doubles of one exponent are the multiples of a power of two
(`Double.magnitude_binade`), so the nearest quotient is the nearest double, also
where it carries into the next exponent.

* **one quotient** — it is rounded to the nearest natural number, a half to the
  even one (`nearestNat_roundHalfEven`);
* **one exponent** — the number prefers the rank made of the quotient to the two
  ranks beside it (`Double.prefers_pred_binade`, `Double.prefers_succ_binade`);
* **all exponents** — the number rounds to its nearest double
  (**`Double.roundsTo_nearestTo`**), which is an infinity from `2 ^ 1024 - 2 ^ 970`
  on (`Double.nearestTo_eq_infinite_iff`) and exact up to `2 ^ 53`
  (`Double.value_nearestTo`).

The value of a literal is the double without a sign to which the number that it
spells rounds, and no other (**`Double.eq_literalValue_iff`**).
-/

namespace LineBasic

/-! ## Rounding quotients -/

/-- A natural number is nearest to `q`, or it is even and as near as another. -/
structure NearestNat (s : Nat) (q : ℚ) : Prop where
  above : (s : ℚ) - 1 / 2 < q ∨ q = s - 1 / 2 ∧ s % 2 = 0
  below : q < s + 1 / 2 ∨ q = s + 1 / 2 ∧ s % 2 = 0

theorem nearestNat_roundHalfEven (n : Nat) {d : Nat} (positive : 0 < d) :
    NearestNat (roundHalfEven n d) (n / d) := by
  have scale : (0 : ℚ) < d := by exact_mod_cast positive
  have whole : (n : ℚ) = d * (n / d : Nat) + (n % d : Nat) := by
    exact_mod_cast (Nat.div_add_mod n d).symm
  have quotient : (n : ℚ) / d = (n / d : Nat) + ((n % d : Nat) : ℚ) / d := by
    rw [div_eq_iff scale.ne', whole]
    field_simp
  have least : (0 : ℚ) ≤ ((n % d : Nat) : ℚ) / d := by positivity
  have most : ((n % d : Nat) : ℚ) / d < 1 := by
    rw [div_lt_one scale]
    exact_mod_cast Nat.mod_lt n positive
  have next : ((n / d + 1 : Nat) : ℚ) = (n / d : Nat) + 1 := Nat.cast_succ _
  have half (r : Nat) : ((2 * r : Nat) : ℚ) / d = 2 * (r / d) := by
    push_cast
    ring
  unfold roundHalfEven
  simp only
  rw [quotient]
  rcases Nat.lt_trichotomy (2 * (n % d)) d with less | tie | more
  · have small : 2 * (((n % d : Nat) : ℚ) / d) < 1 := by
      rw [← half, div_lt_one scale]
      exact_mod_cast less
    rw [if_pos less]
    exact ⟨.inl (by linarith), .inl (by linarith)⟩
  · have middle : 2 * (((n % d : Nat) : ℚ) / d) = 1 := by
      rw [← half, tie, div_self scale.ne']
    rw [if_neg (by omega), if_neg (by omega)]
    rcases Nat.mod_two_eq_zero_or_one (n / d) with even | odd
    · rw [even, add_zero]
      exact ⟨.inl (by linarith), .inr ⟨by linarith, even⟩⟩
    · rw [odd]
      exact ⟨.inr ⟨by linarith, by omega⟩, .inl (by linarith)⟩
  · have large : 1 < 2 * (((n % d : Nat) : ℚ) / d) := by
      rw [← half, one_lt_div scale]
      exact_mod_cast more
    rw [if_neg (by omega), if_pos more]
    exact ⟨.inl (by linarith), .inl (by linarith)⟩

/-- A quotient without remainder is not rounded. -/
theorem NearestNat.eq_of_natCast {s m : Nat} (nearest : NearestNat s m) : s = m := by
  have above : (s : ℚ) < m + 1 := by
    rcases nearest.above with less | ⟨tie, _⟩ <;> linarith
  have below : (m : ℚ) < s + 1 := by
    rcases nearest.below with less | ⟨tie, _⟩ <;> linarith
  have : s < m + 1 := by exact_mod_cast above
  have : m < s + 1 := by exact_mod_cast below
  omega

/-- Rounding stays between natural numbers. -/
theorem NearestNat.mem_Icc {s a b : Nat} {q : ℚ} (nearest : NearestNat s q) (least : (a : ℚ) ≤ q)
    (most : q ≤ b) : a ≤ s ∧ s ≤ b := by
  have above : (s : ℚ) < b + 1 := by
    rcases nearest.above with less | ⟨tie, _⟩ <;> linarith
  have below : (a : ℚ) < s + 1 := by
    rcases nearest.below with less | ⟨tie, _⟩ <;> linarith
  have : s < b + 1 := by exact_mod_cast above
  have : a < s + 1 := by exact_mod_cast below
  omega

namespace Double

/-! ## The doubles of one exponent -/

/-- From a leading power to the next, the doubles are the multiples of the unit in
the last place. -/
theorem magnitude_binade (top : Nat) {s : Nat} (least : unit ≤ s) (most : s ≤ 2 * unit) :
    magnitude ((top + 1022) * unit + s) = s * 2 ^ ((top : Int) - 52) := by
  have positive : 0 < unit := by decide
  unfold magnitude significandAt exponentAt
  rcases most.lt_or_eq with less | full
  · have field : ((top + 1022) * unit + s) / unit = top + 1023 := by
      rw [Nat.div_eq_iff positive, unit_eq] at *
      omega
    have fraction : ((top + 1022) * unit + s) % unit = s - unit := by
      rw [unit_eq] at *
      omega
    have exponent : leastExponent + ((top + 1023 - 1 : Nat) : Int) = (top : Int) - 52 := by
      rw [leastExponent]
      omega
    rw [field, fraction, if_neg (by omega), exponent, Nat.add_sub_cancel' least]
  · have field : ((top + 1022) * unit + s) / unit = top + 1024 := by
      rw [full, unit_eq]
      omega
    have fraction : ((top + 1022) * unit + s) % unit = 0 := by
      rw [full, unit_eq]
      omega
    have exponent : leastExponent + ((top + 1024 - 1 : Nat) : Int) = (top : Int) - 52 + 1 := by
      rw [leastExponent]
      omega
    have twice : ((2 * unit : Nat) : ℚ) = 2 * unit := Nat.cast_mul 2 unit
    rw [field, fraction, if_neg (by omega), exponent, zpow_add_one₀ (by norm_num), full, add_zero,
      twice]
    ring

/-! ## The nearest rank -/

theorem magnitude_strictMono : StrictMono magnitude := by
  refine strictMono_nat_of_lt_succ fun rank => ?_
  rw [magnitude_succ]
  linarith [two_zpow_pos (exponentAt rank)]

/-- Ranks of one exponent are even if the multiples are. -/
theorem even_binade_iff (top s : Nat) :
    (((top + 1022) * unit + s : Nat) : Int) % 2 = 0 ↔ s % 2 = 0 := by
  rw [unit_eq]
  omega

section Binade

variable {top s : Nat} {q : ℚ} (least : unit ≤ s) (most : s ≤ 2 * unit)
  (nearest : NearestNat s (q / 2 ^ ((top : Int) - 52)))

include least most nearest

/-- The rank made of a rounded quotient is preferred to the one below it. -/
theorem prefers_pred_binade (above : unit * 2 ^ ((top : Int) - 52) ≤ q) :
    Prefers q ((top + 1022) * unit + s : Nat) (((top + 1022) * unit + s : Nat) - 1) := by
  have step := two_zpow_pos ((top : Int) - 52)
  have positive : 0 < unit := by decide
  have pred : (((top + 1022) * unit + s : Nat) : Int) - 1 =
      ((top + 1022) * unit + (s - 1) : Nat) := by omega
  have here := magnitude_binade top least most
  rw [prefers_iff_of_lt (by omega), even_binade_iff, pred, valueAt_natCast,
    valueAt_natCast, here]
  rcases least.lt_or_eq with inside | first
  · have before := magnitude_binade top (s := s - 1) (by omega) (by omega)
    have middle : (((s : ℚ) - 1) * 2 ^ ((top : Int) - 52) + s * 2 ^ ((top : Int) - 52)) / 2 =
        (s - 1 / 2) * 2 ^ ((top : Int) - 52) := by ring
    rw [before, Nat.cast_sub (by omega), Nat.cast_one, middle, ← lt_div_iff₀ step,
      ← div_eq_iff step.ne']
    exact nearest.above
  · -- below the leading power the doubles are closer, but the number is not below it
    have less := magnitude_strictMono (show (top + 1022) * unit + (s - 1) <
      (top + 1022) * unit + s by omega)
    rw [here] at less
    rw [first] at above
    left
    linarith

/-- The rank made of a rounded quotient is preferred to the one above it. -/
theorem prefers_succ_binade (below : q ≤ 2 * unit * 2 ^ ((top : Int) - 52)) :
    Prefers q ((top + 1022) * unit + s : Nat) (((top + 1022) * unit + s : Nat) + 1) := by
  have step := two_zpow_pos ((top : Int) - 52)
  have succ : (((top + 1022) * unit + s : Nat) : Int) + 1 =
      ((top + 1022) * unit + (s + 1) : Nat) := by omega
  have here := magnitude_binade top least most
  rw [prefers_iff_of_gt (by omega), even_binade_iff, succ, valueAt_natCast,
    valueAt_natCast, here]
  rcases most.lt_or_eq with inside | last
  · have behind := magnitude_binade top (s := s + 1) (by omega) (by omega)
    have middle : (s * 2 ^ ((top : Int) - 52) + ((s : ℚ) + 1) * 2 ^ ((top : Int) - 52)) / 2 =
        (s + 1 / 2) * 2 ^ ((top : Int) - 52) := by ring
    rw [behind, Nat.cast_succ, middle, ← div_lt_iff₀ step, ← div_eq_iff step.ne']
    exact nearest.below
  · have more := magnitude_strictMono (show (top + 1022) * unit + s <
      (top + 1022) * unit + (s + 1) by omega)
    have twice : ((2 * unit : Nat) : ℚ) = 2 * unit := Nat.cast_mul 2 unit
    rw [here] at more
    rw [← twice, ← last] at below
    left
    linarith

end Binade

/-! ## The nearest double -/

/-- The rounded quotient of a natural number by its unit in the last place. -/
def nearestSignificand (n : Nat) : Nat :=
  roundHalfEven (n * twoTo (52 - n.log2)) (twoTo (n.log2 - 52))

/-- Its rank, if exponents went on without end. -/
def nearestRank (n : Nat) : Nat := (n.log2 + 1022) * unit + nearestSignificand n

theorem nearestBits_eq {n : Nat} (nonzero : n ≠ 0) :
    nearestBits n = min infinityBits (nearestRank n) := by
  rw [nearestBits, if_neg nonzero]
  rfl

theorem nearestNat_significand (n : Nat) :
    NearestNat (nearestSignificand n) (n / 2 ^ ((n.log2 : Int) - 52)) := by
  have nearest := nearestNat_roundHalfEven (n * twoTo (52 - n.log2))
    (d := twoTo (n.log2 - 52)) (Nat.pow_pos (by norm_num))
  have power := pow_toNat_div (b := 2) (by norm_num) (52 - (n.log2 : Int))
  have up : (52 - (n.log2 : Int)).toNat = 52 - n.log2 := by omega
  have down : (-(52 - (n.log2 : Int))).toNat = n.log2 - 52 := by omega
  rw [up, down] at power
  rw [Nat.cast_mul, cast_twoTo, cast_twoTo, mul_div_assoc, power, ← neg_sub, zpow_neg,
    ← div_eq_mul_inv] at nearest
  exact nearest

/-- A number is between its leading power and the next one. -/
theorem log2_bounds {n : Nat} (nonzero : n ≠ 0) :
    unit * (2 : ℚ) ^ ((n.log2 : Int) - 52) ≤ n ∧
      (n : ℚ) < 2 * unit * 2 ^ ((n.log2 : Int) - 52) := by
  have least : ((2 ^ n.log2 : Nat) : ℚ) ≤ n := by exact_mod_cast Nat.log2_self_le nonzero
  have most : (n : ℚ) < ((2 ^ (n.log2 + 1) : Nat) : ℚ) := by exact_mod_cast Nat.lt_log2_self
  have whole : unit * (2 : ℚ) ^ ((n.log2 : Int) - 52) = ((2 ^ n.log2 : Nat) : ℚ) := by
    have weight : (unit : ℚ) = 2 ^ (52 : Int) := by
      rw [unit, cast_twoTo]
      rfl
    rw [weight, ← zpow_add₀ (by norm_num), Nat.cast_pow, ← zpow_natCast]
    congr 1
    ring
  rw [pow_succ, Nat.cast_mul, Nat.cast_ofNat] at most
  rw [mul_assoc, whole]
  exact ⟨least, by linarith⟩

theorem nearestSignificand_mem {n : Nat} (nonzero : n ≠ 0) :
    unit ≤ nearestSignificand n ∧ nearestSignificand n ≤ 2 * unit := by
  have step := two_zpow_pos ((n.log2 : Int) - 52)
  obtain ⟨least, most⟩ := log2_bounds nonzero
  refine (nearestNat_significand n).mem_Icc ?_ ?_
  · rw [le_div_iff₀ step]
    exact least
  · have twice : ((2 * unit : Nat) : ℚ) = 2 * unit := Nat.cast_mul 2 unit
    rw [twice, div_le_iff₀ step]
    exact most.le

theorem prefers_nearestRank {n : Nat} (nonzero : n ≠ 0) :
    Prefers n (nearestRank n) (nearestRank n - 1) ∧
      Prefers n (nearestRank n) (nearestRank n + 1) := by
  obtain ⟨inside, inside'⟩ := nearestSignificand_mem nonzero
  obtain ⟨least, most⟩ := log2_bounds nonzero
  have nearest := nearestNat_significand n
  exact ⟨prefers_pred_binade inside inside' nearest least,
    prefers_succ_binade inside inside' nearest most.le⟩

theorem nearestBits_le (n : Nat) : nearestBits n ≤ infinityBits := by
  by_cases zero : n = 0
  · rw [zero]
    decide
  · rw [nearestBits_eq zero]
    exact Nat.min_le_left _ _

/-- The pattern of a rank is that of the double with this rank and no sign. -/
theorem ofBits_ofNat {rank : Nat} (within : rank ≤ infinityBits) :
    ofBits (UInt64.ofNat rank) = ranked false rank := by
  have signBit : twoTo 63 = 9223372036854775808 := by decide
  have below : rank < 9223372036854775808 := by
    rw [infinityBits_eq] at within
    omega
  have bits : (UInt64.ofNat rank).toNat = rank := by
    rw [UInt64.toNat_ofNat']
    exact Nat.mod_eq_of_lt (by omega)
  rw [ofBits_eq, bits, signBit, Nat.mod_eq_of_lt below, if_pos within,
    decide_eq_false (by omega)]

/-- The double nearest to a natural number. -/
def nearestTo (n : Nat) : Double := ofBits (UInt64.ofNat (nearestBits n))

theorem at_nearestTo (n : Nat) : At (nearestBits n) (nearestTo n) := by
  rw [nearestTo, ofBits_ofNat (nearestBits_le n)]
  exact at_ranked false (nearestBits_le n)

/-- **A natural number rounds to its nearest double.** -/
theorem roundsTo_nearestTo (n : Nat) : RoundsTo n (nearestTo n) := by
  by_cases zero : n = 0
  · have here := at_nearestTo n
    have value : (nearestTo n).value = n := by
      rw [here.value, zero, valueAt_natCast]
      exact magnitude_zero
    rw [← value]
    exact RoundsTo.self here.number
  · obtain ⟨pred, succ⟩ := prefers_nearestRank zero
    rw [roundsTo_iff (at_nearestTo n), nearestBits_eq zero]
    rcases Nat.lt_or_ge infinityBits (nearestRank n) with beyond | within
    · -- a rank beyond infinity is above it, and so is the number that prefers it
      have above : Prefers n (nearestRank n) infinityBits := pred.of_pred (by omega)
      have less := valueAt_strictMono (show ((infinityBits : Nat) : Int) - 1 < infinityBits by omega)
      have less' := valueAt_strictMono (show (infinityBits : Int) < nearestRank n by omega)
      rw [Nat.min_eq_left beyond.le]
      refine ⟨fun _ => ?_, fun same => absurd same (lt_irrefl _)⟩
      rw [prefers_iff_of_lt (by omega)] at above ⊢
      left
      rcases above with more | ⟨tie, _⟩ <;> linarith
    · rw [Nat.min_eq_right within]
      exact ⟨fun _ => pred, fun _ => succ⟩

/-! ## Exact and infinite -/

/-- A multiple of the unit in the last place is not rounded. -/
theorem value_nearestTo_of_multiple {n m : Nat} (nonzero : n ≠ 0) (finite : n.log2 ≤ 1023)
    (whole : (n : ℚ) = m * 2 ^ ((n.log2 : Int) - 52)) : (nearestTo n).value = n := by
  have step := two_zpow_pos ((n.log2 : Int) - 52)
  obtain ⟨least, most⟩ := nearestSignificand_mem nonzero
  have quotient : (n : ℚ) / 2 ^ ((n.log2 : Int) - 52) = m := by
    rw [div_eq_iff step.ne', ← whole]
  have nearest := nearestNat_significand n
  rw [quotient] at nearest
  have within : nearestRank n ≤ infinityBits := by
    rw [nearestRank, infinityBits_eq]
    rw [unit_eq] at most ⊢
    omega
  rw [(at_nearestTo n).value, nearestBits_eq nonzero, Nat.min_eq_right within, valueAt_natCast,
    nearestRank, magnitude_binade _ least most, nearest.eq_of_natCast, ← whole]

/-- **Up to `2 ^ 53`, a natural number is a double.** -/
theorem value_nearestTo {n : Nat} (small : n ≤ 2 ^ 53) : (nearestTo n).value = n := by
  by_cases zero : n = 0
  · rw [(at_nearestTo n).value, zero, valueAt_natCast]
    exact magnitude_zero
  · have top : n.log2 < 54 := (Nat.log2_lt zero).mpr (by omega)
    rcases Nat.lt_or_ge n.log2 53 with below | last
    · refine value_nearestTo_of_multiple (m := n * 2 ^ (52 - n.log2)) zero (by omega) ?_
      rw [Nat.cast_mul, Nat.cast_pow, Nat.cast_ofNat, mul_assoc, ← zpow_natCast,
        ← zpow_add₀ (by norm_num), show ((52 - n.log2 : Nat) : Int) + (n.log2 - 52) = 0 by omega,
        zpow_zero, mul_one]
    · have full : n.log2 = 53 := by omega
      have same : n = 2 ^ 53 := by
        have := Nat.log2_self_le zero
        rw [full] at this
        omega
      refine value_nearestTo_of_multiple (m := 2 ^ 52) zero (by omega) ?_
      rw [full, same]
      norm_num

theorem valueAt_infinity : valueAt infinityBits = 2 ^ 1024 := by
  have here : At infinityBits (.infinite false) := at_ranked false le_rfl
  rw [← here.value, Double.value, signFactor, if_neg (by decide), one_mul]

/-- The largest finite double is a unit in its last place below the infinity. -/
theorem valueAt_last : valueAt (infinityBits - 1 : Nat) + 2 * 2 ^ 970 = 2 ^ 1024 := by
  have step : magnitude infinityBits =
      magnitude (infinityBits - 1) + 2 ^ exponentAt (infinityBits - 1) :=
    magnitude_succ (infinityBits - 1)
  have exponent : exponentAt (infinityBits - 1) = (970 : Nat) + 1 := by decide
  have double (k : Nat) : (2 : ℚ) ^ ((k : Int) + 1) = 2 * 2 ^ k := by
    rw [zpow_add_one₀ (by norm_num), zpow_natCast, mul_comm]
  rewrite [exponent, double 970, ← valueAt_natCast, valueAt_infinity, ← valueAt_natCast] at step
  exact step.symm

/-- **What rounds to infinity** is half a unit in the last place beyond the largest
finite double. -/
theorem roundsTo_infinite_iff {q : ℚ} :
    RoundsTo q (.infinite false) ↔ (2 : ℚ) ^ 1024 - 2 ^ 970 ≤ q := by
  have here : At infinityBits (.infinite false) := at_ranked false le_rfl
  have last : ((infinityBits : Nat) : Int) - 1 = (infinityBits - 1 : Nat) := by
    rw [infinityBits_eq]
    rfl
  have middle : (valueAt (infinityBits - 1 : Nat) + valueAt infinityBits) / 2 =
      (2 : ℚ) ^ 1024 - 2 ^ 970 := by
    have below := valueAt_last
    rewrite [← valueAt_infinity] at below ⊢
    generalize (2 : ℚ) ^ 970 = half at below ⊢
    linarith
  have even : ((infinityBits : Nat) : Int) % 2 = 0 := by decide
  have inside : -((infinityBits : Nat) : Int) < infinityBits := by
    rw [infinityBits_eq]
    decide
  rw [roundsTo_iff here, prefers_iff_of_lt (by omega), last, middle, le_iff_lt_or_eq]
  constructor
  · rintro ⟨pred, _⟩
    rcases pred inside with more | ⟨tie, _⟩
    · exact .inl more
    · exact .inr tie.symm
  · intro beyond
    refine ⟨fun _ => ?_, fun same => absurd same (lt_irrefl _)⟩
    rcases beyond with more | tie
    · exact .inl more
    · exact .inr ⟨tie.symm, even⟩

/-- **From `2 ^ 1024 - 2 ^ 970` on, the nearest double is infinite.** -/
theorem nearestTo_eq_infinite_iff (n : Nat) :
    nearestTo n = .infinite false ↔ 2 ^ 1024 - 2 ^ 970 ≤ n := by
  have cast {a b : Nat} (le : a ≤ b) : ((2 ^ b - 2 ^ a : Nat) : ℚ) = 2 ^ b - 2 ^ a := by
    rw [Nat.cast_sub (Nat.pow_le_pow_right Nat.zero_lt_two le), Nat.cast_pow, Nat.cast_pow,
      Nat.cast_ofNat]
  have limit : ((2 ^ 1024 - 2 ^ 970 : Nat) : ℚ) = 2 ^ 1024 - 2 ^ 970 := cast (by decide)
  have here := at_nearestTo n
  have there : At infinityBits (.infinite false) := at_ranked false le_rfl
  have rounds := roundsTo_nearestTo n
  rw [← Nat.cast_le (α := ℚ), limit, ← roundsTo_infinite_iff]
  constructor
  · intro infinite
    rw [infinite] at rounds
    exact rounds
  · intro beyond
    have le := rounds.place_le le_rfl beyond here there
    have ge := beyond.place_le le_rfl rounds there here
    have same : nearestBits n = infinityBits := by omega
    rw [nearestTo, ofBits_ofNat (nearestBits_le n), same, ranked, if_pos rfl]

/-! ## The values of literals -/

theorem ofFloat_literalValue (digits : Text) :
    ofFloat (literalValue digits) = nearestTo (digitsValue digits) :=
  ofFloat_ofBits _

theorem roundsTo_literalValue (digits : Text) :
    RoundsTo (digitsValue digits) (ofFloat (literalValue digits)) := by
  rw [ofFloat_literalValue]
  exact roundsTo_nearestTo _

theorem unsigned_literalValue (digits : Text) : (ofFloat (literalValue digits)).Unsigned := by
  rw [ofFloat_literalValue, nearestTo, ofBits_ofNat (nearestBits_le _), unsigned_ranked]

theorem value_literalValue_mono {digits digits' : Text}
    (le : digitsValue digits ≤ digitsValue digits') :
    (ofFloat (literalValue digits)).value ≤ (ofFloat (literalValue digits')).value := by
  have cast : (digitsValue digits : ℚ) ≤ digitsValue digits' := by exact_mod_cast le
  rw [ofFloat_literalValue, ofFloat_literalValue]
  exact (roundsTo_nearestTo _).mono cast (roundsTo_nearestTo _)

/-- **The value of a literal is fixed by rounding** its number to a double without a
sign. -/
theorem eq_literalValue_iff {digits : Text} {x : Float} :
    x = literalValue digits ↔
      RoundsTo (digitsValue digits) (ofFloat x) ∧ (ofFloat x).Unsigned := by
  constructor
  · rintro rfl
    exact ⟨roundsTo_literalValue digits, unsigned_literalValue digits⟩
  · rintro ⟨rounds, unsigned⟩
    have same := rounds.eq_of_unsigned (roundsTo_literalValue digits) unsigned
      (unsigned_literalValue digits)
    exact Float.toBits_inj.1 same

end Double

end LineBasic
