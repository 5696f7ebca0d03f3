import LineBasic.Text
import LineBasic.Number.Double

/-!
# Shortest digits

The decimal digits that identify a finite double: the fewest that are closer
to it than to any other double, and of those the nearest ones. Everything is
exact arithmetic on natural numbers.

A double is the middle of the *interval* of numbers that round to it. For one,
two, … seventeen digits there is a decimal grid, and if any point of a grid
lies in the interval then so does one of the two neighbours of the double on
that grid; so only those are tried, coarsest grid first.
-/

namespace LineBasic

/-- A power of ten. -/
def tenTo (n : Nat) : Nat := Nat.pow 10 n

/-- A double and the ends of its rounding interval, as fractions over one
common denominator. -/
structure RoundingInterval where
  value : Nat
  low : Nat
  high : Nat
  denominator : Nat
  /-- The ends themselves round to the double: its significand is even. -/
  closed : Bool

/-- Digits `d₁ … dₖ` and the place of the decimal point: the number
`0.d₁…dₖ * 10 ^ point`. -/
structure DecimalDigits where
  digits : Text
  point : Int
  deriving DecidableEq, Repr

namespace RoundingInterval

/-- The interval around `significand * 2 ^ exponent`, in quarters of the last
place. The gap below a power of two is half as wide as the one above it. -/
def around (significand : Nat) (exponent : Int) : RoundingInterval :=
  let scale := Double.twoTo (exponent - 2).toNat
  let below :=
    if significand = Double.unit ∧ Double.leastExponent < exponent then 1 else 2
  { value := 4 * significand * scale
    low := (4 * significand - below) * scale
    high := (4 * significand + 2) * scale
    denominator := Double.twoTo (2 - exponent).toNat
    closed := significand % 2 == 0 }

/-- Whether `n * 10 ^ exponent` rounds to the double. -/
def admits (i : RoundingInterval) (n : Nat) (exponent : Int) : Bool :=
  let candidate := n * tenTo exponent.toNat * i.denominator
  let scale := tenTo (-exponent).toNat
  if i.closed then decide (i.low * scale ≤ candidate) && decide (candidate ≤ i.high * scale)
  else decide (i.low * scale < candidate) && decide (candidate < i.high * scale)

/-- The multiple of `10 ^ exponent` that is nearest to the double among those
that round to it, if there is one. Halfway between two, the upper one. -/
def onGrid (i : RoundingInterval) (exponent : Int) : Option Nat :=
  let numerator := i.value * tenTo (-exponent).toNat
  let step := i.denominator * tenTo exponent.toNat
  let below := numerator / step
  let nearerBelow := decide (2 * (numerator % step) < step)
  match i.admits below exponent, i.admits (below + 1) exponent with
  | true, true => some (if nearerBelow then below else below + 1)
  | true, false => some below
  | false, true => some (below + 1)
  | false, false => none

/-- The place of the decimal point: the double is at least `10 ^ (point - 1)`
and less than `10 ^ point`. -/
def point (i : RoundingInterval) : Int :=
  if i.denominator ≤ i.value then (Nat.toDigits 10 (i.value / i.denominator)).length
  else 1 - ((Nat.toDigits 10 ((i.denominator - 1) / i.value)).length : Int)

end RoundingInterval

namespace DecimalDigits

/-- The digits of `n * 10 ^ exponent`, without zeros at the end. -/
def ofScaled (n : Nat) (exponent : Int) : DecimalDigits :=
  let spelled := Nat.toDigits 10 n
  { digits := (spelled.reverse.dropWhile (· == '0')).reverse
    point := spelled.length + exponent }

/-- The most digits that a double can need. -/
def mostDigits : Nat := 17

/-- The shortest digits of `significand * 2 ^ exponent`, which is not zero. -/
def shortest (significand : Nat) (exponent : Int) : DecimalDigits :=
  let i := RoundingInterval.around significand exponent
  let grids := (List.range mostDigits).map fun (k : Nat) => i.point - (k + 1 : Nat)
  match grids.findSome? fun e => (i.onGrid e).map fun n => ofScaled n e with
  | some found => found
  | none => ⟨[], 0⟩

end DecimalDigits

end LineBasic
