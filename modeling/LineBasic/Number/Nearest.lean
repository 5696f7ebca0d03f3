import LineBasic.Number.Double
import LineBasic.Text

/-!
# Number literals

A literal is a run of decimal digits of any length. It denotes the double
nearest to the natural number it spells; of two equally near ones, the one
with the even significand. From `2 ^ 1024 - 2 ^ 970` on, half a unit beyond
the largest double, that is infinity.

The rounding is done on natural numbers, without any intermediate float, so
that a digit arbitrarily far to the right can still decide a tie.
-/

namespace LineBasic

/-- The quotient `n / d` rounded to the nearest natural number, a half to the
even one. -/
def roundHalfEven (n d : Nat) : Nat :=
  let q := n / d
  let r := n % d
  if 2 * r < d then q
  else if d < 2 * r then q + 1
  else q + q % 2

/-- The bits of positive infinity. -/
def infinityBits : Nat := Double.topField * Double.unit

/-- The bits of the double nearest to a natural number. With `2 ^ top` the
leading power of two, the significand is `n / 2 ^ (top - 52)` rounded. Adding
it, with its leading one, to the exponent field below that of `top` carries
into the next exponent when rounding reaches the next power of two, and into
infinity beyond the last exponent. -/
def nearestBits (n : Nat) : Nat :=
  if n = 0 then 0
  else
    let top := n.log2
    let significand := roundHalfEven (n * Double.twoTo (52 - top)) (Double.twoTo (top - 52))
    min infinityBits ((top + 1022) * Double.unit + significand)

/-- The double nearest to a natural number. -/
def nearestFloat (n : Nat) : Float := Float.ofBits (UInt64.ofNat (nearestBits n))

/-- The natural number that a run of decimal digits spells. -/
def digitsValue (digits : Text) : Nat := Nat.ofDigitChars 10 digits 0

/-- The number that a literal denotes. -/
def literalValue (digits : Text) : Float := nearestFloat (digitsValue digits)

end LineBasic
