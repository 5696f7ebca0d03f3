/-!
# What a double stands for

A number of the language is a 64-bit float. `Double.ofBits` reads the three
fields of its pattern: a number that is finite is, exactly, a natural
significand times a power of two, with a sign.
-/

namespace LineBasic

/-- The value of a 64-bit floating-point pattern. -/
inductive Double
  /-- Not a number. -/
  | nan
  | infinite (negative : Bool)
  /-- The number `significand * 2 ^ exponent`, negated if `negative`. Zero has
  significand zero and keeps its sign. -/
  | finite (negative : Bool) (significand : Nat) (exponent : Int)
  deriving DecidableEq, Repr

namespace Double

/-- The smallest exponent, that of zero and of the subnormal numbers. -/
def leastExponent : Int := -1074

/-- A power of two. -/
def twoTo (n : Nat) : Nat := Nat.pow 2 n

/-- The weight of the exponent field in a pattern, and of the leading one that
the pattern of a normal number leaves out. -/
def unit : Nat := twoTo 52

/-- The exponent field of infinities and of what is not a number. -/
def topField : Nat := 2047

/-- Reads sign, exponent and fraction of a pattern. A normal number has a
leading one that the pattern leaves out. -/
def ofBits (bits : UInt64) : Double :=
  let negative := decide (twoTo 63 ≤ bits.toNat)
  let field := bits.toNat / unit % (topField + 1)
  let fraction := bits.toNat % unit
  if field = topField then
    if fraction = 0 then .infinite negative else .nan
  else if field = 0 then .finite negative fraction leastExponent
  else .finite negative (unit + fraction) (leastExponent + (field - 1 : Nat))

/-- The value of a float. -/
def ofFloat (x : Float) : Double := ofBits x.toBits

end Double

end LineBasic
