import LineBasic.Number.Shortest

/-!
# Displayed numbers

The text that `PRINT` writes for a number. Shortest digits, laid out
positionally when the decimal point falls near them and with an exponent
otherwise. Zero has no sign. One record holds the choices of the format.
-/

namespace LineBasic

/-- The choices of a number format. -/
structure NumberLayout where
  /-- Numbers are positional when their decimal point lies in this range. -/
  leastPoint : Int
  greatestPoint : Int
  nan : String
  infinity : String

/-- The format of printed numbers: positional from `1e-6` up to but not
including `1e21`. -/
def printedNumbers : NumberLayout := ⟨-5, 21, "NaN", "Infinity"⟩

namespace DecimalDigits

/-- Without an exponent: zeros before or after the digits as the point asks,
and never a bare point. -/
def positional (d : DecimalDigits) : Text :=
  let count : Int := d.digits.length
  if count ≤ d.point then d.digits ++ List.replicate (d.point - count).toNat '0'
  else if 0 < d.point then
    d.digits.take d.point.toNat ++ '.' :: d.digits.drop d.point.toNat
  else '0' :: '.' :: List.replicate (-d.point).toNat '0' ++ d.digits

/-- With one digit before the point and an exponent that always has a sign. -/
def scientific (d : DecimalDigits) : Text :=
  let fraction := if d.digits.length ≤ 1 then [] else '.' :: d.digits.drop 1
  let exponent := d.point - 1
  let sign := if exponent < 0 then '-' else '+'
  d.digits.take 1 ++ fraction ++ 'e' :: sign :: Nat.toDigits 10 exponent.natAbs

/-- Positional or scientific, as the place of the decimal point says. -/
def layOut (layout : NumberLayout) (d : DecimalDigits) : Text :=
  if layout.leastPoint ≤ d.point ∧ d.point ≤ layout.greatestPoint then d.positional
  else d.scientific

end DecimalDigits

/-- A text with a minus sign before it if `negative`. -/
def signed (negative : Bool) (t : Text) : Text := if negative then '-' :: t else t

/-- The text of a double in a number format. -/
def Double.display (layout : NumberLayout) : Double → Text
  | .nan => layout.nan.toList
  | .infinite negative => signed negative layout.infinity.toList
  | .finite negative significand exponent =>
    if significand = 0 then ['0']
    else signed negative ((DecimalDigits.shortest significand exponent).layOut layout)

/-- The text that `PRINT` writes for a number. -/
def displayNumber (x : Float) : Text := (Double.ofFloat x).display printedNumbers

end LineBasic
