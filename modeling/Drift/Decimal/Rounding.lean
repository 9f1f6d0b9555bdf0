/-!
# Reading decimals as doubles

The double nearest to a decimal. Decimals far outside the range of doubles are
recognised by the number of their digits.
-/

namespace Drift.Decimal

/-- The double nearest to `significand · 10 ^ exponent`. -/
def nearestDouble (significand : Nat) (exponent : Int) : Float :=
  let leading := exponent + (Nat.toDigits 10 significand).length
  if significand = 0 ∨ leading < -400 then 0.0
  else if 400 < leading then 1.0 / 0.0
  else Float.ofScientific significand (exponent < 0) exponent.natAbs

end Drift.Decimal
