import Conduit.Decimal.Binary64

/-! # Reading decimals by scaling

A decimal is read in two roundings: its leading digits become a floating-point
number, which is then multiplied or divided by a power of ten. The result can
therefore differ in its last bit from the nearest number to the decimal.
-/

namespace Conduit.Decimal

/-- The nearest number to a power of ten, up to `10^308`. -/
def powerOfTen (k : Nat) : Float := Float.ofScientific 1 false k

/-- The largest power of ten that is a floating-point number. -/
def largestPower : Nat := 308

/-- `value` times `10 ^ exponent`, or nothing when that is out of range. Smaller
powers than the table holds are applied in two parts, and what two parts cannot
reach is zero. -/
def scale (value : Float) (exponent : Int) : Option Float :=
  if 0 ≤ exponent then
    if exponent ≤ largestPower then
      let result := value * powerOfTen exponent.toNat
      if result.isInf then none else some result
    else if value == 0.0 then some value
    else none
  else
    let down := exponent.natAbs
    if down ≤ largestPower then some (value / powerOfTen down)
    else if down ≤ 2 * largestPower then
      some (value / powerOfTen largestPower / powerOfTen (down - largestPower))
    else some 0.0

/-- The number of `significand * 10 ^ exponent` with the given sign. -/
def readScaled? (negative : Bool) (significand : Nat) (exponent : Int) : Option Binary64 :=
  (scale (Float.ofNat significand) exponent).map fun size =>
    let x := Binary64.ofFloat size
    if negative then x.neg else x

end Conduit.Decimal
