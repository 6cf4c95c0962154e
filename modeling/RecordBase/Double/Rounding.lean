import RecordBase.Double.Basic

/-!
# The nearest double

A positive rational is rounded to the multiple of a power of two that leaves
fifty-three significant bits, or to a multiple of the smallest double where
fewer are left. A tie goes to the even significand. The exponent field and the
significand are added rather than joined, so that a significand that rounds up
to `2 ^ 53` carries into the exponent by itself, and past the largest double
into infinity.

Products and quotients of doubles are exact rationals that are rounded once.
A decimal is computed with them, from a significand and a power of ten.
-/

namespace RecordBase

/-- Rounds a quotient to the nearest integer, a tie to the even one. -/
def roundHalfEven (numerator denominator : Nat) : Nat :=
  let whole := numerator / denominator
  let twiceRest := 2 * (numerator % denominator)
  if twiceRest < denominator then whole
  else if denominator < twiceRest then whole + 1
  else whole + whole % 2

/-- The greatest `e` with `2 ^ e` not above a positive quotient. -/
def floorLog2 (numerator denominator : Nat) : Int :=
  let guess := (numerator.log2 : Int) - denominator.log2
  let reached :=
    if 0 ≤ guess then denominator * 2 ^ guess.toNat ≤ numerator
    else denominator ≤ numerator * 2 ^ (-guess).toNat
  if reached then guess else guess - 1

namespace Double

/-- The magnitude of the double nearest to a quotient. -/
def nearestMagnitude (numerator denominator : Nat) : Nat :=
  if numerator = 0 then
    0
  else
    let scale := max (floorLog2 numerator denominator - 52) (-1074)
    let significand :=
      if 0 ≤ scale then roundHalfEven numerator (denominator * 2 ^ scale.toNat)
      else roundHalfEven (numerator * 2 ^ (-scale).toNat) denominator
    min ((scale + 1074).toNat * 2 ^ 52 + significand) infinityMagnitude

/-- The double nearest to a quotient with a sign. -/
def nearest (negative : Bool) (numerator denominator : Nat) : Double :=
  ofMagnitude negative (nearestMagnitude numerator denominator)

/-- The double nearest to an integer. -/
def ofInt (n : Int) : Double :=
  nearest (n < 0) n.natAbs 1

/-! ## Products and quotients -/

/-- The double nearest to a quotient times a power of two. -/
def nearestScaled (negative : Bool) (numerator denominator : Nat) (scale : Int) : Double :=
  if 0 ≤ scale then nearest negative (numerator * 2 ^ scale.toNat) denominator
  else nearest negative numerator (denominator * 2 ^ (-scale).toNat)

/-- The product of two finite doubles. -/
def mul (x y : Double) : Double :=
  nearestScaled (x.isNegative != y.isNegative) (x.significand * y.significand) 1
    (x.scale + y.scale)

/-- The quotient of two finite doubles, of which the second is not zero. -/
def div (x y : Double) : Double :=
  nearestScaled (x.isNegative != y.isNegative) x.significand y.significand (x.scale - y.scale)

/-! ## Decimals -/

/-- The exponent of the greatest power of ten that is a finite double. -/
def tenExponentLimit : Nat :=
  308

/-- The double nearest to a power of ten. -/
def powerOfTen (exponent : Nat) : Double :=
  ofInt (10 ^ exponent)

/-- Divides by the greatest power of ten a number of times, or until nothing is left. -/
def scaledDown (x : Double) : Nat → Double
  | 0 => x
  | count + 1 =>
      if x.magnitude = 0 then x else scaledDown (x.div (powerOfTen tenExponentLimit)) count

/-- The double of `significand * 10 ^ exponent`. Significand and powers of ten
are rounded before they are combined, so this need not be the nearest double. -/
def ofDecimal (negative : Bool) (significand : Nat) (exponent : Int) : Double :=
  let whole := ofInt significand
  let scaled :=
    if significand = 0 then
      whole
    else if (tenExponentLimit : Int) < exponent then
      infinity false
    else if 0 ≤ exponent then
      whole.mul (powerOfTen exponent.toNat)
    else
      let size := (-exponent).toNat
      let count := (size - 1) / tenExponentLimit
      (whole.scaledDown count).div (powerOfTen (size - tenExponentLimit * count))
  ofMagnitude negative scaled.magnitude

end Double

end RecordBase
