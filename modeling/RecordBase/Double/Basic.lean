/-!
# Doubles

A double is its 64 bits: a sign, eleven exponent bits and fifty-two fraction
bits. Sign and magnitude are read off with integer arithmetic, so every fact
about doubles is a fact about integers. The magnitudes of the finite doubles
ascend with the numbers that they denote, and `ordinal` puts the sign back:
two doubles that are numbers compare as their ordinals.
-/

namespace RecordBase

-- Powers are those of the core library, also where a monoid offers its own.
attribute [instance (2000), default_instance 20000] instPowNat

/-- An IEEE 754 binary64 value. -/
structure Double where
  /-- Sign, exponent and fraction, from the highest bit down. -/
  bits : UInt64
deriving DecidableEq

namespace Double

/-- The magnitude of infinity: all exponent bits set and no fraction. -/
def infinityMagnitude : Nat :=
  2047 * 2 ^ 52

/-- The sign bit. -/
def isNegative (x : Double) : Bool :=
  2 ^ 63 ≤ x.bits.toNat

/-- The bits below the sign, as a number. -/
def magnitude (x : Double) : Nat :=
  x.bits.toNat % 2 ^ 63

/-- The double of a sign and a magnitude. -/
def ofMagnitude (negative : Bool) (magnitude : Nat) : Double :=
  ⟨UInt64.ofNat ((if negative then 2 ^ 63 else 0) + magnitude)⟩

/-- Magnitudes above infinity's denote no number. -/
def isNaN (x : Double) : Bool :=
  infinityMagnitude < x.magnitude

/-- Magnitudes below infinity's denote real numbers. -/
def isFinite (x : Double) : Bool :=
  x.magnitude < infinityMagnitude

/-- Infinity with a sign. -/
def infinity (negative : Bool) : Double :=
  ofMagnitude negative infinityMagnitude

/-- The double that is no number. -/
def nan : Double :=
  ofMagnitude false (infinityMagnitude + 2 ^ 51)

/-- The place of a double among the doubles in ascending order; the two zeros
share place `0`. -/
def ordinal (x : Double) : Int :=
  if x.isNegative then -(x.magnitude : Int) else x.magnitude

/-- Whether two doubles denote the same number. -/
def same (x y : Double) : Bool :=
  !x.isNaN && !y.isNaN && x.ordinal == y.ordinal

/-- The order of two doubles that are numbers. -/
def order? (x y : Double) : Option Ordering :=
  if x.isNaN || y.isNaN then none else some (compare x.ordinal y.ordinal)

/-! ## The number that a double denotes -/

/-- The significand `m` of the magnitude `m * 2 ^ scale`. -/
def significand (x : Double) : Nat :=
  if x.magnitude / 2 ^ 52 = 0 then x.magnitude else 2 ^ 52 + x.magnitude % 2 ^ 52

/-- The binary exponent that goes with `significand`. -/
def scale (x : Double) : Int :=
  (max (x.magnitude / 2 ^ 52) 1 : Nat) - 1075

/-- The significand with the sign. -/
def signedSignificand (x : Double) : Int :=
  if x.isNegative then -(x.significand : Int) else x.significand

/-- The greatest integer that is not above the double. -/
def floor (x : Double) : Int :=
  if 0 ≤ x.scale then
    x.signedSignificand * 2 ^ x.scale.toNat
  else
    x.signedSignificand / 2 ^ (-x.scale).toNat

/-- Whether the double denotes an integer. -/
def isWhole (x : Double) : Bool :=
  0 ≤ x.scale || x.signedSignificand % 2 ^ (-x.scale).toNat == 0

/-- The integer that the double denotes, if it denotes one. -/
def toInt? (x : Double) : Option Int :=
  if x.isFinite && x.isWhole then some x.floor else none

theorem magnitude_ofMagnitude {negative : Bool} {magnitude : Nat} (small : magnitude < 2 ^ 63) :
    (ofMagnitude negative magnitude).magnitude = magnitude := by
  cases negative <;> simp [ofMagnitude, Double.magnitude] <;> omega

theorem isNegative_ofMagnitude {negative : Bool} {magnitude : Nat} (small : magnitude < 2 ^ 63) :
    (ofMagnitude negative magnitude).isNegative = negative := by
  cases negative <;> simp [ofMagnitude, isNegative] <;> omega

end Double

end RecordBase
