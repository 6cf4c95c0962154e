import RecordBase.Double.Basic

/-!
# The shortest decimal of a double

The reals that round to a given double form an interval around it, which
holds its ends exactly when the significand is even. The shortest decimal is
the one of fewest digits in that interval and, of those, the nearest to the
double. A grid of decimals with a point in the interval has one right below
or right above the double, so for each number of digits only these two
neighbours are tried, in exact integer arithmetic.
-/

namespace RecordBase

/-- The number `coefficient * 10 ^ exponent`. -/
structure Decimal where
  coefficient : Nat
  exponent : Int
deriving DecidableEq

namespace Decimal

/-- A double and the ends of its rounding interval over one denominator. -/
structure Interval where
  low : Nat
  middle : Nat
  high : Nat
  denominator : Nat
  /-- Whether the ends round to the double. -/
  closed : Bool

/-- The rounding interval of a positive double. The neighbour below a power of
two is only half as far away, unless it is subnormal. -/
def Interval.of (x : Double) : Interval :=
  let narrow := x.significand == 2 ^ 52 && -1074 < x.scale
  let unit := 2 ^ (x.scale - 2).toNat
  { low := (4 * x.significand - if narrow then 1 else 2) * unit
    middle := 4 * x.significand * unit
    high := (4 * x.significand + 2) * unit
    denominator := 2 ^ (2 - x.scale).toNat
    closed := x.significand % 2 == 0 }

/-- The number of digits of a natural number, `0` for zero. -/
def width (n : Nat) : Nat :=
  if n = 0 then 0 else (Nat.toDigits 10 n).length

/-- The least `k` with a positive quotient below `10 ^ k`. -/
def order (numerator denominator : Nat) : Int :=
  if denominator ≤ numerator then
    width (numerator / denominator)
  else
    1 - (width ((denominator + numerator - 1) / numerator - 1) : Int)

/-- The point of the grid of multiples of `10 ^ exponent` that lies in the
interval and is nearest to its middle, if there is one. -/
def Interval.point? (interval : Interval) (exponent : Int) : Option Decimal :=
  let up := 10 ^ (-exponent).toNat
  let step := interval.denominator * 10 ^ exponent.toNat
  let inside (coefficient : Nat) : Bool :=
    if interval.closed then
      interval.low * up ≤ coefficient * step && coefficient * step ≤ interval.high * up
    else
      interval.low * up < coefficient * step && coefficient * step < interval.high * up
  let below := interval.middle * up / step
  let gapBelow := interval.middle * up - below * step
  let gapAbove := (below + 1) * step - interval.middle * up
  match inside below, inside (below + 1) with
  | true, true =>
      if gapBelow < gapAbove || (gapBelow == gapAbove && below % 2 == 0) then
        some ⟨below, exponent⟩
      else
        some ⟨below + 1, exponent⟩
  | true, false => some ⟨below, exponent⟩
  | false, true => some ⟨below + 1, exponent⟩
  | false, false => none

/-- The shortest decimal that rounds to a finite double other than zero.
Seventeen digits always suffice. -/
def shortest (x : Double) : Decimal :=
  let interval := Interval.of x
  let top := order interval.middle interval.denominator
  let found := (List.range 17).findSome? fun (digits : Nat) =>
    interval.point? (top - digits - 1)
  found.getD ⟨interval.middle / interval.denominator, 0⟩

end Decimal

end RecordBase
