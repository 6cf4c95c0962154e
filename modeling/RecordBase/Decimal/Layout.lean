import RecordBase.Decimal.Shortest

/-!
# The text of a double

The digits of the shortest decimal are laid out with a point among them when
the first digit stands close to the point, and in scientific form otherwise.
A plain text always has a digit after the point, so that it cannot be taken
for an integer.
-/

namespace RecordBase

namespace Decimal

/-- Where a text changes from the plain to the scientific form. -/
structure Layout where
  /-- The least power of ten of a first digit that is written plainly. -/
  plainFrom : Int
  /-- The least power of ten of a first digit that no longer is. -/
  plainBelow : Int

/-- The digits of a coefficient without the zeros at its end. -/
def digits (value : Decimal) : List Char :=
  ((Nat.toDigits 10 value.coefficient).reverse.dropWhile (· == '0')).reverse

/-- The power of ten of the first digit. -/
def leading (value : Decimal) : Int :=
  value.exponent + (Nat.toDigits 10 value.coefficient).length - 1

/-- Digits with a point, the first one standing for `10 ^ leading`. -/
def plain (digits : List Char) (leading : Int) : List Char :=
  if leading < 0 then
    ['0', '.'] ++ List.replicate (-leading - 1).toNat '0' ++ digits
  else
    let before := leading.toNat + 1
    let fraction := if digits.drop before = [] then ['0'] else digits.drop before
    digits.take before ++ List.replicate (before - digits.length) '0' ++ '.' :: fraction

/-- One digit before the point, and the power of ten with its sign. -/
def scientific (digits : List Char) (leading : Int) : List Char :=
  let fraction := if digits.drop 1 = [] then [] else '.' :: digits.drop 1
  let sign := if leading < 0 then '-' else '+'
  digits.take 1 ++ fraction ++ ['e', sign] ++ Nat.toDigits 10 leading.natAbs

/-- The text of a positive decimal. -/
def write (layout : Layout) (value : Decimal) : List Char :=
  if layout.plainFrom ≤ value.leading ∧ value.leading < layout.plainBelow then
    plain value.digits value.leading
  else
    scientific value.digits value.leading

end Decimal

namespace Double

/-- Doubles from `0.00001` up to `10 ^ 16` are written plainly. -/
def layout : Decimal.Layout :=
  ⟨-5, 16⟩

/-- The text of a double: the shortest decimal that reads back, or `null` where
there is no number to write. -/
def text (x : Double) : String :=
  if !x.isFinite then
    "null"
  else
    let unsigned := if x.magnitude = 0 then ['0', '.', '0'] else (Decimal.shortest x).write layout
    String.ofList (if x.isNegative then '-' :: unsigned else unsigned)

end Double

end RecordBase
