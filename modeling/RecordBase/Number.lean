import RecordBase.Double.Rounding
import RecordBase.Decimal.Layout

/-!
# Numbers

A number is an integer of at most sixty-four bits, signed or unsigned, or a
finite double. The two kinds stay apart when a number is written (`1` is not
`1.0`), but they are compared by their doubles, so an integer beyond `2 ^ 53`
stands for the nearest double.
-/

namespace RecordBase

/-- A number as it is held in a record. -/
inductive Number where
  /-- An integer that fits sixty-four bits, signed or unsigned. -/
  | int (n : Int) (fits : -2 ^ 63 ≤ n ∧ n < 2 ^ 64)
  /-- A double that denotes a real number. -/
  | real (x : Double) (finite : x.isFinite = true)
deriving DecidableEq

namespace Number

/-- The number of an integer that fits. -/
def ofInt? (n : Int) : Option Number :=
  if fits : -2 ^ 63 ≤ n ∧ n < 2 ^ 64 then some (.int n fits) else none

/-- The number of a double, unless it is infinite or no number. -/
def ofDouble? (x : Double) : Option Number :=
  if finite : x.isFinite = true then some (.real x finite) else none

/-- The double nearest to a number. -/
def toDouble : Number → Double
  | int n _ => Double.ofInt n
  | real x _ => x

/-- The digits of an integer, with a sign if it is negative. -/
def integerText (n : Int) : String :=
  let digits := Nat.toDigits 10 n.natAbs
  String.ofList (if n < 0 then '-' :: digits else digits)

/-- The text of a number. -/
def text : Number → String
  | int n _ => integerText n
  | real x _ => x.text

theorem ofInt?_eq_some_iff {n : Int} {number : Number} :
    ofInt? n = some number ↔ ∃ fits, number = .int n fits := by
  unfold ofInt?
  split
  · rename_i fits
    constructor
    · intro equal
      exact ⟨fits, (Option.some.inj equal).symm⟩
    · rintro ⟨_, rfl⟩
      rfl
  · rename_i outside
    constructor
    · intro equal
      contradiction
    · rintro ⟨fits, _⟩
      contradiction

end Number

end RecordBase
