import Mathlib.Algebra.Order.Field.Power
import Mathlib.Algebra.Order.Field.Rat
import Mathlib.Tactic.Ring
import RecordBase.Proofs.Double.Integer

/-!
# The numbers that doubles denote

A double denotes its significand, scaled by a power of two and with its sign. All doubles
are multiples of one small unit, so their numbers are compared as integers, and they
ascend with the places of the doubles.
-/

namespace RecordBase

namespace Double

variable {x y : Double}

theorem magnitude_le_of_units (notAbove : x.units ≤ y.units) : x.magnitude ≤ y.magnitude :=
  Nat.le_of_not_lt fun above => Nat.not_le_of_lt (units_strictMono above) notAbove

theorem units_eq_zero_iff : x.units = 0 ↔ x.magnitude = 0 := by
  simp only [units, Nat.mul_eq_zero, Nat.ne_of_gt (Nat.two_pow_pos _), or_false, significand]
  split <;> omega

/-! ## Signs -/

/-- A number without sign, given one. -/
def signed (negative : Bool) (size : Nat) : Int :=
  if negative then -(size : Int) else size

/-- What keeps the order of numbers without sign, and zero, keeps the order with signs. -/
theorem signed_le_signed {leftNegative rightNegative : Bool}
    {left right leftImage rightImage : Nat} (zero : right = 0 → rightImage = 0)
    (rising : left ≤ right → leftImage ≤ rightImage)
    (falling : right ≤ left → rightImage ≤ leftImage)
    (notAbove : signed leftNegative left ≤ signed rightNegative right) :
    signed leftNegative leftImage ≤ signed rightNegative rightImage := by
  unfold signed at notAbove ⊢
  cases leftNegative <;> cases rightNegative <;>
    simp only [if_true, Bool.false_eq_true, if_false] at notAbove ⊢ <;> omega

/-- The double in units of `2 ^ (-1075)`, with its sign. -/
def signedUnits (x : Double) : Int :=
  signed x.isNegative x.units

theorem signedUnits_le_iff : x.signedUnits ≤ y.signedUnits ↔ x.ordinal ≤ y.ordinal :=
  ⟨signed_le_signed units_eq_zero_iff.mp magnitude_le_of_units magnitude_le_of_units,
    signed_le_signed units_eq_zero_iff.mpr units_mono units_mono⟩

/-! ## The number -/

/-- The number that a double denotes. -/
def toRat (x : Double) : ℚ :=
  x.signedSignificand * 2 ^ x.scale

theorem cast_two_pow (exponent : Nat) : ((2 ^ exponent : Nat) : ℚ) = 2 ^ exponent := by
  push_cast
  rfl

theorem cast_unitsOfOne : (unitsOfOne : ℚ) = 2 ^ 1075 := by
  rw [unitsOfOne]
  generalize 1075 = exponent
  exact cast_two_pow exponent

theorem toRat_eq (x : Double) : x.toRat = x.signedUnits / unitsOfOne := by
  have scaled : (2 : ℚ) ^ x.scale = 2 ^ max (x.magnitude / 2 ^ 52) 1 / 2 ^ 1075 := by
    rw [scale, zpow_sub₀ (by decide)]
    rfl
  have signed : (x.signedUnits : ℚ) =
      x.signedSignificand * 2 ^ max (x.magnitude / 2 ^ 52) 1 := by
    unfold signedUnits signed signedSignificand units
    split <;> push_cast <;> ring
  rw [toRat, scaled, signed, cast_unitsOfOne, mul_div_assoc]

theorem cast_unitsOfOne_pos : (0 : ℚ) < unitsOfOne :=
  Nat.cast_pos.mpr unitsOfOne_pos

theorem toRat_le_iff : x.toRat ≤ y.toRat ↔ x.ordinal ≤ y.ordinal := by
  rw [toRat_eq, toRat_eq, div_le_div_iff_of_pos_right cast_unitsOfOne_pos, Int.cast_le,
    signedUnits_le_iff]

theorem intCast_le_toRat_iff {n : Int} : (n : ℚ) ≤ x.toRat ↔ n * unitsOfOne ≤ x.signedUnits := by
  rw [toRat_eq, le_div_iff₀ cast_unitsOfOne_pos, ← Int.cast_natCast, ← Int.cast_mul, Int.cast_le]

theorem toRat_le_intCast_iff {n : Int} : x.toRat ≤ (n : ℚ) ↔ x.signedUnits ≤ n * unitsOfOne := by
  rw [toRat_eq, div_le_iff₀ cast_unitsOfOne_pos, ← Int.cast_natCast, ← Int.cast_mul, Int.cast_le]

/-! ## Integers -/

/-- The integer of a finite double is the number that it denotes, if this is an integer. -/
theorem toInt?_eq_some_iff (finite : x.isFinite = true) {n : Int} :
    x.toInt? = some n ↔ x.toRat = n := by
  have whole : x.toInt? = some n ↔ x.isWhole = true ∧ x.floor = n := by
    rw [toInt?, finite, Bool.true_and]
    split <;> simp_all
  rw [whole]
  by_cases scaledUp : 0 ≤ x.scale
  · obtain ⟨exponent, scale⟩ := Int.eq_ofNat_of_zero_le scaledUp
    have number : x.toRat = ((x.signedSignificand * 2 ^ exponent : Int) : ℚ) := by
      rw [toRat, scale, zpow_natCast]
      push_cast
      rfl
    rw [number, Int.cast_inj, isWhole, floor, if_pos scaledUp, scale]
    simp
  · obtain ⟨exponent, scale⟩ : ∃ exponent : Nat, x.scale = -exponent :=
      ⟨(-x.scale).toNat, by omega⟩
    have nonzero : (2 : ℚ) ^ exponent ≠ 0 := pow_ne_zero exponent two_ne_zero
    have number : x.toRat = n ↔ x.signedSignificand = n * 2 ^ exponent := by
      have cast : ((n * 2 ^ exponent : Int) : ℚ) = n * 2 ^ exponent := by
        push_cast
        rfl
      rw [toRat, scale, zpow_neg, zpow_natCast, ← div_eq_mul_inv, div_eq_iff nonzero,
        ← cast, Int.cast_inj]
    rw [number, isWhole, decide_eq_false scaledUp, Bool.false_or, beq_iff_eq, floor,
      if_neg scaledUp, scale, Int.neg_neg, Int.toNat_natCast]
    constructor
    · rintro ⟨divisible, rfl⟩
      exact (Int.ediv_mul_cancel (Int.dvd_of_emod_eq_zero divisible)).symm
    · intro product
      rw [product]
      exact ⟨Int.mul_emod_left n _, Int.mul_ediv_cancel n (Int.pow_ne_zero two_ne_zero)⟩

end Double

end RecordBase
