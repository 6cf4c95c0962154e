import Mathlib.Order.Basic
import RecordBase.Proofs.Key.Encoding

/-!
# Integers among the doubles

Up to `2 ^ 53` every integer is a double: the double nearest to it denotes it.
Rounding down keeps the order of the doubles, so a double whose floor is below
such an integer lies below the double of that integer.
-/

namespace RecordBase

theorem roundHalfEven_one (n : Nat) : roundHalfEven n 1 = n := by
  simp [roundHalfEven, Nat.mod_one]

theorem floorLog2_one {n : Nat} (positive : n ≠ 0) : floorLog2 n 1 = n.log2 := by
  have reached : 2 ^ n.log2 ≤ n := Nat.log2_self_le positive
  have unit : Nat.log2 1 = 0 := by decide
  simp [floorLog2, unit, reached]

namespace Double

/-! ## Rounding down -/

/-- The absolute value of a double in units of `2 ^ (-1075)`. -/
def units (x : Double) : Nat :=
  x.significand * 2 ^ max (x.magnitude / 2 ^ 52) 1

/-- How many of these units make one. -/
def unitsOfOne : Nat :=
  2 ^ 1075

theorem unitsOfOne_pos : 0 < unitsOfOne := by
  rw [unitsOfOne]
  apply Nat.pow_pos
  decide

theorem floor_of_not_isNegative {x : Double} (positive : x.isNegative = false) :
    x.floor = (x.units / unitsOfOne : Nat) := by
  have signed : x.signedSignificand = x.significand := by
    simp [signedSignificand, positive]
  unfold floor scale units unitsOfOne
  rw [signed]
  generalize max (x.magnitude / 2 ^ 52) 1 = exponent
  split
  · rename_i whole
    obtain ⟨above, rfl⟩ : ∃ above, exponent = above + 1075 := ⟨exponent - 1075, by omega⟩
    have shift : ((above + 1075 : Nat) - 1075 : Int).toNat = above := by omega
    rw [shift, Nat.pow_add, ← Nat.mul_assoc, Nat.mul_div_cancel _ (Nat.two_pow_pos 1075)]
    push_cast
    rfl
  · rename_i fractional
    obtain ⟨below, split⟩ : ∃ below, 1075 = below + exponent := ⟨1075 - exponent, by omega⟩
    have shift : (-(exponent - 1075 : Int)).toNat = below := by omega
    rw [shift, split, Nat.pow_add, Nat.mul_div_mul_right _ _ (Nat.two_pow_pos exponent)]
    push_cast
    rfl

theorem significand_lt (x : Double) : x.significand < 2 ^ 53 := by
  unfold significand
  split <;> omega

/-- A double of smaller magnitude is smaller in units. -/
theorem units_strictMono {x y : Double} (below : x.magnitude < y.magnitude) :
    x.units < y.units := by
  have exponents : max (x.magnitude / 2 ^ 52) 1 ≤ max (y.magnitude / 2 ^ 52) 1 := by omega
  rcases Nat.eq_or_lt_of_le exponents with same | lower
  · have significands : x.significand < y.significand := by
      unfold significand
      split <;> split <;> omega
    unfold units
    rw [same]
    exact Nat.mul_lt_mul_of_pos_right significands (Nat.two_pow_pos _)
  · have normal : 2 ^ 52 ≤ y.significand := by
      unfold significand
      split <;> omega
    calc x.units
        < 2 ^ 53 * 2 ^ max (x.magnitude / 2 ^ 52) 1 :=
          Nat.mul_lt_mul_of_pos_right x.significand_lt (Nat.two_pow_pos _)
      _ = 2 ^ 52 * 2 ^ (max (x.magnitude / 2 ^ 52) 1 + 1) := by
          omega
      _ ≤ y.units := Nat.mul_le_mul normal (Nat.pow_le_pow_right (by decide) lower)

/-- A double that is not smaller in magnitude is not smaller in units. -/
theorem units_mono {x y : Double} (notAbove : x.magnitude ≤ y.magnitude) : x.units ≤ y.units := by
  rcases Nat.eq_or_lt_of_le notAbove with same | below
  · apply Nat.le_of_eq
    simp only [units, significand, same]
  · exact Nat.le_of_lt (units_strictMono below)

theorem floor_mono {x y : Double} (left : x.isNegative = false) (right : y.isNegative = false)
    (notAbove : x.magnitude ≤ y.magnitude) : x.floor ≤ y.floor := by
  rw [floor_of_not_isNegative left, floor_of_not_isNegative right]
  exact Int.ofNat_le.mpr (Nat.div_le_div_right (units_mono notAbove))

/-! ## Integers -/

theorem isNegative_ofInt_eq (n : Int) : (ofInt n).isNegative = decide (n < 0) := by
  have bounded := nearestMagnitude_le n.natAbs 1
  have small : infinityMagnitude < 2 ^ 63 := by decide
  rw [ofInt, nearest, isNegative_ofMagnitude (by omega)]

theorem magnitude_ofInt_eq (n : Int) : (ofInt n).magnitude = nearestMagnitude n.natAbs 1 := by
  have bounded := nearestMagnitude_le n.natAbs 1
  have small : infinityMagnitude < 2 ^ 63 := by decide
  rw [ofInt, nearest, magnitude_ofMagnitude (by omega)]

theorem isNegative_ofInt (n : Nat) : (ofInt n).isNegative = false := by
  rw [isNegative_ofInt_eq, decide_eq_false (Int.not_lt.mpr (Int.natCast_nonneg n))]

/-- An integer, rounded to fifty-three bits. -/
def nearestSignificand (n : Nat) : Nat :=
  roundHalfEven (n * 2 ^ (52 - n.log2)) (2 ^ (n.log2 - 52))

/-- The magnitude before it is cut off at infinity. -/
def unboundedMagnitude (n : Nat) : Nat :=
  (n.log2 + 1022) * 2 ^ 52 + nearestSignificand n

/-- The exponent of the double nearest to an integer is that of its leading bit, unless the
significand carries. -/
theorem nearestMagnitude_one {n : Nat} (positive : n ≠ 0) :
    nearestMagnitude n 1 = min (unboundedMagnitude n) infinityMagnitude := by
  have scale : max ((n.log2 : Int) - 52) (-1074) = n.log2 - 52 := by omega
  have exponent : ((n.log2 : Int) - 52 + 1074).toNat = n.log2 + 1022 := by omega
  have significand : (if 0 ≤ (n.log2 : Int) - 52 then
      roundHalfEven n (1 * 2 ^ ((n.log2 : Int) - 52).toNat)
    else roundHalfEven (n * 2 ^ (-((n.log2 : Int) - 52)).toNat) 1) = nearestSignificand n := by
    unfold nearestSignificand
    split
    · have up : 52 - n.log2 = 0 := by omega
      have down : ((n.log2 : Int) - 52).toNat = n.log2 - 52 := by omega
      rw [up, down, Nat.pow_zero, Nat.mul_one, Nat.one_mul]
    · have up : (-((n.log2 : Int) - 52)).toNat = 52 - n.log2 := by omega
      have down : n.log2 - 52 = 0 := by omega
      rw [up, down, Nat.pow_zero]
  simp only [nearestMagnitude, positive, if_false, floorLog2_one positive, scale, significand,
    exponent, unboundedMagnitude]

/-- Moved up to bit fifty-two, an integer of at most fifty-three bits is the
significand of a normal double. -/
theorem shifted_bounds {n : Nat} (positive : n ≠ 0) (short : n.log2 ≤ 52) :
    2 ^ 52 ≤ n * 2 ^ (52 - n.log2) ∧ n * 2 ^ (52 - n.log2) < 2 ^ 53 := by
  have lower : 2 ^ n.log2 * 2 ^ (52 - n.log2) = 2 ^ 52 := by
    rw [← Nat.pow_add, Nat.add_sub_cancel' short]
  have upper : 2 ^ (n.log2 + 1) * 2 ^ (52 - n.log2) = 2 ^ 53 := by
    rw [← Nat.pow_add]
    congr 1
    omega
  rw [← lower, ← upper]
  exact ⟨Nat.mul_le_mul_right _ (Nat.log2_self_le positive),
    Nat.mul_lt_mul_of_pos_right Nat.lt_log2_self (Nat.two_pow_pos _)⟩

/-- An integer of at most fifty-three bits has all of them in its double. -/
theorem magnitude_ofInt {n : Nat} (positive : n ≠ 0) (short : n.log2 ≤ 52) :
    (ofInt n).magnitude = (n.log2 + 1022) * 2 ^ 52 + n * 2 ^ (52 - n.log2) := by
  have whole : n.log2 - 52 = 0 := by omega
  have significand : nearestSignificand n = n * 2 ^ (52 - n.log2) := by
    rw [nearestSignificand, whole, Nat.pow_zero, roundHalfEven_one]
  obtain ⟨_, upper⟩ := shifted_bounds positive short
  rw [magnitude_ofInt_eq, Int.natAbs_natCast, nearestMagnitude_one positive, unboundedMagnitude,
    significand]
  exact Nat.min_eq_left (by unfold infinityMagnitude; omega)

theorem units_ofInt {n : Nat} (positive : n ≠ 0) (short : n.log2 ≤ 52) :
    (ofInt n).units = n * unitsOfOne := by
  obtain ⟨lower, upper⟩ := shifted_bounds positive short
  have magnitude := magnitude_ofInt positive short
  have exponent : (ofInt n).magnitude / 2 ^ 52 = n.log2 + 1023 := by omega
  have significand : (ofInt n).significand = n * 2 ^ (52 - n.log2) := by
    rw [Double.significand, exponent, if_neg (by omega)]
    omega
  have normal : max (n.log2 + 1023) 1 = n.log2 + 1023 := by omega
  have total : 52 - n.log2 + (n.log2 + 1023) = 1075 := by omega
  rw [units, exponent, significand, normal, Nat.mul_assoc, ← Nat.pow_add, unitsOfOne, ← total]

/-- Up to `2 ^ 53` the double nearest to an integer denotes it. -/
theorem floor_ofInt {n : Nat} (positive : n ≠ 0) (small : n ≤ 2 ^ 53) : (ofInt n).floor = n := by
  by_cases short : n.log2 ≤ 52
  · rw [floor_of_not_isNegative (isNegative_ofInt n), units_ofInt positive short,
      Nat.mul_div_cancel _ unitsOfOne_pos]
  · have long : 2 ^ 53 ≤ n := by
      have lower := Nat.log2_self_le positive
      exact Nat.le_trans (Nat.pow_le_pow_right (by decide) (by omega)) lower
    obtain rfl : n = 2 ^ 53 := Nat.le_antisymm small long
    decide

theorem magnitude_ofInt_pos {n : Nat} (positive : n ≠ 0) (small : n ≤ 2 ^ 53) :
    0 < (ofInt n).magnitude := by
  by_contra notPositive
  have zero : (ofInt n).magnitude = 0 := by omega
  have nothing : (ofInt n).units = 0 := by simp [units, significand, zero]
  have floor := floor_ofInt positive small
  rw [floor_of_not_isNegative (isNegative_ofInt n), nothing, Nat.zero_div] at floor
  omega

/-- A double whose floor is below an integer up to `2 ^ 53` is below the double
of that integer. -/
theorem ordinal_lt_ofInt {x : Double} {n : Nat} (positive : n ≠ 0) (small : n ≤ 2 ^ 53)
    (below : x.floor < n) : x.ordinal < (ofInt n).ordinal := by
  have above := magnitude_ofInt_pos positive small
  simp only [ordinal, isNegative_ofInt, Bool.false_eq_true, if_false]
  cases sign : x.isNegative with
  | true =>
      simp only [if_true]
      omega
  | false =>
      simp only [Bool.false_eq_true, if_false]
      by_contra notBelow
      have floors := floor_mono (isNegative_ofInt n) sign (by omega)
      rw [floor_ofInt positive small] at floors
      omega

end Double

end RecordBase
