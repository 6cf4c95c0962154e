import RecordBase.Proofs.Double.Order

/-!
# Rounding integers to doubles

The double nearest to an integer is found without passing any other double: a double that
is not below the integer is not below its nearest double either, and the same from below.
So rounding keeps the order of the integers among each other and among the doubles, and
loses at most that two of them differ. Up to `2 ^ 53` it changes no integer.
-/

namespace RecordBase

/-! ## Rounding to an integer -/

section Rounding

variable {numerator denominator bound : Nat}

theorem roundHalfEven_le (positive : 0 < denominator) (below : numerator ≤ bound * denominator) :
    roundHalfEven numerator denominator ≤ bound := by
  have whole : numerator / denominator ≤ bound := Nat.div_le_of_le_mul (by rwa [Nat.mul_comm])
  have parts := Nat.div_add_mod numerator denominator
  have exact (reached : numerator / denominator = bound) : numerator % denominator = 0 := by
    rw [reached, Nat.mul_comm] at parts
    omega
  unfold roundHalfEven
  simp only
  split
  · exact whole
  · split <;> omega

theorem le_roundHalfEven (positive : 0 < denominator) (above : bound * denominator ≤ numerator) :
    bound ≤ roundHalfEven numerator denominator := by
  have whole : bound ≤ numerator / denominator := (Nat.le_div_iff_mul_le positive).mpr above
  unfold roundHalfEven
  simp only
  split
  · exact whole
  · split <;> omega

theorem roundHalfEven_mono {other : Nat} (positive : 0 < denominator)
    (notAbove : numerator ≤ other) :
    roundHalfEven numerator denominator ≤ roundHalfEven other denominator := by
  have wholes : numerator / denominator ≤ other / denominator := Nat.div_le_div_right notAbove
  rcases Nat.eq_or_lt_of_le wholes with same | lower
  · have parts := Nat.div_add_mod numerator denominator
    have otherParts := Nat.div_add_mod other denominator
    rw [← same] at otherParts
    have rests : numerator % denominator ≤ other % denominator := by omega
    unfold roundHalfEven
    simp only [← same]
    split <;> split <;> (try split) <;> (try split) <;> omega
  · have rest := Nat.mod_lt numerator positive
    have parts := Nat.div_add_mod numerator denominator
    have above : numerator ≤ (numerator / denominator + 1) * denominator := by
      rw [Nat.add_mul, Nat.one_mul, Nat.mul_comm]
      omega
    have reached : other / denominator * denominator ≤ other := Nat.div_mul_le_self ..
    calc roundHalfEven numerator denominator
        ≤ numerator / denominator + 1 := roundHalfEven_le positive above
      _ ≤ other / denominator := lower
      _ ≤ roundHalfEven other denominator := le_roundHalfEven positive reached

end Rounding

namespace Double

/-! ## Bounds of the nearest significand -/

theorem two_pow_mul_unitsOfOne {exponent low high : Nat} (total : exponent + 1075 = low + high) :
    2 ^ exponent * unitsOfOne = 2 ^ low * 2 ^ high := by
  rw [unitsOfOne]
  generalize 1075 = scale at total ⊢
  rw [← Nat.pow_add, total, Nat.pow_add]

/-- An integer and a significand with its exponent, both in units, have the factors of the
rounding and a common power of two. -/
theorem scaled_units (n significand : Nat) :
    n * unitsOfOne = n * 2 ^ (52 - n.log2) * 2 ^ (1023 + min n.log2 52) ∧
      significand * 2 ^ (n.log2 + 1023) =
        significand * 2 ^ (n.log2 - 52) * 2 ^ (1023 + min n.log2 52) := by
  have total : n.log2 - 52 + (1023 + min n.log2 52) = n.log2 + 1023 := by omega
  have one : unitsOfOne = 2 ^ (52 - n.log2) * 2 ^ (1023 + min n.log2 52) := by
    rw [← Nat.one_mul unitsOfOne, ← Nat.pow_zero 2]
    exact two_pow_mul_unitsOfOne (by omega)
  rw [one, ← Nat.mul_assoc, Nat.mul_assoc significand, ← Nat.pow_add _ (n.log2 - 52), total]
  exact ⟨rfl, rfl⟩

theorem nearestSignificand_le {n significand : Nat}
    (below : n * unitsOfOne ≤ significand * 2 ^ (n.log2 + 1023)) :
    nearestSignificand n ≤ significand := by
  obtain ⟨left, right⟩ := scaled_units n significand
  rw [left, right] at below
  exact roundHalfEven_le (Nat.two_pow_pos _)
    (Nat.le_of_mul_le_mul_right below (Nat.two_pow_pos _))

theorem le_nearestSignificand {n significand : Nat}
    (above : significand * 2 ^ (n.log2 + 1023) ≤ n * unitsOfOne) :
    significand ≤ nearestSignificand n := by
  obtain ⟨left, right⟩ := scaled_units n significand
  rw [left, right] at above
  exact le_roundHalfEven (Nat.two_pow_pos _)
    (Nat.le_of_mul_le_mul_right above (Nat.two_pow_pos _))

theorem two_pow_log2_le_units {n : Nat} (positive : n ≠ 0) :
    2 ^ 52 * 2 ^ (n.log2 + 1023) ≤ n * unitsOfOne := by
  have total : n.log2 + 1075 = 52 + (n.log2 + 1023) := by omega
  rw [← two_pow_mul_unitsOfOne total]
  exact Nat.mul_le_mul_right _ (Nat.log2_self_le positive)

theorem units_lt_two_pow_log2 (n : Nat) :
    n * unitsOfOne < 2 ^ 53 * 2 ^ (n.log2 + 1023) := by
  have total : n.log2 + 1 + 1075 = 53 + (n.log2 + 1023) := by omega
  rw [← two_pow_mul_unitsOfOne total]
  exact Nat.mul_lt_mul_of_pos_right Nat.lt_log2_self unitsOfOne_pos

theorem nearestSignificand_bounds {n : Nat} (positive : n ≠ 0) :
    2 ^ 52 ≤ nearestSignificand n ∧ nearestSignificand n ≤ 2 ^ 53 :=
  ⟨le_nearestSignificand (two_pow_log2_le_units positive),
    nearestSignificand_le (Nat.le_of_lt (units_lt_two_pow_log2 n))⟩

/-! ## No double is passed -/

theorem significand_of_normal {x : Double} (normal : x.magnitude / 2 ^ 52 ≠ 0) :
    x.significand = 2 ^ 52 + x.magnitude % 2 ^ 52 := by
  rw [Double.significand, if_neg normal]

theorem units_of_normal {x : Double} (normal : x.magnitude / 2 ^ 52 ≠ 0) :
    x.units = x.significand * 2 ^ (x.magnitude / 2 ^ 52) := by
  rw [units, Nat.max_eq_left (Nat.one_le_iff_ne_zero.mpr normal)]

/-- A double that is not below an integer has at least the exponent of its leading bit. -/
theorem log2_le_exponent {n : Nat} {x : Double} (positive : n ≠ 0)
    (above : n * unitsOfOne ≤ x.units) : n.log2 + 1023 ≤ x.magnitude / 2 ^ 52 := by
  have powers : 2 ^ 52 * 2 ^ (n.log2 + 1023) < 2 ^ 53 * 2 ^ max (x.magnitude / 2 ^ 52) 1 := by
    calc 2 ^ 52 * 2 ^ (n.log2 + 1023)
        ≤ n * unitsOfOne := two_pow_log2_le_units positive
      _ ≤ x.units := above
      _ < 2 ^ 53 * 2 ^ max (x.magnitude / 2 ^ 52) 1 :=
        Nat.mul_lt_mul_of_pos_right x.significand_lt (Nat.two_pow_pos _)
  rw [← Nat.pow_add, ← Nat.pow_add] at powers
  have exponents := (Nat.pow_lt_pow_iff_right (by decide)).mp powers
  clear above powers
  omega

/-- A normal double that is not above an integer has at most the exponent of its leading
bit. -/
theorem exponent_le_log2 {n : Nat} {x : Double} (normal : x.magnitude / 2 ^ 52 ≠ 0)
    (below : x.units ≤ n * unitsOfOne) : x.magnitude / 2 ^ 52 ≤ n.log2 + 1023 := by
  have leading : 2 ^ 52 ≤ x.significand := by
    rw [significand_of_normal normal]
    exact Nat.le_add_right _ _
  have powers : 2 ^ 52 * 2 ^ (x.magnitude / 2 ^ 52) < 2 ^ 53 * 2 ^ (n.log2 + 1023) := by
    calc 2 ^ 52 * 2 ^ (x.magnitude / 2 ^ 52)
        ≤ x.significand * 2 ^ (x.magnitude / 2 ^ 52) := Nat.mul_le_mul_right _ leading
      _ = x.units := (units_of_normal normal).symm
      _ ≤ n * unitsOfOne := below
      _ < 2 ^ 53 * 2 ^ (n.log2 + 1023) := units_lt_two_pow_log2 n
  rw [← Nat.pow_add, ← Nat.pow_add] at powers
  have exponents := (Nat.pow_lt_pow_iff_right (by decide)).mp powers
  clear below powers
  omega

/-- A double that is not below an integer is not below the nearest double either. -/
theorem nearestMagnitude_le_of_units {n : Nat} {x : Double} (above : n * unitsOfOne ≤ x.units) :
    nearestMagnitude n 1 ≤ x.magnitude := by
  by_cases zero : n = 0
  · subst zero
    exact Nat.zero_le _
  have ⟨_, upper⟩ := nearestSignificand_bounds zero
  have exponents := log2_le_exponent zero above
  have normal : x.magnitude / 2 ^ 52 ≠ 0 := by clear above; omega
  have significand := significand_of_normal normal
  rw [nearestMagnitude_one zero]
  refine Nat.le_trans (Nat.min_le_left _ _) ?_
  unfold unboundedMagnitude
  rcases Nat.eq_or_lt_of_le exponents with same | higher
  · have notAbove : nearestSignificand n ≤ x.significand := by
      apply nearestSignificand_le
      rw [units_of_normal normal, ← same] at above
      exact above
    clear above
    omega
  · clear above
    omega

/-- A finite double that is not above an integer is not above the nearest double either. -/
theorem le_nearestMagnitude_of_units {n : Nat} {x : Double} (finite : x.isFinite = true)
    (below : x.units ≤ n * unitsOfOne) : x.magnitude ≤ nearestMagnitude n 1 := by
  by_cases zero : n = 0
  · subst zero
    rw [Nat.zero_mul, Nat.le_zero, units_eq_zero_iff] at below
    rw [below]
    exact Nat.zero_le _
  have ⟨lower, _⟩ := nearestSignificand_bounds zero
  rw [nearestMagnitude_one zero]
  refine Nat.le_min.mpr ⟨?_, Nat.le_of_lt (of_decide_eq_true finite)⟩
  unfold unboundedMagnitude
  by_cases less : x.magnitude / 2 ^ 52 < n.log2 + 1023
  · clear below
    omega
  · have normal : x.magnitude / 2 ^ 52 ≠ 0 := by clear below; omega
    have significand := significand_of_normal normal
    have same := Nat.le_antisymm (exponent_le_log2 normal below) (Nat.le_of_not_lt less)
    have notAbove : x.significand ≤ nearestSignificand n := by
      apply le_nearestSignificand
      rw [units_of_normal normal, same] at below
      exact below
    clear below
    omega

theorem nearestMagnitude_mono {m n : Nat} (notAbove : m ≤ n) :
    nearestMagnitude m 1 ≤ nearestMagnitude n 1 := by
  by_cases zero : m = 0
  · subst zero
    exact Nat.zero_le _
  have nonzero : n ≠ 0 := by omega
  have ⟨_, upper⟩ := nearestSignificand_bounds zero
  have ⟨lower, _⟩ := nearestSignificand_bounds nonzero
  rw [nearestMagnitude_one zero, nearestMagnitude_one nonzero]
  have unbounded : unboundedMagnitude m ≤ unboundedMagnitude n := by
    have logs : m.log2 ≤ n.log2 := by
      rw [Nat.le_log2 nonzero]
      exact Nat.le_trans (Nat.log2_self_le zero) notAbove
    unfold unboundedMagnitude
    rcases Nat.eq_or_lt_of_le logs with same | less
    · have significands : nearestSignificand m ≤ nearestSignificand n := by
        unfold nearestSignificand
        rw [same]
        exact roundHalfEven_mono (Nat.two_pow_pos _) (Nat.mul_le_mul_right _ notAbove)
      omega
    · omega
  omega

/-! ## Integers with a sign -/

theorem ordinal_ofInt (n : Int) :
    (ofInt n).ordinal = signed (n < 0) (nearestMagnitude n.natAbs 1) := by
  rw [← magnitude_ofInt_eq, ← isNegative_ofInt_eq]
  rfl

theorem signed_natAbs (n : Int) : signed (n < 0) n.natAbs = n := by
  unfold signed
  split <;> simp only [decide_eq_true_eq] at * <;> omega

theorem signed_natAbs_mul (n : Int) (factor : Nat) :
    signed (n < 0) (n.natAbs * factor) = n * factor := by
  conv_rhs => rw [← signed_natAbs n]
  unfold signed
  split
  · rw [Nat.cast_mul, Int.neg_mul]
  · rw [Nat.cast_mul]

theorem ordinal_ofInt_mono {m n : Int} (notAbove : m ≤ n) :
    (ofInt m).ordinal ≤ (ofInt n).ordinal := by
  rw [ordinal_ofInt, ordinal_ofInt]
  rw [← signed_natAbs m, ← signed_natAbs n] at notAbove
  refine signed_le_signed ?_ nearestMagnitude_mono nearestMagnitude_mono notAbove
  intro zero
  rw [zero]
  rfl

/-- The double nearest to an integer is not above a finite double that the integer is not
above. -/
theorem ordinal_ofInt_le {n : Int} {x : Double} (finite : x.isFinite = true)
    (notAbove : n * unitsOfOne ≤ x.signedUnits) : (ofInt n).ordinal ≤ x.ordinal := by
  rw [← signed_natAbs_mul] at notAbove
  rw [ordinal_ofInt]
  exact signed_le_signed units_eq_zero_iff.mp nearestMagnitude_le_of_units
    (le_nearestMagnitude_of_units finite) notAbove

/-- The double nearest to an integer is not below a finite double that the integer is not
below. -/
theorem le_ordinal_ofInt {n : Int} {x : Double} (finite : x.isFinite = true)
    (notBelow : x.signedUnits ≤ n * unitsOfOne) : x.ordinal ≤ (ofInt n).ordinal := by
  rw [← signed_natAbs_mul] at notBelow
  rw [ordinal_ofInt]
  refine signed_le_signed ?_ (le_nearestMagnitude_of_units finite) nearestMagnitude_le_of_units
    notBelow
  intro zero
  rcases Nat.mul_eq_zero.mp zero with none' | nothing
  · rw [none']
    rfl
  · exact absurd nothing (Nat.ne_of_gt unitsOfOne_pos)

/-- Up to `2 ^ 53` rounding changes no integer. -/
theorem signedUnits_ofInt {n : Int} (small : n.natAbs ≤ 2 ^ 53) :
    (ofInt n).signedUnits = n * unitsOfOne := by
  have same : (ofInt n).units = (ofInt n.natAbs).units := by
    have magnitudes : (ofInt n).magnitude = (ofInt n.natAbs).magnitude := by
      rw [magnitude_ofInt_eq, magnitude_ofInt_eq, Int.natAbs_natCast]
    exact Nat.le_antisymm (units_mono magnitudes.le) (units_mono magnitudes.ge)
  have exact : (ofInt n.natAbs).units = n.natAbs * unitsOfOne := by
    by_cases zero : n.natAbs = 0
    · rw [zero, Nat.zero_mul, units_eq_zero_iff]
      rfl
    by_cases short : n.natAbs.log2 ≤ 52
    · exact units_ofInt zero short
    · have long : 2 ^ 53 ≤ n.natAbs :=
        Nat.le_trans (Nat.pow_le_pow_right (by decide) (by omega)) (Nat.log2_self_le zero)
      rw [Nat.le_antisymm small long]
      decide +kernel
  rw [signedUnits, isNegative_ofInt_eq, same, exact, signed_natAbs_mul]

theorem toRat_ofInt {n : Int} (small : n.natAbs ≤ 2 ^ 53) : (ofInt n).toRat = n := by
  rw [toRat_eq, signedUnits_ofInt small, Int.cast_mul, Int.cast_natCast,
    mul_div_cancel_right₀ _ cast_unitsOfOne_pos.ne']

end Double

end RecordBase
