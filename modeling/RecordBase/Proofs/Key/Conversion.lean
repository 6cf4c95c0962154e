import RecordBase.Proofs.Double.Nearest
import RecordBase.Proofs.Value.Ranking

/-!
# Keys converted back

The code of a double is its bits, all of them flipped if there is a sign and the sign bit
alone if there is none. So codes ascend with the doubles, and a code gives its double back;
only the sign of a zero is lost.

The value of a key differs from the value that the key was made of in the form of its
numbers alone: whole ones below the limit come back as integers and all others as doubles.
Both have one double, so the value has the same key again, however deeply lists are nested.
-/

namespace RecordBase

/-! ## Bits of a code -/

theorem xor_two_pow {n exponent : Nat} (small : n < 2 ^ exponent) :
    n ^^^ 2 ^ exponent = n + 2 ^ exponent := by
  have quotient : (n ^^^ 2 ^ exponent) / 2 ^ exponent = 1 := by
    rw [Nat.xor_div_two_pow, Nat.div_eq_of_lt small, Nat.div_self (Nat.two_pow_pos exponent),
      Nat.zero_xor]
  have rest : (n ^^^ 2 ^ exponent) % 2 ^ exponent = n := by
    rw [Nat.xor_mod_two_pow, Nat.mod_eq_of_lt small, Nat.mod_self, Nat.xor_zero]
  have parts := Nat.div_add_mod (n ^^^ 2 ^ exponent) (2 ^ exponent)
  rw [quotient, rest, Nat.mul_one, Nat.add_comm] at parts
  exact parts.symm

namespace Double

variable {x y : Double}

/-- The bits of a double, all of them flipped if there is a sign and the sign bit alone if
there is none. -/
def flipped (x : Double) : UInt64 :=
  if x.bits >>> 63 = 1 then ~~~x.bits else x.bits ^^^ (1 : UInt64) <<< 63

theorem toNat_flipped (x : Double) :
    x.flipped.toNat =
      if x.isNegative then 2 ^ 64 - 1 - x.bits.toNat else x.bits.toNat + 2 ^ 63 := by
  have small := x.bits.toNat_lt
  have top : x.bits >>> 63 = 1 ↔ x.isNegative = true := by
    rw [← UInt64.toNat_inj, UInt64.toNat_shiftRight, isNegative, decide_eq_true_eq]
    change x.bits.toNat >>> 63 = 1 ↔ _
    rw [Nat.shiftRight_eq_div_pow]
    omega
  unfold flipped
  simp only [top]
  split
  · rw [UInt64.toNat_not]
  · rename_i positive
    rw [UInt64.toNat_xor]
    exact xor_two_pow (toNat_lt_of_not_isNegative positive)

/-- Only the two zeros share a place. -/
theorem ordinal_eq_iff :
    x.ordinal = y.ordinal ↔ x = y ∨ x.magnitude = 0 ∧ y.magnitude = 0 := by
  have left := x.bits.toNat_lt
  have right := y.bits.toNat_lt
  have same : x = y ↔ x.bits.toNat = y.bits.toNat := by
    rw [UInt64.toNat_inj]
    constructor
    · exact congrArg bits
    · intro bits
      cases x
      cases y
      exact congrArg mk bits
  simp only [same, ordinal, isNegative, magnitude, decide_eq_true_eq]
  split <;> split <;> omega

end Double

namespace Key

theorem encode_eq_flipped (x : Double) : encode x = x.withoutZeroSign.flipped := by
  by_cases zero : x.magnitude = 0
  · rw [encode, Double.withoutZeroSign, if_pos zero, if_pos zero]
    decide
  · rw [Double.withoutZeroSign, if_neg zero, ← UInt64.toNat_inj, Double.toNat_flipped,
      toNat_encode_of_ne zero]

/-- The codes of the doubles that are numbers have their order, are the same for the two zeros
alone, and give their doubles back. -/
theorem codes_embed_doubles (x y : Double) (left : x.isNaN = false) (right : y.isNaN = false) :
    ∃ code other,
      ofDouble? x = some (number code) ∧ ofDouble? y = some (number other) ∧
      code = x.withoutZeroSign.flipped ∧
      (code < other ↔ x.ordinal < y.ordinal) ∧
      (code = other ↔ x = y ∨ x.magnitude = 0 ∧ y.magnitude = 0) ∧
      x.order? y = some (compare code other) ∧
      (number code).toDouble? = some x.withoutZeroSign := by
  have leftKey : ofDouble? x = some (number (encode x)) :=
    ofDouble?_eq_some_iff.mpr ⟨left, rfl⟩
  have rightKey : ofDouble? y = some (number (encode y)) :=
    ofDouble?_eq_some_iff.mpr ⟨right, rfl⟩
  have same : encode x = encode y ↔ x = y ∨ x.magnitude = 0 ∧ y.magnitude = 0 :=
    encode_eq_encode_iff.trans Double.ordinal_eq_iff
  have ordered : x.order? y = some (compare (encode x) (encode y)) := by
    rw [compare_encode]
    exact Double.order?_eq_some_iff.mpr ⟨left, right, rfl⟩
  have back : (number (encode x)).toDouble? = some x.withoutZeroSign := by
    rw [toDouble?, decode_encode]
  exact ⟨encode x, encode y, leftKey, rightKey, encode_eq_flipped x, encode_lt_encode_iff, same,
    ordered, back⟩

/-- The code of negative infinity is below that of the subnormal number next to zero, and
this one below that of negative zero, which is given back as zero. -/
theorem codes_embed_doubles_up_to_zero :
    let next : Double := .ofMagnitude true 1
    let zero : Double := .ofMagnitude true 0
    ∃ lowest middle highest,
      ofDouble? (.infinity true) = some (number lowest) ∧
      ofDouble? next = some (number middle) ∧ ofDouble? zero = some (number highest) ∧
      lowest < middle ∧ middle < highest ∧
      (number lowest).toDouble? = some (.infinity true) ∧
      (number middle).toDouble? = some next ∧
      (number highest).toDouble? = some (.ofMagnitude false 0) := by
  intro next zero
  have infinite : (Double.infinity true).isNaN = false := by decide
  have nextNumber : next.isNaN = false := by decide +kernel
  have zeroNumber : zero.isNaN = false := by decide +kernel
  rcases codes_embed_doubles (.infinity true) next infinite nextNumber with
    ⟨lowest, middle, lowestKey, middleKey, _, below, _, _, lowestBack⟩
  rcases codes_embed_doubles next zero nextNumber zeroNumber with
    ⟨again, highest, againKey, highestKey, _, above, _, _, middleBack⟩
  rcases codes_embed_doubles zero zero zeroNumber zeroNumber with
    ⟨last, _, lastKey, _, _, _, _, _, highestBack⟩
  cases middleKey.symm.trans againKey
  cases highestKey.symm.trans lastKey
  have infiniteKept : (Double.infinity true).withoutZeroSign = .infinity true := by
    decide +kernel
  have nextKept : next.withoutZeroSign = next := by decide +kernel
  have zeroChanged : zero.withoutZeroSign = .ofMagnitude false 0 := by decide +kernel
  rw [infiniteKept] at lowestBack
  rw [nextKept] at middleBack
  rw [zeroChanged] at highestBack
  exact ⟨lowest, middle, highest, lowestKey, middleKey, highestKey,
    below.mpr (by decide +kernel), above.mpr (by decide +kernel), lowestBack, middleBack,
    highestBack⟩

end Key

/-! ## Numbers -/

namespace Double

variable {x : Double}

/-- Integers of at most sixty-four bits have finite doubles. -/
theorem isFinite_ofInt {n : Int} (fits : n.natAbs ≤ 2 ^ 64) : (ofInt n).isFinite = true := by
  have bounded : nearestMagnitude n.natAbs 1 ≤ nearestMagnitude (2 ^ 64) 1 :=
    nearestMagnitude_mono fits
  have largest : nearestMagnitude (2 ^ 64) 1 < infinityMagnitude := by decide +kernel
  rw [isFinite, magnitude_ofInt_eq]
  exact decide_eq_true (Nat.lt_of_le_of_lt bounded largest)

/-- The double of the integer that a double denotes has its place. -/
theorem ordinal_ofInt_of_toInt? (finite : x.isFinite = true) {n : Int}
    (small : n.natAbs ≤ 2 ^ 53) (whole : x.toInt? = some n) : (ofInt n).ordinal = x.ordinal := by
  have same : x.toRat = (ofInt n).toRat :=
    ((toInt?_eq_some_iff finite).mp whole).trans (toRat_ofInt small).symm
  exact Int.le_antisymm (toRat_le_iff.mp same.ge) (toRat_le_iff.mp same.le)

end Double

theorem Number.isFinite_toDouble (number : Number) : number.toDouble.isFinite = true := by
  cases number with
  | int n fits => exact Double.isFinite_ofInt (by omega)
  | real x finite => exact finite

namespace Key

theorem ofValue?_ofDouble {x : Double} (finite : x.isFinite = true) :
    ofValue? (.ofDouble x) = some (number (encode x)) := by
  have held : Number.ofDouble? x = some (.real x finite) := dif_pos finite
  rw [Value.ofDouble, held]
  exact ofDouble?_eq_some_iff.mpr ⟨Double.isNaN_of_isFinite finite, rfl⟩

/-- A finite double has its key also as the value that it is handed back as. -/
theorem ofValue?_numberValue {x : Double} (finite : x.isFinite = true) :
    ofValue? (numberValue x) = some (number (encode x)) := by
  unfold numberValue
  split
  · rename_i n whole
    split
    · rename_i small
      unfold integerLimit at small
      have place := Double.ordinal_ofInt_of_toInt? finite (by omega) whole
      rw [ofValue?_ofInt (by omega), ofInt, encode_eq_encode_iff.mpr place]
    · exact ofValue?_ofDouble finite
  · exact ofValue?_ofDouble finite

/-! ## Values -/

mutual

/-- The value of a key that a value has is a value of this key again. -/
theorem ofValue?_toValue : ∀ {key : Key} {value : Value}, ofValue? value = some key →
    ofValue? key.toValue = some key
  | .number code, _, keyed => by
      rcases ofValue?_eq_some_number_iff.mp keyed with ⟨content, rfl, _, rfl⟩
      have finite : content.toDouble.withoutZeroSign.isFinite = true := by
        unfold Double.withoutZeroSign
        split
        · rfl
        · exact content.isFinite_toDouble
      rw [toValue, decode_encode, ofValue?_numberValue finite,
        encode_eq_encode_iff.mpr content.toDouble.ordinal_withoutZeroSign]
  | .string text, _, _ => rfl
  | .tuple parts, _, keyed => by
      rcases ofValue?_eq_some_tuple_iff.mp keyed with ⟨items, rfl, itemKeys⟩
      rw [toValue, ofValue?_array, ofValues?_partValues itemKeys]
      rfl

theorem ofValues?_partValues : ∀ {parts : List Key} {values : List Value},
    ofValues? values = some parts → ofValues? (partValues parts) = some parts
  | [], _, _ => rfl
  | key :: keys, _, keyed => by
      rcases ofValues?_eq_some_cons_iff.mp keyed with ⟨first, rest, rfl, firstKey, restKeys⟩
      rw [partValues, ofValues?, ofValue?_toValue firstKey, ofValues?_partValues restKeys]

end

/-- The value of a key equals the values that have it. -/
theorem equal_toValue {key : Key} {value : Value} (keyed : ofValue? value = some key) :
    key.toValue.equal value = true :=
  equal_of_ofValue? key (ofValue?_toValue keyed) keyed

end Key

end RecordBase
