import RecordBase.Key.Path
import RecordBase.Value.Comparison

/-!
# Keys and the order of values

Codes of doubles ascend with the doubles and give them back, but for the sign of
a zero. So keys compare as predicates compare values: values that are equal have
one key, and the order of two values is the order of their keys.
-/

namespace RecordBase

namespace Double

theorem nearestMagnitude_le (numerator denominator : Nat) :
    nearestMagnitude numerator denominator ≤ infinityMagnitude := by
  unfold nearestMagnitude
  split
  · exact Nat.zero_le _
  · exact Nat.min_le_right _ _

/-- Every integer has a nearest double that is a number. -/
theorem isNaN_ofInt (n : Int) : (ofInt n).isNaN = false := by
  have small := nearestMagnitude_le n.natAbs 1
  have bound : infinityMagnitude < 2 ^ 63 := by decide
  rw [isNaN, ofInt, nearest, magnitude_ofMagnitude (by omega)]
  simpa using small

theorem isNaN_of_isFinite {x : Double} (finite : x.isFinite = true) : x.isNaN = false := by
  have below : x.magnitude < infinityMagnitude := of_decide_eq_true finite
  exact decide_eq_false (Nat.not_lt.mpr (Nat.le_of_lt below))

theorem order?_eq_some_iff {x y : Double} {ordering : Ordering} :
    x.order? y = some ordering ↔
      x.isNaN = false ∧ y.isNaN = false ∧ compare x.ordinal y.ordinal = ordering := by
  unfold order?
  split
  · rename_i nan
    constructor
    · intro none'
      contradiction
    · rintro ⟨left, right, _⟩
      simp [left, right] at nan
  · rename_i numbers
    simp only [Bool.or_eq_true, not_or, Bool.not_eq_true] at numbers
    simp [numbers]

theorem toNat_lt_of_not_isNegative {x : Double} (positive : ¬ x.isNegative = true) :
    x.bits.toNat < 2 ^ 63 := by
  simpa [isNegative] using positive

theorem ordinal_of_magnitude_eq_zero {x : Double} (zero : x.magnitude = 0) : x.ordinal = 0 := by
  rw [ordinal, zero]
  cases x.isNegative <;> rfl

/-- The double itself, but a zero has no sign. -/
def withoutZeroSign (x : Double) : Double :=
  if x.magnitude = 0 then ⟨0⟩ else x

theorem ordinal_withoutZeroSign (x : Double) : x.withoutZeroSign.ordinal = x.ordinal := by
  unfold withoutZeroSign
  split
  · rename_i zero
    rw [ordinal_of_magnitude_eq_zero zero]
    rfl
  · rfl

end Double

/-- Equal values are of one kind. -/
theorem Value.kind_eq_of_equal {left right : Value} (same : left.equal right = true) :
    left.kind = right.kind := by
  cases left <;> cases right <;> first | rfl | cases same

namespace Key

/-! ## Numbers -/

/-- The code of a double that is not zero, by its bits. -/
theorem toNat_encode_of_ne {x : Double} (nonzero : x.magnitude ≠ 0) :
    (encode x).toNat =
      if x.isNegative then 2 ^ 64 - 1 - x.bits.toNat else x.bits.toNat + 2 ^ 63 := by
  have small := x.bits.toNat_lt
  rw [encode, if_neg nonzero]
  split
  · rw [UInt64.toNat_ofNat', Nat.mod_eq_of_lt (by omega)]
  · rename_i positive
    have unsigned := Double.toNat_lt_of_not_isNegative positive
    rw [UInt64.toNat_ofNat', Nat.mod_eq_of_lt (by omega)]

/-- A code is the place of its double, moved up by half the range. -/
theorem toNat_encode (x : Double) :
    ((encode x).toNat : Int) =
      if 0 ≤ x.ordinal then 2 ^ 63 + x.ordinal else 2 ^ 63 - 1 + x.ordinal := by
  have small := x.bits.toNat_lt
  by_cases zero : x.magnitude = 0
  · rw [Double.ordinal_of_magnitude_eq_zero zero, encode, if_pos zero]
    rfl
  · rw [toNat_encode_of_ne zero]
    simp only [Double.ordinal, Double.isNegative, Double.magnitude, decide_eq_true_eq] at zero ⊢
    split <;> split <;> omega

theorem encode_lt_encode_iff {x y : Double} : encode x < encode y ↔ x.ordinal < y.ordinal := by
  have left := toNat_encode x
  have right := toNat_encode y
  rw [UInt64.lt_iff_toNat_lt]
  split at left <;> split at right <;> omega

theorem encode_eq_encode_iff {x y : Double} : encode x = encode y ↔ x.ordinal = y.ordinal := by
  have left := toNat_encode x
  have right := toNat_encode y
  rw [← UInt64.toNat_inj]
  split at left <;> split at right <;> omega

/-- Codes compare as the places of their doubles. -/
theorem compare_encode (x y : Double) :
    compare (encode x) (encode y) = compare x.ordinal y.ordinal := by
  rcases Int.lt_trichotomy x.ordinal y.ordinal with before | same | after
  · rw [Std.compare_eq_lt.mpr before, Std.compare_eq_lt]
    exact encode_lt_encode_iff.mpr before
  · rw [encode_eq_encode_iff.mpr same, same, Std.ReflOrd.compare_self, Std.ReflOrd.compare_self]
  · rw [Std.compare_eq_gt.mpr after, Std.compare_eq_gt]
    exact encode_lt_encode_iff.mpr after

/-- A code gives its double back, but for the sign of a zero. -/
theorem decode_encode (x : Double) : decode (encode x) = x.withoutZeroSign := by
  have small := x.bits.toNat_lt
  unfold Double.withoutZeroSign
  by_cases zero : x.magnitude = 0
  · rw [if_pos zero, encode, if_pos zero]
    rfl
  · have code := toNat_encode_of_ne zero
    rw [if_neg zero, decode]
    cases sign : x.isNegative with
    | true =>
        rw [sign, if_pos rfl] at code
        have signed : 2 ^ 63 ≤ x.bits.toNat := of_decide_eq_true sign
        rw [code, if_neg (by omega), Nat.sub_sub_self (by omega), UInt64.ofNat_toNat]
    | false =>
        rw [sign, if_neg Bool.false_ne_true] at code
        rw [code, if_pos (by omega), Nat.add_sub_cancel, UInt64.ofNat_toNat]

/-- The upper half of the codes belongs to the doubles without sign. -/
theorem ordinal_decode {code : UInt64} (upper : 2 ^ 63 ≤ code.toNat) :
    (decode code).ordinal = code.toNat - 2 ^ 63 := by
  have small := code.toNat_lt
  have bits : (UInt64.ofNat (code.toNat - 2 ^ 63)).toNat = code.toNat - 2 ^ 63 := by
    rw [UInt64.toNat_ofNat', Nat.mod_eq_of_lt (by omega)]
  have positive : ¬ 2 ^ 63 ≤ code.toNat - 2 ^ 63 := by omega
  simp only [decode, if_pos upper, Double.ordinal, Double.isNegative, Double.magnitude, bits,
    positive, decide_false, Bool.false_eq_true, if_false]
  omega

theorem ofDouble?_eq_some_iff {x : Double} {key : Key} :
    ofDouble? x = some key ↔ x.isNaN = false ∧ key = number (encode x) := by
  unfold ofDouble?
  split
  · rename_i nan
    simp [nan]
  · rename_i number
    simp [number, eq_comm]

/-- Doubles that denote one number have one key. -/
theorem ofDouble?_eq_of_same {x y : Double} (same : x.same y = true) :
    ofDouble? x = ofDouble? y := by
  simp only [Double.same, Bool.and_eq_true, Bool.not_eq_true', beq_iff_eq] at same
  obtain ⟨⟨left, right⟩, ordinals⟩ := same
  simp [ofDouble?, left, right, encode_eq_encode_iff.mpr ordinals]

/-- An integer of at most sixty-four bits is a key as a value, too. -/
theorem ofValue?_ofInt {n : Int} (fits : -2 ^ 63 ≤ n ∧ n < 2 ^ 64) :
    ofValue? (Value.ofInt n) = some (ofInt n) := by
  have held : Number.ofInt? n = some (.int n fits) := Number.ofInt?_eq_some_iff.mpr ⟨fits, rfl⟩
  rw [Value.ofInt, held]
  exact ofDouble?_eq_some_iff.mpr ⟨Double.isNaN_ofInt n, rfl⟩

/-! ## Values -/

theorem ofValue?_array {items : List Value} :
    ofValue? (.array items) = (ofValues? items).map tuple := by
  rw [ofValue?]

mutual

/-- Equal values have one key, or none of them has one. -/
theorem ofValue?_eq_of_equal : ∀ left right : Value, left.equal right = true →
    ofValue? left = ofValue? right
  | .null, right => by cases right <;> simp [Value.equal]
  | .bool _, right => by cases right <;> simp [Value.equal, ofValue?]
  | .number _, right => by
      cases right <;> simp only [Value.equal, Bool.false_eq_true, false_implies]
      exact fun same => ofDouble?_eq_of_same same
  | .string _, right => by cases right <;> simp +contextual [Value.equal, ofValue?]
  | .array lefts, right => by
      cases right <;> simp only [Value.equal, Bool.false_eq_true, false_implies]
      rename_i rights
      intro same
      rw [ofValue?_array, ofValue?_array, ofValues?_eq_of_equalItems lefts rights same]
  | .object _, right => by cases right <;> simp [Value.equal, ofValue?]

theorem ofValues?_eq_of_equalItems : ∀ lefts rights : List Value,
    Value.equalItems lefts rights = true → ofValues? lefts = ofValues? rights
  | [], [] => fun _ => rfl
  | [], _ :: _ => by simp [Value.equalItems]
  | _ :: _, [] => by simp [Value.equalItems]
  | left :: lefts, right :: rights => by
      simp only [Value.equalItems, Bool.and_eq_true]
      rintro ⟨same, rest⟩
      rw [ofValues?, ofValues?, ofValue?_eq_of_equal left right same,
        ofValues?_eq_of_equalItems lefts rights rest]

end

/-! ### Values with a given key -/

theorem ofValue?_eq_some_number_iff {value : Value} {code : UInt64} :
    ofValue? value = some (number code) ↔
      ∃ content, value = .number content ∧ content.toDouble.isNaN = false ∧
        code = encode content.toDouble := by
  cases value with
  | number content => simp [ofValue?, ofDouble?_eq_some_iff]
  | _ => simp [ofValue?]

theorem ofValue?_eq_some_string_iff {value : Value} {text : String} :
    ofValue? value = some (string text) ↔ value = .string text := by
  cases value with
  | number content => simp [ofValue?, ofDouble?_eq_some_iff]
  | _ => simp [ofValue?]

theorem ofValue?_eq_some_tuple_iff {value : Value} {parts : List Key} :
    ofValue? value = some (tuple parts) ↔
      ∃ items, value = .array items ∧ ofValues? items = some parts := by
  cases value with
  | number content => simp [ofValue?, ofDouble?_eq_some_iff]
  | _ => simp [ofValue?]

theorem ofValues?_eq_some_nil_iff {values : List Value} :
    ofValues? values = some [] ↔ values = [] := by
  cases values with
  | nil => simp [ofValues?]
  | cons value rest =>
      rw [ofValues?]
      split <;> simp

theorem ofValues?_eq_some_cons_iff {values : List Value} {key : Key} {keys : List Key} :
    ofValues? values = some (key :: keys) ↔
      ∃ value rest, values = value :: rest ∧ ofValue? value = some key ∧
        ofValues? rest = some keys := by
  cases values with
  | nil => simp [ofValues?]
  | cons value rest =>
      simp only [List.cons.injEq, and_assoc, exists_and_left, exists_eq_left']
      rw [ofValues?]
      split
      · rename_i found foundRest
        simp [found, foundRest]
      · rename_i missing
        simp only [reduceCtorEq, false_iff]
        rintro ⟨found, foundRest⟩
        exact missing _ _ found foundRest

mutual

/-- Values that have one key are equal. -/
theorem equal_of_ofValue? : ∀ (key : Key) {left right : Value}, ofValue? left = some key →
    ofValue? right = some key → left.equal right = true
  | .number code, _, _, leftKeyed, rightKeyed => by
      obtain ⟨left, rfl, leftNumber, leftCode⟩ := ofValue?_eq_some_number_iff.mp leftKeyed
      obtain ⟨right, rfl, rightNumber, rightCode⟩ := ofValue?_eq_some_number_iff.mp rightKeyed
      have ordinals : left.toDouble.ordinal = right.toDouble.ordinal :=
        encode_eq_encode_iff.mp (leftCode.symm.trans rightCode)
      simp [Value.equal, Double.same, leftNumber, rightNumber, ordinals]
  | .string text, _, _, leftKeyed, rightKeyed => by
      rw [ofValue?_eq_some_string_iff.mp leftKeyed, ofValue?_eq_some_string_iff.mp rightKeyed]
      exact beq_self_eq_true text
  | .tuple parts, _, _, leftKeyed, rightKeyed => by
      obtain ⟨lefts, rfl, leftParts⟩ := ofValue?_eq_some_tuple_iff.mp leftKeyed
      obtain ⟨rights, rfl, rightParts⟩ := ofValue?_eq_some_tuple_iff.mp rightKeyed
      exact equalItems_of_ofValues? parts leftParts rightParts

theorem equalItems_of_ofValues? : ∀ (parts : List Key) {lefts rights : List Value},
    ofValues? lefts = some parts → ofValues? rights = some parts →
      Value.equalItems lefts rights = true
  | [], _, _, leftParts, rightParts => by
      rw [ofValues?_eq_some_nil_iff.mp leftParts, ofValues?_eq_some_nil_iff.mp rightParts]
      rfl
  | key :: keys, _, _, leftParts, rightParts => by
      obtain ⟨left, lefts, rfl, leftKeyed, leftRest⟩ := ofValues?_eq_some_cons_iff.mp leftParts
      obtain ⟨right, rights, rfl, rightKeyed, rightRest⟩ :=
        ofValues?_eq_some_cons_iff.mp rightParts
      rw [Value.equalItems, equal_of_ofValue? key leftKeyed rightKeyed,
        equalItems_of_ofValues? keys leftRest rightRest, Bool.and_self]

end

/-- A value equals one with a key if it has the same key. -/
theorem equal_iff_of_ofValue? {value expected : Value} {key : Key}
    (found : ofValue? expected = some key) :
    value.equal expected = true ↔ ofValue? value = some key := by
  constructor
  · intro same
    exact (ofValue?_eq_of_equal value expected same).trans found
  · intro keyed
    exact equal_of_ofValue? key keyed found

/-- With a value that is a key, only the keys of its own kind have an order, and it is
that of the keys. -/
theorem order?_eq_some_iff_of_ofValue? {value limit : Value} {ordering : Ordering}
    {limitKey : Key} (found : ofValue? limit = some limitKey) :
    value.order? limit = some ordering ↔
      value.kind = limit.kind ∧
        ∃ key, ofValue? value = some key ∧ compare key limitKey = ordering := by
  cases limitKey with
  | number code =>
      obtain ⟨right, rfl, rightNumber, rfl⟩ := ofValue?_eq_some_number_iff.mp found
      cases value with
      | number left =>
          simp [Value.order?, Value.kind, Double.order?_eq_some_iff, ofValue?,
            ofDouble?_eq_some_iff, rightNumber, and_assoc, compare_def, order, compare_encode]
      | _ => simp [Value.order?, Value.kind]
  | string text =>
      rw [ofValue?_eq_some_string_iff.mp found]
      cases value with
      | string left => simp [Value.order?, Value.kind, ofValue?, compare_def, order]
      | _ => simp [Value.order?, Value.kind]
  | tuple parts =>
      obtain ⟨rights, rfl, rightParts⟩ := ofValue?_eq_some_tuple_iff.mp found
      cases value with
      | array lefts =>
          cases leftParts : ofValues? lefts <;>
            simp [Value.order?, Value.kind, ofValue?_array, leftParts, rightParts, compare_def,
              order]
      | _ => simp [Value.order?, Value.kind]

/-- What holds of the order of a value with a limit holds of the order of their keys,
where both are of one kind. -/
theorem exists_order?_iff_of_ofValue? {value limit : Value} {limitKey : Key}
    (found : ofValue? limit = some limitKey) {test : Ordering → Prop} :
    (∃ ordering, value.order? limit = some ordering ∧ test ordering) ↔
      (∃ key, ofValue? value = some key ∧ test (compare key limitKey)) ∧
        value.kind = limit.kind := by
  simp only [order?_eq_some_iff_of_ofValue? found]
  constructor
  · rintro ⟨_, ⟨sameKind, key, keyed, rfl⟩, passed⟩
    exact ⟨⟨key, keyed, passed⟩, sameKind⟩
  · rintro ⟨⟨key, keyed, passed⟩, sameKind⟩
    exact ⟨_, ⟨sameKind, key, keyed, rfl⟩, passed⟩

end Key

end RecordBase
