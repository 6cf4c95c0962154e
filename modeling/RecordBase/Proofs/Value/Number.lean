import Mathlib.Algebra.Order.Group.Unbundled.Abs
import RecordBase.Proofs.Double.Nearest
import RecordBase.Proofs.Store.Consistency
import RecordBase.Proofs.Value.Equality
import RecordBase.Query.Predicate

/-!
# Numbers and their doubles

Equality, order and keys of numbers are those of their doubles. Rounding never turns the
order of two numbers round, but two that differ may have one double. One of them is then
an integer that no double denotes, and both are at least `2 ^ 53` without their signs; below,
and among the numbers that doubles denote, the order is that of the numbers themselves.
-/

namespace RecordBase

namespace Number

variable {left right : Number}

/-- The number that is denoted. -/
def toRat : Number → ℚ
  | int n _ => n
  | real x _ => x.toRat

/-- The number is its own double. -/
def IsExact (number : Number) : Prop :=
  number.toDouble.toRat = number.toRat

/-- Rounding keeps the order of numbers. -/
theorem ordinal_toDouble_mono (notAbove : left.toRat ≤ right.toRat) :
    left.toDouble.ordinal ≤ right.toDouble.ordinal := by
  cases left with
  | int m _ =>
      cases right with
      | int n _ => exact Double.ordinal_ofInt_mono (Int.cast_le.mp notAbove)
      | real y finite =>
          exact Double.ordinal_ofInt_le finite (Double.intCast_le_toRat_iff.mp notAbove)
  | real x finite =>
      cases right with
      | int n _ => exact Double.le_ordinal_ofInt finite (Double.toRat_le_intCast_iff.mp notAbove)
      | real y _ => exact Double.toRat_le_iff.mp notAbove

theorem compare_toDouble (left right : Number) :
    compare left.toDouble.toRat right.toDouble.toRat =
      compare left.toDouble.ordinal right.toDouble.ordinal := by
  rcases Int.lt_trichotomy left.toDouble.ordinal right.toDouble.ordinal with before | same | after
  · rw [Std.compare_eq_lt.mpr before, compare_lt_iff_lt, ← not_le, Double.toRat_le_iff]
    omega
  · rw [Std.LawfulEqOrd.compare_eq_iff_eq.mpr same, compare_eq_iff_eq]
    exact le_antisymm (Double.toRat_le_iff.mpr same.le) (Double.toRat_le_iff.mpr same.ge)
  · rw [Std.compare_eq_gt.mpr after, compare_gt_iff_gt, ← not_le, Double.toRat_le_iff]
    omega

/-- Doubles that differ are in the order of the numbers. -/
theorem compare_toRat_of_ne
    (different : compare left.toDouble.toRat right.toDouble.toRat ≠ .eq) :
    compare left.toDouble.toRat right.toDouble.toRat = compare left.toRat right.toRat := by
  rw [compare_toDouble] at different ⊢
  rcases Int.lt_trichotomy left.toDouble.ordinal right.toDouble.ordinal with before | same | after
  · rw [Std.compare_eq_lt.mpr before, eq_comm, compare_lt_iff_lt]
    exact lt_of_not_ge fun above => absurd (ordinal_toDouble_mono above) (by omega)
  · exact absurd (Std.LawfulEqOrd.compare_eq_iff_eq.mpr same) different
  · rw [Std.compare_eq_gt.mpr after, eq_comm, compare_gt_iff_gt]
    exact lt_of_not_ge fun below => absurd (ordinal_toDouble_mono below) (by omega)

/-- The order of the doubles is that of the numbers unless two that differ have one double. -/
theorem compare_toDouble_eq_iff :
    compare left.toDouble.toRat right.toDouble.toRat = compare left.toRat right.toRat ↔
      (left.toDouble.toRat = right.toDouble.toRat → left.toRat = right.toRat) := by
  constructor
  · intro faithful tie
    rw [compare_eq_iff_eq.mpr tie] at faithful
    exact compare_eq_iff_eq.mp faithful.symm
  · intro distinct
    by_cases tie : left.toDouble.toRat = right.toDouble.toRat
    · rw [compare_eq_iff_eq.mpr tie, compare_eq_iff_eq.mpr (distinct tie)]
    · exact compare_toRat_of_ne (tie ∘ compare_eq_iff_eq.mp)

/-! ## Numbers that are their own doubles -/

theorem abs_toRat_int_le_iff {n : Int} {fits : -2 ^ 63 ≤ n ∧ n < 2 ^ 64} :
    |(int n fits).toRat| ≤ Key.integerLimit ↔ n.natAbs ≤ 2 ^ 53 := by
  rw [toRat, ← Int.cast_abs, Int.cast_le, Int.abs_eq_natAbs, Key.integerLimit]
  omega

/-- Up to the limit every number is its own double. -/
theorem isExact_of_abs_le {number : Number} (small : |number.toRat| ≤ Key.integerLimit) :
    number.IsExact := by
  cases number with
  | int n fits => exact Double.toRat_ofInt (abs_toRat_int_le_iff.mp small)
  | real x finite => rfl

theorem IsExact.le_toRat_toDouble (exact : left.IsExact) (notAbove : left.toRat ≤ right.toRat) :
    left.toRat ≤ right.toDouble.toRat := by
  rw [← exact]
  exact Double.toRat_le_iff.mpr (ordinal_toDouble_mono notAbove)

theorem IsExact.toRat_toDouble_le (exact : right.IsExact) (notAbove : left.toRat ≤ right.toRat) :
    left.toDouble.toRat ≤ right.toRat := by
  rw [← exact]
  exact Double.toRat_le_iff.mpr (ordinal_toDouble_mono notAbove)

/-- A number that is not below the limit does not round to one that is. -/
theorem abs_toRat_lt_of_toDouble {number : Number}
    (small : |number.toDouble.toRat| < Key.integerLimit) :
    |number.toRat| < Key.integerLimit := by
  have highest : (int Key.integerLimit (by decide)).IsExact :=
    isExact_of_abs_le (abs_toRat_int_le_iff.mpr (by decide))
  have lowest : (int (-Key.integerLimit) (by decide)).IsExact :=
    isExact_of_abs_le (abs_toRat_int_le_iff.mpr (by decide))
  rw [abs_lt, ← Int.cast_neg] at small ⊢
  constructor
  · by_contra below
    exact absurd small.1 (not_lt.mpr (lowest.toRat_toDouble_le (not_lt.mp below)))
  · by_contra above
    exact absurd small.2 (not_lt.mpr (highest.le_toRat_toDouble (not_lt.mp above)))

/-- A number below the limit ties with itself alone. -/
theorem eq_of_toDouble_eq_of_abs_lt (small : |left.toRat| < Key.integerLimit)
    (tie : left.toDouble.toRat = right.toDouble.toRat) : left.toRat = right.toRat := by
  have leftExact : left.IsExact := isExact_of_abs_le small.le
  have rightSmall : |right.toRat| < Key.integerLimit := by
    apply abs_toRat_lt_of_toDouble
    rw [← tie, leftExact]
    exact small
  have rightExact : right.IsExact := isExact_of_abs_le rightSmall.le
  rw [← leftExact, tie, rightExact]

end Number

namespace Value

/-- Order, equality, predicates and keys of numbers are those of their doubles, and they are the
numbers' own unless different numbers have one double. -/
theorem numbers_compare_as_doubles (left right : Number) :
    ∃ ordering leftKey rightKey,
      (number left).order? (number right) = some ordering ∧
      Key.ofValue? (number left) = some leftKey ∧
      Key.ofValue? (number right) = some rightKey ∧
      ordering = compare leftKey rightKey ∧
      ordering = compare left.toDouble.toRat right.toDouble.toRat ∧
      ((number left).equal (number right) = true ↔ ordering = .eq) ∧
      ((Predicate.literal (number right)).accepts (number left) = true ↔ ordering = .eq) ∧
      (∀ (store changed : Store) (record : Record) (overwrite : Bool) (written : Value),
        record.get? store.primaryKey.field = some (number right) →
        store.write record overwrite = .ok (written, changed) →
          changed.get? leftKey = if ordering = .eq then some record else store.get? leftKey) ∧
      (ordering = compare left.toRat right.toRat ↔
        (left.toDouble.toRat = right.toDouble.toRat → left.toRat = right.toRat)) ∧
      (|left.toRat| < Key.integerLimit ∨ |right.toRat| < Key.integerLimit ∨
          left.IsExact ∧ right.IsExact →
        ordering = compare left.toRat right.toRat) := by
  have leftNumber := left.isNaN_toDouble
  have rightNumber := right.isNaN_toDouble
  have ordered : (number left).order? (number right) =
      some (compare left.toDouble.ordinal right.toDouble.ordinal) :=
    Double.order?_eq_some_iff.mpr ⟨leftNumber, rightNumber, rfl⟩
  have leftKeyed : Key.ofValue? (number left) = some (.number (Key.encode left.toDouble)) :=
    Key.ofDouble?_eq_some_iff.mpr ⟨leftNumber, rfl⟩
  have rightKeyed : Key.ofValue? (number right) = some (.number (Key.encode right.toDouble)) :=
    Key.ofDouble?_eq_some_iff.mpr ⟨rightNumber, rfl⟩
  obtain ⟨_, _, keyed, compared⟩ := (Key.order?_eq_some_iff_of_ofValue? rightKeyed).mp ordered
  cases leftKeyed.symm.trans keyed
  have equal := order?_eq_iff_equal ordered
  rw [← Number.compare_toDouble] at ordered equal compared
  refine ⟨_, _, _, ordered, leftKeyed, rightKeyed, compared.symm, rfl, equal.symm, equal.symm,
    ?_, Number.compare_toDouble_eq_iff, ?_⟩
  · intro store changed record overwrite written held succeeded
    have own : Key.ofField? record store.primaryKey.field =
        some (.number (Key.encode right.toDouble)) := by
      rw [Key.ofField?, held]
      exact rightKeyed
    have tie : compare left.toDouble.toRat right.toDouble.toRat = .eq ↔
        Key.number (Key.encode right.toDouble) = .number (Key.encode left.toDouble) := by
      rw [← compared, Std.LawfulEqOrd.compare_eq_iff_eq, eq_comm]
    rw [Store.get?_of_write own succeeded, if_congr tie rfl rfl]
  · intro faithful
    apply Number.compare_toDouble_eq_iff.mpr
    intro tie
    rcases faithful with leftSmall | rightSmall | ⟨leftExact, rightExact⟩
    · exact Number.eq_of_toDouble_eq_of_abs_lt leftSmall tie
    · exact (Number.eq_of_toDouble_eq_of_abs_lt rightSmall tie.symm).symm
    · rw [← leftExact, tie, rightExact]

/-- A record is put under `7.0` beside one whose key is `2 ^ 53 + 1`, for seven is small
enough to be told apart from every other number. -/
theorem numbers_compare_as_doubles_small :
    let large : Number := .int (2 ^ 53 + 1) (by decide)
    let small : Number := .real (.ofInt 7) (by decide)
    let first : Record := .ofList [("id", number large)]
    let second : Record := .ofList [("id", number small)]
    let store := Store.ofHistory ⟨"id", false⟩ [.add first]
    let changed := store.after (.put second)
    (number large).order? (number small) = some (compare large.toRat small.toRat) ∧
      (Predicate.literal (number small)).accepts (number large) = false ∧
      Key.ofValue? (number large) = some (.ofInt (2 ^ 53)) ∧
      changed.records.keys = [.ofInt 7, .ofInt (2 ^ 53)] ∧
      changed.get? (.ofInt (2 ^ 53)) = store.get? (.ofInt (2 ^ 53)) := by
  intro large small first second store changed
  obtain ⟨ordering, leftKey, _, ordered, keyed, _, _, _, _, accepted, places, _, faithful⟩ :=
    numbers_compare_as_doubles large small
  have close : |small.toRat| < Key.integerLimit := by
    have seven : small.toRat = (7 : Int) := Double.toRat_ofInt (by decide)
    rw [seven, ← Int.cast_abs, Int.cast_lt]
    decide
  have after : (number large).order? (number small) = some .gt := by decide +kernel
  cases ordered.symm.trans after
  have key : Key.ofValue? (number large) = some (.ofInt (2 ^ 53)) := by decide +kernel
  cases keyed.symm.trans key
  have put : (store.put second).toBool = true := by decide +kernel
  obtain ⟨⟨written, result⟩, succeeded⟩ : ∃ result, store.put second = .ok result := by
    cases outcome : store.put second with
    | ok result => exact ⟨result, rfl⟩
    | error error =>
        rw [outcome] at put
        contradiction
  have same : changed = result := Store.after_of_run (Store.run_put succeeded)
  have field : store.primaryKey.field = "id" := by decide +kernel
  have held : second.get? store.primaryKey.field = some (number small) := by
    rw [field]
    exact SortedMap.get?_insert_self .empty "id" (number small)
  have kept := places store result second true written held succeeded
  rw [← same, if_neg (by decide)] at kept
  refine ⟨?_, ?_, key, by decide +kernel, kept⟩
  · rw [ordered, faithful (.inr (.inl close))]
  · exact Bool.eq_false_iff.mpr fun matched => absurd (accepted.mp matched) (by decide)

/-- The integers `2 ^ 53` and `2 ^ 53 + 1` have one double. They are equal and tie, and one takes
the place of the other. -/
theorem different_numbers_collide :
    let even : Number := .int (2 ^ 53) (by decide)
    let odd : Number := .int (2 ^ 53 + 1) (by decide)
    let store := Store.ofHistory ⟨"id", false⟩
      [ .put (.ofList [("id", number even)])
      , .put (.ofList [("id", number odd)]) ]
    even.toRat ≠ odd.toRat ∧
      (number even).equal (number odd) = true ∧
      (number even).order? (number odd) = some .eq ∧
      Key.ofValue? (number even) = Key.ofValue? (number odd) ∧
      (Predicate.literal (number odd)).accepts (number even) = true ∧
      store.records.values.map (fun record => (record.get? "id").map Value.text) =
        [some "9007199254740993"] := by
  intro even odd store
  refine ⟨?_, by decide +kernel, by decide +kernel, by decide +kernel, by decide +kernel,
    by decide +kernel⟩
  intro same
  exact absurd (Int.cast_injective same) (by decide)

end Value

end RecordBase
