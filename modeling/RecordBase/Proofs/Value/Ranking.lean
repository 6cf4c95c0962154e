import RecordBase.Proofs.Key.Encoding
import RecordBase.Value.Ranking

/-!
# The ranking as an order

Collation, the ranking of values and the order of records are total preorders,
so results can be sorted by them. Strings tie only if they are equal, and values
that tie have one key or none.
-/

namespace RecordBase

/-- Two comparisons that do not descend make one, which is strict if one of them
is. -/
theorem compare_eq_then {α : Type} {order : α → α → Ordering} [Std.TransCmp order]
    {first second third : α} (before : (order first second).isLE = true)
    (after : (order second third).isLE = true) :
    order first third = (order first second).then (order second third) := by
  rcases Ordering.isLE_iff_eq_lt_or_eq_eq.mp before with less | tie
  · rw [less, Std.TransCmp.lt_of_lt_of_isLE less after]
    rfl
  · rw [tie, Std.TransCmp.congr_left tie]
    rfl

namespace Collation

instance : Std.TransCmp orderChars :=
  inferInstanceAs (Std.TransCmp (compareLex (compareOn Text.isAlphanumeric) compare))

instance : Std.TransCmp orderFolded where
  eq_swap := by
    intro left right
    exact @Std.OrientedCmp.eq_swap _ (List.compareLex orderChars) _ _ _
  isLE_trans := by
    intro first second third
    exact @Std.TransCmp.isLE_trans _ (List.compareLex orderChars) _ _ _ _

instance : Std.TransCmp order :=
  inferInstanceAs (Std.TransCmp (compareLex orderFolded compare))

theorem eq_of_order_eq {left right : String} (tie : order left right = .eq) : left = right :=
  Std.LawfulEqOrd.eq_of_compare (Ordering.then_eq_eq.mp tie).2

end Collation

theorem Number.isNaN_toDouble (number : Number) : number.toDouble.isNaN = false := by
  cases number with
  | int n fits => exact Double.isNaN_ofInt n
  | real x finite => exact Double.isNaN_of_isFinite finite

namespace Value

theorem rank_of_kind_ne {left right : Value} (different : left.kind ≠ right.kind) :
    left.rank right = compare left.kind.rank right.kind.rank := by
  cases left <;> cases right <;> first | rfl | exact absurd rfl different

theorem Kind.eq_of_rank_eq {left right : Kind} (same : left.rank = right.rank) : left = right := by
  cases left <;> cases right <;> first | rfl | cases same

mutual

theorem rank_swap : ∀ left right : Value, left.rank right = (right.rank left).swap
  | .null, right => by cases right <;> rfl
  | .bool left, right => by
      cases right with
      | bool right => exact Std.OrientedOrd.eq_swap
      | _ => rfl
  | .number left, right => by
      cases right with
      | number right => exact Std.OrientedOrd.eq_swap
      | _ => rfl
  | .string left, right => by
      cases right with
      | string right => exact @Std.OrientedCmp.eq_swap _ Collation.order _ left right
      | _ => rfl
  | .array left, right => by
      cases right with
      | array right => exact rankItems_swap left right
      | _ => rfl
  | .object _, right => by cases right <;> rfl

theorem rankItems_swap : ∀ left right : List Value,
    rankItems left right = (rankItems right left).swap
  | [], [] => rfl
  | [], _ :: _ => rfl
  | _ :: _, [] => rfl
  | left :: lefts, right :: rights => by
      rw [rankItems, rankItems, Ordering.swap_then, ← rank_swap left right,
        ← rankItems_swap lefts rights]

end

/-- Values that do not descend are of kinds that do not descend. -/
theorem kind_rank_le_of_isLE {left right : Value} (before : (left.rank right).isLE = true) :
    left.kind.rank ≤ right.kind.rank := by
  by_cases same : left.kind = right.kind
  · exact Nat.le_of_eq (congrArg Kind.rank same)
  · rw [rank_of_kind_ne same] at before
    exact Nat.isLE_compare.mp before

theorem rank_of_kind_rank_lt {left right : Value} (less : left.kind.rank < right.kind.rank) :
    left.rank right = .lt := by
  have different : left.kind ≠ right.kind := by
    intro same
    exact Nat.ne_of_lt less (congrArg Kind.rank same)
  rw [rank_of_kind_ne different]
  exact Nat.compare_eq_lt.mpr less

/-- Where the kinds of three values ascend, so do the first and the last. -/
theorem rank_eq_then_of_kinds {first second third : Value}
    (mixed : ¬ (first.kind = second.kind ∧ second.kind = third.kind))
    (before : (first.rank second).isLE = true) (after : (second.rank third).isLE = true) :
    first.rank third = (first.rank second).then (second.rank third) := by
  have lower := kind_rank_le_of_isLE before
  have upper := kind_rank_le_of_isLE after
  by_cases less : first.kind.rank < second.kind.rank
  · rw [rank_of_kind_rank_lt less, rank_of_kind_rank_lt (Nat.lt_of_lt_of_le less upper)]
    rfl
  · have same : first.kind = second.kind :=
      Kind.eq_of_rank_eq (Nat.le_antisymm lower (Nat.not_lt.mp less))
    have greater : second.kind.rank < third.kind.rank :=
      Nat.lt_of_le_of_ne upper fun equal => mixed ⟨same, Kind.eq_of_rank_eq equal⟩
    rw [rank_of_kind_rank_lt greater, rank_of_kind_rank_lt (Nat.lt_of_le_of_lt lower greater)]
    rcases Ordering.isLE_iff_eq_lt_or_eq_eq.mp before with strict | tie
    · rw [strict]
      rfl
    · rw [tie]
      rfl

theorem rank_eq_then_of_flat {first second third : Value} (flat : first.kind ≠ .array)
    (before : (first.rank second).isLE = true) (after : (second.rank third).isLE = true) :
    first.rank third = (first.rank second).then (second.rank third) := by
  by_cases same : first.kind = second.kind ∧ second.kind = third.kind
  · cases first with
    | null =>
        cases second <;> cases same.1
        cases third <;> cases same.2
        rfl
    | bool truth =>
        cases second <;> cases same.1
        cases third <;> cases same.2
        exact @compare_eq_then Bool compare _ _ _ _ before after
    | number number =>
        cases second <;> cases same.1
        cases third <;> cases same.2
        exact @compare_eq_then Int compare _ _ _ _ before after
    | string text =>
        cases second <;> cases same.1
        cases third <;> cases same.2
        exact @compare_eq_then _ Collation.order _ _ _ _ before after
    | array items => contradiction
    | object members =>
        cases second <;> cases same.1
        cases third <;> cases same.2
        rfl
  · exact rank_eq_then_of_kinds same before after

mutual

theorem rank_eq_then : ∀ first second third : Value, (first.rank second).isLE = true →
    (second.rank third).isLE = true →
      first.rank third = (first.rank second).then (second.rank third)
  | .array firsts, second, third => by
      intro before after
      by_cases same : (Value.array firsts).kind = second.kind ∧ second.kind = third.kind
      · cases second <;> cases same.1
        cases third <;> cases same.2
        exact rankItems_eq_then firsts _ _ before after
      · exact rank_eq_then_of_kinds same before after
  | .null, _, _ => rank_eq_then_of_flat nofun
  | .bool _, _, _ => rank_eq_then_of_flat nofun
  | .number _, _, _ => rank_eq_then_of_flat nofun
  | .string _, _, _ => rank_eq_then_of_flat nofun
  | .object _, _, _ => rank_eq_then_of_flat nofun

theorem rankItems_eq_then : ∀ firsts seconds thirds : List Value,
    (rankItems firsts seconds).isLE = true → (rankItems seconds thirds).isLE = true →
      rankItems firsts thirds = (rankItems firsts seconds).then (rankItems seconds thirds)
  | [], [], _ => by simp [rankItems]
  | [], _ :: _, [] => by simp [rankItems]
  | [], _ :: _, _ :: _ => by simp [rankItems]
  | _ :: _, [], _ => by simp [rankItems]
  | _ :: _, _ :: _, [] => by simp [rankItems]
  | first :: firsts, second :: seconds, third :: thirds => by
      simp only [rankItems, Ordering.isLE_then_iff_and]
      rintro ⟨before, restBefore⟩ ⟨after, restAfter⟩
      rw [rank_eq_then first second third before after]
      rcases Ordering.isLE_iff_eq_lt_or_eq_eq.mp before with less | tie
      · rw [less]
        rfl
      · rw [tie] at restBefore ⊢
        have restBefore := restBefore.resolve_left nofun
        rcases Ordering.isLE_iff_eq_lt_or_eq_eq.mp after with less | tie
        · rw [less]
          rcases Ordering.isLE_iff_eq_lt_or_eq_eq.mp restBefore with strict | same
          · rw [strict]
            rfl
          · rw [same]
            rfl
        · rw [tie] at restAfter ⊢
          have restAfter := restAfter.resolve_left nofun
          exact rankItems_eq_then firsts seconds thirds restBefore restAfter

end

/-- The ranking is a total preorder. -/
instance : Std.TransCmp rank where
  eq_swap := rank_swap _ _
  isLE_trans := by
    intro first second third before after
    rw [rank_eq_then first second third before after, Ordering.isLE_then_iff_and]
    exact ⟨before, .inr after⟩

/-! ## Ties -/

theorem kind_eq_of_rank_eq {left right : Value} (tie : left.rank right = .eq) :
    left.kind = right.kind := by
  by_cases same : left.kind = right.kind
  · exact same
  · rw [rank_of_kind_ne same] at tie
    exact Kind.eq_of_rank_eq (Nat.compare_eq_eq.mp tie)

mutual

/-- Values that tie have one key, or none of them has one. -/
theorem ofValue?_eq_of_rank_eq : ∀ left right : Value, left.rank right = .eq →
    Key.ofValue? left = Key.ofValue? right
  | .array lefts, right => by
      intro tie
      cases right <;> cases kind_eq_of_rank_eq tie
      rw [Key.ofValue?_array, Key.ofValue?_array, ofValues?_eq_of_rankItems_eq lefts _ tie]
  | .number left, right => by
      intro tie
      cases right <;> cases kind_eq_of_rank_eq tie
      rename_i right
      apply Key.ofDouble?_eq_of_same
      have ordinals : left.toDouble.ordinal = right.toDouble.ordinal :=
        Std.LawfulEqOrd.eq_of_compare tie
      simp [Double.same, Number.isNaN_toDouble, ordinals]
  | .string left, right => by
      intro tie
      cases right <;> cases kind_eq_of_rank_eq tie
      rw [Collation.eq_of_order_eq tie]
  | .null, right => by
      intro tie
      cases right <;> cases kind_eq_of_rank_eq tie
      rfl
  | .bool _, right => by
      intro tie
      cases right <;> cases kind_eq_of_rank_eq tie
      rfl
  | .object _, right => by
      intro tie
      cases right <;> cases kind_eq_of_rank_eq tie
      rfl

theorem ofValues?_eq_of_rankItems_eq : ∀ lefts rights : List Value,
    rankItems lefts rights = .eq → Key.ofValues? lefts = Key.ofValues? rights
  | [], [] => fun _ => rfl
  | [], _ :: _ => nofun
  | _ :: _, [] => nofun
  | left :: lefts, right :: rights => by
      rw [rankItems, Ordering.then_eq_eq]
      rintro ⟨tie, rest⟩
      rw [Key.ofValues?, Key.ofValues?, ofValue?_eq_of_rank_eq left right tie,
        ofValues?_eq_of_rankItems_eq lefts rights rest]

end

/-! ## Numbers -/

/-- Numbers are ranked as their keys are ordered. -/
theorem rank_of_number_keys {left right : Value} {leftCode rightCode : UInt64}
    (leftKeyed : Key.ofValue? left = some (.number leftCode))
    (rightKeyed : Key.ofValue? right = some (.number rightCode)) :
    left.rank right = compare (Key.number leftCode) (Key.number rightCode) := by
  obtain ⟨leftNumber, rfl, _, rfl⟩ := Key.ofValue?_eq_some_number_iff.mp leftKeyed
  obtain ⟨rightNumber, rfl, _, rfl⟩ := Key.ofValue?_eq_some_number_iff.mp rightKeyed
  exact (Key.compare_encode _ _).symm

end Value

/-! ## Records -/

namespace SortKey

theorem directed_swap (direction : SortDirection) (ordering : Ordering) :
    directed direction ordering.swap = (directed direction ordering).swap := by
  cases direction <;> rfl

theorem isLE_trans_of_directed {α : Type} {order : α → α → Ordering} [Std.TransCmp order]
    (direction : SortDirection) {first second third : α}
    (before : (directed direction (order first second)).isLE = true)
    (after : (directed direction (order second third)).isLE = true) :
    (directed direction (order first third)).isLE = true := by
  cases direction with
  | ascending =>
      dsimp only [directed] at before after ⊢
      exact Std.TransCmp.isLE_trans before after
  | descending =>
      dsimp only [directed] at before after ⊢
      rw [← Std.OrientedCmp.eq_swap] at before after ⊢
      exact Std.TransCmp.isLE_trans after before

instance (key : SortKey) : Std.TransCmp key.order where
  eq_swap := by
    intro left right
    unfold order
    cases left.get? key.field with
    | none => cases right.get? key.field <;> rfl
    | some leftValue =>
        cases right.get? key.field with
        | none => rfl
        | some rightValue =>
            dsimp only
            rw [Value.rank_swap, directed_swap]
  isLE_trans := by
    intro first second third
    unfold order
    cases first.get? key.field with
    | none => cases second.get? key.field <;> cases third.get? key.field <;> simp
    | some firstValue =>
        cases second.get? key.field with
        | none => cases third.get? key.field <;> simp
        | some secondValue =>
            cases third.get? key.field with
            | none => simp
            | some thirdValue => exact isLE_trans_of_directed key.direction

end SortKey

namespace Record

/-- Records are in a total preorder by any fields. -/
theorem transCmp_order (keys : List SortKey) : Std.TransCmp (order keys) := by
  induction keys with
  | nil => exact { eq_swap := rfl, isLE_trans := fun _ _ => rfl }
  | cons key rest inductionHypothesis =>
      exact inferInstanceAs (Std.TransCmp (compareLex key.order (order rest)))

instance (keys : List SortKey) : Std.TransCmp (order keys) :=
  transCmp_order keys

/-- Of two records one is not after the other. -/
theorem isLE_order_or_isLE_order (keys : List SortKey) (left right : Record) :
    ((order keys left right).isLE || (order keys right left).isLE) = true := by
  rw [@Std.OrientedCmp.eq_swap _ (order keys) _ right]
  cases order keys left right <;> rfl

/-- What is sorted does not descend. -/
theorem pairwise_sortBy {α : Type} (record : α → Record) (keys : List SortKey) (items : List α) :
    (sortBy record keys items).Pairwise fun first second =>
      (order keys (record first) (record second)).isLE = true := by
  apply List.pairwise_mergeSort
  · intro first second third before after
    exact Std.TransCmp.isLE_trans before after
  · intro first second
    exact isLE_order_or_isLE_order keys (record first) (record second)

end Record

end RecordBase
