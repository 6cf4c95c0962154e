/-!
# Keys

Records are found by keys: numbers, strings and lists of keys. Keys of
different kinds never tie: every number is below every string, and every
string below every list. Lists compare item by item, a shorter list before
the lists that it begins. The order is total and its ties are equalities, so
keys can bind the entries of a sorted map.
-/

namespace RecordBase

/-- What records are found by. -/
inductive Key where
  /-- A number, by its order-preserving code. -/
  | number (code : UInt64)
  | string (text : String)
  | tuple (parts : List Key)

namespace Key

/-! ## Order -/

mutual

/-- Compares two keys: by kind, then by content. -/
def order : Key → Key → Ordering
  | number left, number right => compare left right
  | number _, _ => .lt
  | string _, number _ => .gt
  | string left, string right => compare left right
  | string _, tuple _ => .lt
  | tuple left, tuple right => orderParts left right
  | tuple _, _ => .gt
termination_by structural left => left

/-- Compares two lists of keys by their first difference, then by length. -/
def orderParts : List Key → List Key → Ordering
  | [], [] => .eq
  | [], _ :: _ => .lt
  | _ :: _, [] => .gt
  | left :: lefts, right :: rights => (left.order right).then (orderParts lefts rights)
termination_by structural left => left

end

instance : Ord Key :=
  ⟨order⟩

theorem compare_def (left right : Key) : compare left right = left.order right :=
  rfl

mutual

theorem order_swap : ∀ left right : Key, left.order right = (right.order left).swap
  | number left, number right => by simpa [order] using Std.OrientedOrd.eq_swap
  | number _, string _ => rfl
  | number _, tuple _ => rfl
  | string _, number _ => rfl
  | string left, string right => by simpa [order] using Std.OrientedOrd.eq_swap
  | string _, tuple _ => rfl
  | tuple _, number _ => rfl
  | tuple _, string _ => rfl
  | tuple left, tuple right => by simpa [order] using orderParts_swap left right

theorem orderParts_swap : ∀ left right : List Key,
    orderParts left right = (orderParts right left).swap
  | [], [] => rfl
  | [], _ :: _ => rfl
  | _ :: _, [] => rfl
  | left :: lefts, right :: rights => by
      simp [orderParts, order_swap left right, orderParts_swap lefts rights,
        Ordering.swap_then]

end

mutual

theorem order_eq_iff : ∀ left right : Key, left.order right = .eq ↔ left = right
  | number left, number right => by simp [order]
  | number _, string _ => by simp [order]
  | number _, tuple _ => by simp [order]
  | string _, number _ => by simp [order]
  | string left, string right => by simp [order]
  | string _, tuple _ => by simp [order]
  | tuple _, number _ => by simp [order]
  | tuple _, string _ => by simp [order]
  | tuple left, tuple right => by simp [order, orderParts_eq_iff left right]

theorem orderParts_eq_iff : ∀ left right : List Key,
    orderParts left right = .eq ↔ left = right
  | [], [] => by simp [orderParts]
  | [], _ :: _ => by simp [orderParts]
  | _ :: _, [] => by simp [orderParts]
  | left :: lefts, right :: rights => by
      simp [orderParts, Ordering.then_eq_eq, order_eq_iff left right,
        orderParts_eq_iff lefts rights]

end

mutual

theorem order_lt_trans : ∀ first second third : Key,
    first.order second = .lt → second.order third = .lt → first.order third = .lt
  | number _, second, third => by
      cases second <;> cases third <;> simp [order]
      exact Std.TransCmp.lt_trans
  | string _, second, third => by
      cases second <;> cases third <;> simp [order]
      exact Std.TransCmp.lt_trans
  | tuple firsts, second, third => by
      cases second <;> cases third <;> simp [order]
      exact orderParts_lt_trans firsts _ _

theorem orderParts_lt_trans : ∀ first second third : List Key,
    orderParts first second = .lt → orderParts second third = .lt →
      orderParts first third = .lt
  | [], [], _ => by simp [orderParts]
  | [], _ :: _, [] => by simp [orderParts]
  | [], _ :: _, _ :: _ => by simp [orderParts]
  | _ :: _, [], _ => by simp [orderParts]
  | _ :: _, _ :: _, [] => by simp [orderParts]
  | first :: firsts, second :: seconds, third :: thirds => by
      simp only [orderParts, Ordering.then_eq_lt]
      intro before after
      rcases before with before | ⟨sameBefore, before⟩
      · rcases after with after | ⟨sameAfter, _⟩
        · exact .inl (order_lt_trans first second third before after)
        · rw [order_eq_iff] at sameAfter
          exact .inl (sameAfter ▸ before)
      · rw [order_eq_iff] at sameBefore
        subst sameBefore
        rcases after with after | ⟨sameAfter, after⟩
        · exact .inl after
        · exact .inr ⟨sameAfter, orderParts_lt_trans firsts seconds thirds before after⟩

end

instance : Std.LawfulEqOrd Key where
  compare_self := (order_eq_iff _ _).mpr rfl
  eq_of_compare := (order_eq_iff _ _).mp

instance : Std.TransOrd Key where
  eq_swap := order_swap _ _
  isLE_trans := by
    intro first second third before after
    rw [compare_def, Ordering.isLE_iff_eq_lt_or_eq_eq] at *
    rcases before with before | before
    · rcases after with after | after
      · exact .inl (order_lt_trans first second third before after)
      · rw [order_eq_iff] at after
        exact .inl (after ▸ before)
    · rw [order_eq_iff] at before
      exact before ▸ after

instance : DecidableEq Key := fun left right =>
  decidable_of_iff (left.order right = .eq) (order_eq_iff left right)

/-- Strictly before in the order of keys. -/
instance : LT Key :=
  ⟨fun left right => compare left right = .lt⟩

/-- Not after in the order of keys. -/
instance : LE Key :=
  ⟨fun left right => (compare left right).isLE⟩

instance : DecidableLT Key := fun left right =>
  inferInstanceAs (Decidable (compare left right = .lt))

instance : DecidableLE Key := fun left right =>
  inferInstanceAs (Decidable ((compare left right).isLE = true))

end Key

end RecordBase
