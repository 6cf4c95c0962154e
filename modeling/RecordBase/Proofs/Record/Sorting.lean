import RecordBase.Proofs.Value.Equality

/-!
# Sorting records

Any fields put records into a total preorder, and sorting by them is stable. So there is
one list that a sort can give: it holds the items that were there, does not descend, and
has the items that tie in the order in which they stood.
-/

namespace RecordBase

/-! ## Items that tie -/

section Ties

variable {α : Type} {order : α → α → Ordering} {item first second : α} {items others : List α}

/-- The items that tie with one, in their order. -/
def tiesWith (order : α → α → Ordering) (item : α) (items : List α) : List α :=
  items.filter fun other => order item other = .eq

theorem tiesWith_cons_of_eq (tie : order item first = .eq) :
    tiesWith order item (first :: items) = first :: tiesWith order item items :=
  List.filter_cons_of_pos (by simpa using tie)

theorem tiesWith_cons_of_ne (apart : order item first ≠ .eq) :
    tiesWith order item (first :: items) = tiesWith order item items :=
  List.filter_cons_of_neg (by simpa using apart)

theorem mem_tiesWith_iff {other : α} :
    other ∈ tiesWith order item items ↔ other ∈ items ∧ order item other = .eq := by
  simp [tiesWith]

theorem tiesWith_tiesWith : tiesWith order item (tiesWith order item items) =
    tiesWith order item items := by
  simp [tiesWith, List.filter_filter]

/-- The first of some items that do not descend is before any of them. -/
theorem isLE_of_pairwise_cons [Std.TransCmp order]
    (sorted : (first :: items).Pairwise fun left right => (order left right).isLE = true)
    (member : second ∈ first :: items) : (order first second).isLE = true := by
  rcases List.mem_cons.mp member with rfl | later
  · exact Ordering.isLE_of_eq_eq Std.ReflCmp.compare_self
  · exact (List.pairwise_cons.mp sorted).1 second later

theorem mem_of_tiesWith_eq [Std.TransCmp order]
    (ties : ∀ item, tiesWith order item items = tiesWith order item others)
    (member : item ∈ items) : item ∈ others := by
  have own : item ∈ tiesWith order item items :=
    mem_tiesWith_iff.mpr ⟨member, Std.ReflCmp.compare_self⟩
  rw [ties] at own
  exact (mem_tiesWith_iff.mp own).1

/-- Items that do not descend are known by the order in which those stand that tie. -/
theorem eq_of_tiesWith_eq [Std.TransCmp order]
    (sorted : items.Pairwise fun left right => (order left right).isLE = true)
    (otherSorted : others.Pairwise fun left right => (order left right).isLE = true)
    (ties : ∀ item, tiesWith order item items = tiesWith order item others) : items = others := by
  induction items generalizing others with
  | nil =>
      cases others with
      | nil => rfl
      | cons second others =>
          exact absurd (mem_of_tiesWith_eq (fun item => (ties item).symm) List.mem_cons_self)
            List.not_mem_nil
  | cons first items inductionHypothesis =>
      cases others with
      | nil => exact absurd (mem_of_tiesWith_eq ties List.mem_cons_self) List.not_mem_nil
      | cons second others =>
          have tie : order first second = .eq :=
            Std.OrientedCmp.isLE_antisymm
              (isLE_of_pairwise_cons sorted
                (mem_of_tiesWith_eq (fun item => (ties item).symm) List.mem_cons_self))
              (isLE_of_pairwise_cons otherSorted (mem_of_tiesWith_eq ties List.mem_cons_self))
          have fronts := ties first
          rw [tiesWith_cons_of_eq Std.ReflCmp.compare_self, tiesWith_cons_of_eq tie,
            List.cons.injEq] at fronts
          obtain rfl : first = second := fronts.1
          refine congrArg (first :: ·) (inductionHypothesis sorted.of_cons otherSorted.of_cons ?_)
          intro item
          have whole := ties item
          by_cases held : order item first = .eq
          · rw [tiesWith_cons_of_eq held, tiesWith_cons_of_eq held] at whole
            exact (List.cons.inj whole).2
          · rwa [tiesWith_cons_of_ne held, tiesWith_cons_of_ne held] at whole

/-- What compares items by something that they carry is a preorder with what compares
that. -/
theorem transCmp_carried {β : Type} (carried : β → α) [Std.TransCmp order] :
    Std.TransCmp fun left right => order (carried left) (carried right) where
  eq_swap := Std.OrientedCmp.eq_swap
  isLE_trans := Std.TransCmp.isLE_trans

end Ties

/-! ## One field -/

namespace SortKey

variable {key : SortKey} {left right : Record}

theorem directed_eq_eq_iff {direction : SortDirection} {ordering : Ordering} :
    directed direction ordering = .eq ↔ ordering = .eq := by
  cases direction with
  | ascending => rfl
  | descending => exact Ordering.swap_eq_eq

/-- A record with the field is before one without it, in either direction. -/
theorem order_of_missing {value : Value} (held : left.get? key.field = some value)
    (missing : right.get? key.field = none) : key.order left right = .lt := by
  simp only [order, held, missing]

/-- Records whose values of the field hold no object tie just if these are equal. -/
theorem order_eq_iff_equal {leftValue rightValue : Value}
    (leftHeld : left.get? key.field = some leftValue)
    (rightHeld : right.get? key.field = some rightValue)
    (free : leftValue.isObjectFree = true) :
    key.order left right = .eq ↔ leftValue.equal rightValue = true := by
  simp only [order, leftHeld, rightHeld]
  exact directed_eq_eq_iff.trans (Value.rank_eq_iff_equal free)

end SortKey

theorem Record.order_singleton (key : SortKey) (left right : Record) :
    Record.order [key] left right = key.order left right :=
  Ordering.then_eq

/-! ## Sorting -/

namespace Record

variable {α : Type} (record : α → Record) (keys : List SortKey)

/-- The order of two items is that of their records. -/
def orderCarried (left right : α) : Ordering :=
  order keys (record left) (record right)

instance : Std.TransCmp (orderCarried record keys) :=
  transCmp_carried record

/-- Sorting leaves items that tie as they stood. -/
theorem tiesWith_sortBy (items : List α) (item : α) :
    tiesWith (orderCarried record keys) item (sortBy record keys items) =
      tiesWith (orderCarried record keys) item items := by
  let tied := tiesWith (orderCarried record keys) item items
  have level : tied.Pairwise fun first second =>
      (order keys (record first) (record second)).isLE = true := by
    apply List.pairwise_of_forall_mem_list
    intro first firstMember second secondMember
    have firstTie := (mem_tiesWith_iff.mp firstMember).2
    have secondTie := (mem_tiesWith_iff.mp secondMember).2
    exact Ordering.isLE_of_eq_eq
      (Std.TransCmp.eq_trans (Std.OrientedCmp.eq_symm firstTie) secondTie)
  have kept : tied.Sublist (sortBy record keys items) := by
    apply List.sublist_mergeSort _ _ level List.filter_sublist
    · intro first second third before after
      exact Std.TransCmp.isLE_trans before after
    · intro first second
      exact isLE_order_or_isLE_order keys (record first) (record second)
  have among : (tiesWith (orderCarried record keys) item tied).Sublist
      (tiesWith (orderCarried record keys) item (sortBy record keys items)) := kept.filter _
  rw [tiesWith_tiesWith] at among
  have permutation : (sortBy record keys items).Perm items := List.mergeSort_perm items _
  exact (among.eq_of_length (permutation.filter _).length_eq.symm).symm

/-- A sort gives the one list of the items that does not descend and leaves items that
tie as they stood. -/
theorem eq_sortBy_iff {items sorted : List α} :
    sorted = sortBy record keys items ↔
      sorted.Perm items ∧
        sorted.Pairwise (fun first second =>
          (order keys (record first) (record second)).isLE = true) ∧
        ∀ item, tiesWith (orderCarried record keys) item sorted =
          tiesWith (orderCarried record keys) item items := by
  constructor
  · rintro rfl
    exact ⟨List.mergeSort_perm items _, pairwise_sortBy record keys items,
      tiesWith_sortBy record keys items⟩
  · rintro ⟨_, ascending, ties⟩
    have sameTies (item : α) : tiesWith (orderCarried record keys) item sorted =
        tiesWith (orderCarried record keys) item (sortBy record keys items) := by
      rw [ties, tiesWith_sortBy]
    exact @eq_of_tiesWith_eq α (orderCarried record keys) _ _ _ ascending
      (pairwise_sortBy record keys items) sameTies

/-- The order of records by any fields is a total preorder, and sorting by it gives the one list
that ascends and keeps ties as they stood. -/
theorem total_preorder_sorts_stably (keys : List SortKey) :
    (∀ record, order keys record record = .eq) ∧
    (∀ left right, order keys right left = (order keys left right).swap) ∧
    (∀ first second third,
      (order keys first second = .lt → order keys second third = .lt →
        order keys first third = .lt) ∧
      (order keys first second = .eq → order keys second third = .eq →
        order keys first third = .eq) ∧
      ((order keys first second).isLE = true → (order keys second third).isLE = true →
        (order keys first third).isLE = true)) ∧
    (∀ {α : Type} (record : α → Record) (items sorted : List α),
      sorted = sortBy record keys items ↔
        sorted.Perm items ∧
          sorted.Pairwise (fun first second =>
            (order keys (record first) (record second)).isLE = true) ∧
          ∀ item, tiesWith (orderCarried record keys) item sorted =
            tiesWith (orderCarried record keys) item items) ∧
    ∀ (key : SortKey) (left right : Record) (leftValue : Value),
      left.get? key.field = some leftValue →
        (right.get? key.field = none → order [key] left right = .lt) ∧
        ∀ rightValue, right.get? key.field = some rightValue →
          leftValue.isObjectFree = true → rightValue.isObjectFree = true →
            (order [key] left right = .eq ↔ leftValue.equal rightValue = true) := by
  refine ⟨fun record => Std.ReflCmp.compare_self, fun left right => Std.OrientedCmp.eq_swap,
    fun first second third => ⟨Std.TransCmp.lt_trans, Std.TransCmp.eq_trans,
      Std.TransCmp.isLE_trans⟩, fun record items sorted => eq_sortBy_iff record keys, ?_⟩
  intro key left right leftValue leftHeld
  rw [order_singleton]
  constructor
  · exact SortKey.order_of_missing leftHeld
  · intro rightValue rightHeld free _
    exact SortKey.order_eq_iff_equal leftHeld rightHeld free

/-- Downwards, texts come before numbers, `2` and `2.0` tie and stay as they stood, and
a record without the field is the last. -/
theorem total_preorder_sorts_stably_mixed :
    let record : Fin 4 → Record := fun item =>
      match item with
      | 0 => .ofList [("v", .ofInt 2)]
      | 1 => .empty
      | 2 => .ofList [("v", .string "2")]
      | 3 => .ofList [("v", .ofDouble (.ofInt 2))]
    let keys : List SortKey := [⟨"v", .descending⟩]
    sortBy record keys [0, 1, 2, 3] = [2, 0, 3, 1] ∧ order keys (record 0) (record 1) = .lt ∧
      order keys (record 0) (record 3) = .eq ∧
      (Value.ofInt 2).equal (.ofDouble (.ofInt 2)) = true := by
  intro record keys
  obtain ⟨_, _, _, sorts, single⟩ := total_preorder_sorts_stably keys
  have whole : (record 0).get? "v" = some (.ofInt 2) := SortedMap.get?_insert_self .empty _ _
  have real : (record 3).get? "v" = some (.ofDouble (.ofInt 2)) :=
    SortedMap.get?_insert_self .empty _ _
  have tie : order keys (record 0) (record 3) = .eq := by decide +kernel
  refine ⟨((sorts record _ _).mpr ?_).symm, ?_, tie, ?_⟩
  · decide +kernel
  · exact (single ⟨"v", .descending⟩ (record 0) (record 1) _ whole).1 rfl
  · exact ((single ⟨"v", .descending⟩ (record 0) (record 3) _ whole).2 _ real rfl rfl).mp tie

end Record

end RecordBase
