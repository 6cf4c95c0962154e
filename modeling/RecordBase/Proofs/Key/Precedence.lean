import RecordBase.Key.Range

/-!
# The order of a walk

A walk meets keys upwards or downwards. It meets entries, pairs of an index key
and a primary key, by their index keys, and by their primary keys where the
index keys are the same. A search through a list in such an order finds the
first of all hits, and the list is known by its members.
-/

namespace RecordBase

namespace Key

theorem lt_iff_compare {left right : Key} : left < right ↔ compare left right = .lt :=
  Iff.rfl

theorem lt_irrefl (key : Key) : ¬ key < key := by
  simp [lt_iff_compare]

theorem lt_trans {first second third : Key} (before : first < second)
    (after : second < third) : first < third := by
  rw [lt_iff_compare] at *
  exact Std.TransCmp.lt_trans before after

theorem lt_asymm {left right : Key} (before : left < right) : ¬ right < left :=
  fun after => lt_irrefl left (lt_trans before after)

theorem le_iff_lt_or_eq {left right : Key} : left ≤ right ↔ left < right ∨ left = right := by
  change (compare left right).isLE = true ↔ _
  rw [Ordering.isLE_iff_eq_lt_or_eq_eq, lt_iff_compare]
  exact or_congr_right Std.LawfulEqOrd.compare_eq_iff_eq

theorem lt_trichotomy (left right : Key) : left < right ∨ left = right ∨ right < left := by
  rcases ordered : compare left right with _ | _ | _
  · exact .inl ordered
  · exact .inr (.inl (Std.LawfulEqOrd.eq_of_compare ordered))
  · exact .inr (.inr (Std.OrientedCmp.gt_iff_lt.mp ordered))

end Key

namespace Direction

/-- The first key is met before the second. -/
def Before : Direction → Key → Key → Prop
  | forward, first, second => first < second
  | reverse, first, second => second < first

instance (direction : Direction) (first second : Key) :
    Decidable (direction.Before first second) :=
  match direction with
  | forward => inferInstanceAs (Decidable (first < second))
  | reverse => inferInstanceAs (Decidable (second < first))

variable {direction : Direction}

theorem before_irrefl (key : Key) : ¬ direction.Before key key := by
  cases direction <;> exact Key.lt_irrefl key

theorem Before.trans {first second third : Key} (before : direction.Before first second)
    (after : direction.Before second third) : direction.Before first third := by
  cases direction with
  | forward => exact Key.lt_trans before after
  | reverse => exact Key.lt_trans after before

/-- Of two different keys one is met before the other. -/
theorem before_trichotomy (direction : Direction) (first second : Key) :
    direction.Before first second ∨ first = second ∨ direction.Before second first := by
  cases direction with
  | forward => exact Key.lt_trichotomy first second
  | reverse => exact (Key.lt_trichotomy second first).imp id (Or.imp_left Eq.symm)

/-- The first entry is met before the second. -/
def Precedes (direction : Direction) (first second : Key × Key) : Prop :=
  direction.Before first.1 second.1 ∨ first.1 = second.1 ∧ direction.Before first.2 second.2

instance (direction : Direction) (first second : Key × Key) :
    Decidable (direction.Precedes first second) :=
  inferInstanceAs (Decidable (_ ∨ _))

theorem precedes_irrefl (entry : Key × Key) : ¬ direction.Precedes entry entry := by
  rintro (before | ⟨_, before⟩)
  · exact before_irrefl _ before
  · exact before_irrefl _ before

theorem Precedes.trans {first second third : Key × Key}
    (before : direction.Precedes first second) (after : direction.Precedes second third) :
    direction.Precedes first third := by
  rcases before with before | ⟨sameBefore, before⟩
  · rcases after with after | ⟨sameAfter, _⟩
    · exact .inl (before.trans after)
    · exact .inl (sameAfter ▸ before)
  · rcases after with after | ⟨sameAfter, after⟩
    · exact .inl (sameBefore ▸ after)
    · exact .inr ⟨sameBefore.trans sameAfter, before.trans after⟩

theorem Precedes.asymm {first second : Key × Key} (before : direction.Precedes first second) :
    ¬ direction.Precedes second first :=
  fun after => precedes_irrefl first (before.trans after)

/-- The members of an ascending list in the order in which they are met. -/
def arrange {α : Type} : Direction → List α → List α
  | forward, items => items
  | reverse, items => items.reverse

@[simp]
theorem mem_arrange {α : Type} {items : List α} {item : α} :
    item ∈ direction.arrange items ↔ item ∈ items := by
  cases direction <;> simp [arrange]

@[simp]
theorem length_arrange {α : Type} (items : List α) :
    (direction.arrange items).length = items.length := by
  cases direction <;> simp [arrange]

theorem arrange_perm {α : Type} (items : List α) :
    (direction.arrange items).Perm items := by
  cases direction with
  | forward => exact .refl items
  | reverse => exact List.reverse_perm items

theorem arrange_map {α β : Type} (transform : α → β) (items : List α) :
    direction.arrange (items.map transform) = (direction.arrange items).map transform := by
  cases direction with
  | forward => rfl
  | reverse => exact List.map_reverse.symm

theorem arrange_filter {α : Type} (test : α → Bool) (items : List α) :
    direction.arrange (items.filter test) = (direction.arrange items).filter test := by
  cases direction with
  | forward => rfl
  | reverse => exact List.filter_reverse.symm

theorem arrange_filterMap {α β : Type} (transform : α → Option β) (items : List α) :
    direction.arrange (items.filterMap transform) =
      (direction.arrange items).filterMap transform := by
  cases direction with
  | forward => rfl
  | reverse => exact List.filterMap_reverse.symm

/-- Entries in ascending order are met in their order. -/
theorem pairwise_arrange {entries : List (Key × Key)}
    (ascending : entries.Pairwise forward.Precedes) :
    (direction.arrange entries).Pairwise direction.Precedes := by
  cases direction with
  | forward => exact ascending
  | reverse =>
      apply List.pairwise_reverse.mpr
      apply ascending.imp
      rintro first second (before | ⟨same, before⟩)
      · exact .inl before
      · exact .inr ⟨same.symm, before⟩

end Direction

/-! ## Lists in a strict order -/

section StrictOrder

variable {α : Type} {order : α → α → Prop}

/-- In a list in a strict order the first hit of a search is met before every
other hit. -/
theorem find?_eq_some_iff_first {items : List α} (sorted : items.Pairwise order)
    (asymmetric : ∀ {first second}, order first second → ¬ order second first)
    {test : α → Bool} {item : α} :
    items.find? test = some item ↔
      item ∈ items ∧ test item = true ∧
        ∀ other ∈ items, test other = true → other = item ∨ order item other := by
  constructor
  · intro found
    obtain ⟨hit, before, after, rfl, missed⟩ := List.find?_eq_some_iff_append.mp found
    refine ⟨List.mem_append_right _ List.mem_cons_self, hit, ?_⟩
    intro other member otherHit
    rcases List.mem_append.mp member with earlier | later
    · have otherMissed := missed other earlier
      rw [otherHit] at otherMissed
      contradiction
    · rcases List.mem_cons.mp later with same | later
      · exact .inl same
      · have rest := (List.pairwise_append.mp sorted).2.1
        exact .inr ((List.pairwise_cons.mp rest).1 other later)
  · rintro ⟨member, hit, first⟩
    cases found : items.find? test with
    | none => exact absurd hit (List.find?_eq_none.mp found item member)
    | some other =>
        obtain ⟨otherHit, before, after, rfl, missed⟩ := List.find?_eq_some_iff_append.mp found
        rcases first other (List.mem_append_right _ List.mem_cons_self) otherHit with same | later
        · rw [same]
        · rcases List.mem_append.mp member with earlier | member
          · have itemMissed := missed item earlier
            rw [hit] at itemMissed
            contradiction
          · rcases List.mem_cons.mp member with same | member
            · rw [same]
            · have rest := (List.pairwise_append.mp sorted).2.1
              exact absurd later (asymmetric ((List.pairwise_cons.mp rest).1 item member))

/-- Two lists in one strict order with the same members are equal. -/
theorem eq_of_pairwise_of_mem_iff {left right : List α} (leftSorted : left.Pairwise order)
    (rightSorted : right.Pairwise order)
    (asymmetric : ∀ {first second}, order first second → ¬ order second first)
    (same : ∀ item, item ∈ left ↔ item ∈ right) : left = right := by
  have distinct : ∀ {first second}, order first second → first ≠ second := by
    rintro first second before rfl
    exact asymmetric before before
  have permutation : left.Perm right :=
    (List.perm_ext_iff_of_nodup (leftSorted.imp distinct) (rightSorted.imp distinct)).mpr
      fun item => same item
  exact permutation.eq_of_pairwise
    (fun _ _ _ _ before after => absurd after (asymmetric before)) leftSorted rightSorted

end StrictOrder

end RecordBase
