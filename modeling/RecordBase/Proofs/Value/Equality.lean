import Mathlib.Data.List.Perm.Subperm
import RecordBase.Proofs.Value.Ranking
import RecordBase.SortedMap.Lemmas

/-!
# Equality of values

Equality of values is an equivalence, however deeply they are nested, and keys respect
it: values that are equal have one key or none, and values that have one key are equal.
Where two values have an order, it says that they are the same just if they are equal.

Objects are compared member by member, each in the order of its names. As no name comes
twice, this asks for as many members on both sides and for an equal partner of each. In
the ranking all objects tie; values without objects tie only if they are equal.
-/

namespace RecordBase

/-! ## Names of members -/

namespace SortedMap

variable {α β : Type} [Ord α] [Std.LawfulEqOrd α] [Std.TransOrd α]

/-- A map that binds the keys of another and not more keys binds the same keys. -/
theorem keys_eq_of_subset {left right : SortedMap α β} (subset : left.keys ⊆ right.keys)
    (few : right.size ≤ left.size) : left.keys = right.keys := by
  have ascending (map : SortedMap α β) :
      map.keys.Pairwise fun first second => compare first second = .lt :=
    List.pairwise_map.mpr map.ascending
  have size (map : SortedMap α β) : map.keys.length = map.size := List.length_map ..
  have permutation : left.keys.Perm right.keys := by
    apply (List.subperm_of_subset left.nodup_keys subset).perm_of_length_le
    rw [size, size]
    exact few
  apply permutation.eq_of_pairwise _ (ascending left) (ascending right)
  intro first second _ _ before after
  have swapped : compare first second = (compare second first).swap := Std.OrientedOrd.eq_swap
  rw [after, before] at swapped
  contradiction

end SortedMap

theorem Collation.order_eq_iff {left right : String} :
    order left right = .eq ↔ left = right := by
  constructor
  · exact eq_of_order_eq
  · rintro rfl
    exact Std.ReflCmp.compare_self

theorem Double.order?_swap (x y : Double) : y.order? x = (x.order? y).map Ordering.swap := by
  rw [order?, order?, Bool.or_comm]
  split
  · rfl
  · exact congrArg some Std.OrientedOrd.eq_swap

namespace Number

/-- Numbers are equal as values if their doubles have one place. -/
theorem same_toDouble_iff {left right : Number} :
    left.toDouble.same right.toDouble = true ↔
      left.toDouble.ordinal = right.toDouble.ordinal := by
  simp [Double.same, isNaN_toDouble]

end Number

namespace Value

/-! ## An equivalence -/

mutual

theorem equal_self : ∀ value : Value, value.equal value = true
  | .null => rfl
  | .bool truth => beq_self_eq_true truth
  | .number _ => Number.same_toDouble_iff.mpr rfl
  | .string text => beq_self_eq_true text
  | .array items => equalItems_self items
  | .object members => equalMembers_self members

theorem equalItems_self : ∀ items : List Value, equalItems items items = true
  | [] => rfl
  | item :: rest => by rw [equalItems, equal_self item, equalItems_self rest, Bool.and_self]

theorem equalMembers_self : ∀ members : List (String × Value),
    equalMembers members members = true
  | [] => rfl
  | (name, value) :: rest => by
      rw [equalMembers, equal_self value, equalMembers_self rest, beq_self_eq_true, Bool.and_self,
        Bool.and_self]

end

mutual

theorem equal_symm : ∀ {left right : Value}, left.equal right = true → right.equal left = true
  | .null, right, same => by
      cases right <;> cases kind_eq_of_equal same
      rfl
  | .bool left, right, same => by
      cases right <;> cases kind_eq_of_equal same
      exact BEq.symm same
  | .number left, right, same => by
      cases right <;> cases kind_eq_of_equal same
      exact Number.same_toDouble_iff.mpr (Number.same_toDouble_iff.mp same).symm
  | .string left, right, same => by
      cases right <;> cases kind_eq_of_equal same
      exact BEq.symm same
  | .array lefts, right, same => by
      cases right <;> cases kind_eq_of_equal same
      exact equalItems_symm same
  | .object lefts, right, same => by
      cases right <;> cases kind_eq_of_equal same
      exact equalMembers_symm same

theorem equalItems_symm : ∀ {lefts rights : List Value}, equalItems lefts rights = true →
    equalItems rights lefts = true
  | [], [], _ => rfl
  | left :: lefts, right :: rights, same => by
      rw [equalItems, Bool.and_eq_true] at same ⊢
      exact ⟨equal_symm same.1, equalItems_symm same.2⟩

theorem equalMembers_symm : ∀ {lefts rights : List (String × Value)},
    equalMembers lefts rights = true → equalMembers rights lefts = true
  | [], [], _ => rfl
  | (leftName, left) :: lefts, (rightName, right) :: rights, same => by
      rw [equalMembers, Bool.and_eq_true, Bool.and_eq_true] at same ⊢
      obtain ⟨⟨names, values⟩, rest⟩ := same
      exact ⟨⟨BEq.symm names, equal_symm values⟩, equalMembers_symm rest⟩

end

mutual

theorem equal_trans : ∀ {first second third : Value}, first.equal second = true →
    second.equal third = true → first.equal third = true
  | .null, second, third, before, after => by
      cases second <;> cases kind_eq_of_equal before
      exact after
  | .bool first, second, third, before, after => by
      cases second <;> cases kind_eq_of_equal before
      cases third <;> cases kind_eq_of_equal after
      exact BEq.trans before after
  | .number first, second, third, before, after => by
      cases second <;> cases kind_eq_of_equal before
      cases third <;> cases kind_eq_of_equal after
      exact Number.same_toDouble_iff.mpr
        ((Number.same_toDouble_iff.mp before).trans (Number.same_toDouble_iff.mp after))
  | .string first, second, third, before, after => by
      cases second <;> cases kind_eq_of_equal before
      cases third <;> cases kind_eq_of_equal after
      exact BEq.trans before after
  | .array firsts, second, third, before, after => by
      cases second <;> cases kind_eq_of_equal before
      cases third <;> cases kind_eq_of_equal after
      exact equalItems_trans before after
  | .object firsts, second, third, before, after => by
      cases second <;> cases kind_eq_of_equal before
      cases third <;> cases kind_eq_of_equal after
      exact equalMembers_trans before after

theorem equalItems_trans : ∀ {firsts seconds thirds : List Value},
    equalItems firsts seconds = true → equalItems seconds thirds = true →
      equalItems firsts thirds = true
  | [], [], [], _, _ => rfl
  | first :: firsts, second :: seconds, third :: thirds, before, after => by
      rw [equalItems, Bool.and_eq_true] at before after ⊢
      exact ⟨equal_trans before.1 after.1, equalItems_trans before.2 after.2⟩

theorem equalMembers_trans : ∀ {firsts seconds thirds : List (String × Value)},
    equalMembers firsts seconds = true → equalMembers seconds thirds = true →
      equalMembers firsts thirds = true
  | [], [], [], _, _ => rfl
  | (_, first) :: firsts, (_, second) :: seconds, (_, third) :: thirds, before, after => by
      rw [equalMembers, Bool.and_eq_true, Bool.and_eq_true] at before after ⊢
      obtain ⟨⟨names, values⟩, rest⟩ := before
      obtain ⟨⟨nextNames, nextValues⟩, nextRest⟩ := after
      exact ⟨⟨BEq.trans names nextNames, equal_trans values nextValues⟩,
        equalMembers_trans rest nextRest⟩

end

theorem equivalence_equal : Equivalence fun left right : Value => left.equal right = true :=
  ⟨equal_self, equal_symm, equal_trans⟩

/-! ## Objects -/

/-- Two lists of members are equal if they have the same names and the second has an
equal value for every member of the first. -/
theorem equalMembers_iff_lookupEntry {lefts rights : List (String × Value)}
    (leftAscending : SortedMap.Ascending lefts) (rightAscending : SortedMap.Ascending rights) :
    equalMembers lefts rights = true ↔
      lefts.map Prod.fst = rights.map Prod.fst ∧
        ∀ member ∈ lefts, ∃ other, SortedMap.lookupEntry member.1 rights = some other ∧
          member.2.equal other = true := by
  induction lefts generalizing rights with
  | nil => cases rights <;> simp [equalMembers]
  | cons left lefts inductionHypothesis =>
      cases rights with
      | nil => simp [equalMembers]
      | cons right rights =>
          obtain ⟨leftName, left⟩ := left
          obtain ⟨rightName, right⟩ := right
          have later := (List.pairwise_cons.mp leftAscending).1
          rw [equalMembers, Bool.and_eq_true, Bool.and_eq_true, beq_iff_eq,
            inductionHypothesis leftAscending.of_cons rightAscending.of_cons, List.map_cons,
            List.map_cons, List.cons.injEq, List.forall_mem_cons]
          have passes (same : leftName = rightName) {member : String × Value}
              (kept : member ∈ lefts) :
              SortedMap.lookupEntry member.1 ((rightName, right) :: rights) =
                SortedMap.lookupEntry member.1 rights := by
            rw [SortedMap.lookupEntry_cons, ← same, later member kept, if_neg (by decide)]
          have meets (same : leftName = rightName) :
              SortedMap.lookupEntry leftName ((rightName, right) :: rights) = some right := by
            rw [SortedMap.lookupEntry_cons, ← same, if_pos Std.ReflOrd.compare_self]
          constructor
          · rintro ⟨⟨same, values⟩, names, partners⟩
            refine ⟨⟨same, names⟩, ⟨right, meets same, values⟩, ?_⟩
            intro member kept
            rw [passes same kept]
            exact partners member kept
          · rintro ⟨⟨same, names⟩, ⟨other, found, values⟩, partners⟩
            rw [meets same] at found
            cases found
            refine ⟨⟨same, values⟩, names, ?_⟩
            intro member kept
            rw [← passes same kept]
            exact partners member kept

/-- Two objects are equal if they have as many members and each member of the one has
an equal one of its name in the other. -/
theorem equal_ofRecord_iff {left right : Record} :
    (ofRecord left).equal (ofRecord right) = true ↔
      left.size = right.size ∧ ∀ name value, left.get? name = some value →
        ∃ other, right.get? name = some other ∧ value.equal other = true := by
  have members := equalMembers_iff_lookupEntry left.ascending right.ascending
  rw [ofRecord, ofRecord, equal, SortedMap.toList, SortedMap.toList, members]
  constructor
  · rintro ⟨names, partners⟩
    have sizes := congrArg List.length names
    rw [List.length_map, List.length_map] at sizes
    refine ⟨sizes, ?_⟩
    intro name value held
    exact partners (name, value) (SortedMap.get?_eq_some_iff.mp held)
  · rintro ⟨sizes, partners⟩
    constructor
    · apply SortedMap.keys_eq_of_subset _ (Nat.le_of_eq sizes.symm)
      intro name member
      obtain ⟨value, held⟩ := SortedMap.mem_keys_iff.mp member
      obtain ⟨other, found, _⟩ := partners name value held
      exact SortedMap.mem_keys_iff.mpr ⟨other, found⟩
    · rintro ⟨name, value⟩ member
      exact partners name value (SortedMap.get?_eq_some_iff.mpr member)

/-! ## Ties -/

mutual

/-- No object stands in the value, at any depth. -/
def isObjectFree : Value → Bool
  | .array items => areObjectFree items
  | .object _ => false
  | _ => true
termination_by structural value => value

/-- No object stands in any of the items. -/
def areObjectFree : List Value → Bool
  | [] => true
  | item :: rest => item.isObjectFree && areObjectFree rest
termination_by structural items => items

end

/-- Values of different kinds neither tie nor are equal. -/
theorem rank_eq_iff_equal_of_kind {left right : Value}
    (ofOneKind : left.kind = right.kind → (left.rank right = .eq ↔ left.equal right = true)) :
    left.rank right = .eq ↔ left.equal right = true := by
  by_cases same : left.kind = right.kind
  · exact ofOneKind same
  · exact iff_of_false (fun tie => same (kind_eq_of_rank_eq tie))
      (fun equal => same (kind_eq_of_equal equal))

mutual

/-- A value without objects ties with the values that it equals. -/
theorem rank_eq_iff_equal : ∀ {left right : Value}, left.isObjectFree = true →
    (left.rank right = .eq ↔ left.equal right = true)
  | .null, right, _ => rank_eq_iff_equal_of_kind fun same => by
      cases right <;> cases same
      exact iff_of_true rfl rfl
  | .bool left, right, _ => rank_eq_iff_equal_of_kind fun same => by
      cases right <;> cases same
      exact Std.LawfulEqOrd.compare_eq_iff_eq.trans beq_iff_eq.symm
  | .number left, right, _ => rank_eq_iff_equal_of_kind fun same => by
      cases right <;> cases same
      exact Std.LawfulEqOrd.compare_eq_iff_eq.trans Number.same_toDouble_iff.symm
  | .string left, right, _ => rank_eq_iff_equal_of_kind fun same => by
      cases right <;> cases same
      exact Collation.order_eq_iff.trans beq_iff_eq.symm
  | .array lefts, right, free => rank_eq_iff_equal_of_kind fun same => by
      cases right <;> cases same
      exact rankItems_eq_iff_equalItems free

theorem rankItems_eq_iff_equalItems : ∀ {lefts rights : List Value},
    areObjectFree lefts = true → (rankItems lefts rights = .eq ↔ equalItems lefts rights = true)
  | [], [], _ => iff_of_true rfl rfl
  | [], _ :: _, _ => iff_of_false nofun nofun
  | _ :: _, [], _ => iff_of_false nofun nofun
  | left :: lefts, right :: rights, free => by
      rw [areObjectFree, Bool.and_eq_true] at free
      rw [rankItems, equalItems, Ordering.then_eq_eq, Bool.and_eq_true, rank_eq_iff_equal free.1,
        rankItems_eq_iff_equalItems free.2]

end

/-! ## Order -/

/-- The order of two values is turned round with them, also where they have none. -/
theorem order?_swap (left right : Value) :
    right.order? left = (left.order? right).map Ordering.swap := by
  cases left <;> cases right <;> try rfl
  case number left right => exact Double.order?_swap _ _
  case string left right => exact congrArg some Std.OrientedOrd.eq_swap
  case bool left right => exact congrArg some Std.OrientedOrd.eq_swap
  case array lefts rights =>
    rw [order?, order?]
    cases Key.ofValues? lefts <;> cases Key.ofValues? rights <;> try rfl
    exact congrArg some (Key.orderParts_swap _ _)

/-- Two values that have an order are the same in it if they are equal. -/
theorem order?_eq_iff_equal {left right : Value} {ordering : Ordering}
    (ordered : left.order? right = some ordering) :
    ordering = .eq ↔ left.equal right = true := by
  cases left <;> cases right <;> try contradiction
  case number left right =>
    obtain ⟨_, _, rfl⟩ := Double.order?_eq_some_iff.mp ordered
    rw [Std.LawfulEqOrd.compare_eq_iff_eq]
    exact Number.same_toDouble_iff.symm
  case string left right =>
    cases ordered
    rw [Std.LawfulEqOrd.compare_eq_iff_eq]
    exact beq_iff_eq.symm
  case bool left right =>
    cases ordered
    rw [Std.LawfulEqOrd.compare_eq_iff_eq]
    exact beq_iff_eq.symm
  case array lefts rights =>
    rw [order?] at ordered
    cases leftKeys : Key.ofValues? lefts <;> cases rightKeys : Key.ofValues? rights <;>
      simp only [leftKeys, rightKeys, reduceCtorEq] at ordered
    cases ordered
    rw [Key.orderParts_eq_iff]
    constructor
    · rintro rfl
      exact Key.equalItems_of_ofValues? _ leftKeys rightKeys
    · intro same
      have keys := Key.ofValues?_eq_of_equalItems lefts rights same
      rw [leftKeys, rightKeys] at keys
      exact Option.some.inj keys

/-- Equality of values is an equivalence, equal values are those of one key, and the order of two
values ties just where they are equal. -/
theorem equality_respected_by_keys :
    (Equivalence fun left right : Value => left.equal right = true) ∧
    (∀ left right : Record, (ofRecord left).equal (ofRecord right) = true ↔
      left.size = right.size ∧ ∀ name value, left.get? name = some value →
        ∃ other, right.get? name = some other ∧ value.equal other = true) ∧
    ∀ left right : Value,
      (left.equal right = true → Key.ofValue? left = Key.ofValue? right) ∧
      (∀ key, Key.ofValue? left = some key → Key.ofValue? right = some key →
        left.equal right = true) ∧
      right.order? left = (left.order? right).map Ordering.swap ∧
      ∀ ordering, left.order? right = some ordering →
        (ordering = .eq ↔ left.equal right = true) := by
  refine ⟨equivalence_equal, fun left right => equal_ofRecord_iff, fun left right => ?_⟩
  exact ⟨Key.ofValue?_eq_of_equal left right, fun key => Key.equal_of_ofValue? key,
    order?_swap left right, fun ordering => order?_eq_iff_equal⟩

/-- Nested lists with the numbers `7` and `7.0` have one key, so they are equal and the
same in order, and so are objects that hold them. -/
theorem equality_respected_by_keys_nested :
    let whole : Value := .array [.string "a", .array [.ofInt 7]]
    let real : Value := .array [.string "a", .array [.ofDouble (.ofInt 7)]]
    whole.equal real = true ∧ Key.ofValue? whole = Key.ofValue? real ∧
      real.order? whole = some .eq ∧
      (ofRecord (.ofList [("a", .null), ("b", whole)])).equal
        (ofRecord (.ofList [("a", .null), ("b", real)])) = true := by
  intro whole real
  obtain ⟨equivalence, objects, keys⟩ := equality_respected_by_keys
  have wholeKey : Key.ofValue? whole = some (.tuple [.string "a", .tuple [.ofInt 7]]) := by
    decide +kernel
  have realKey : Key.ofValue? real = some (.tuple [.string "a", .tuple [.ofInt 7]]) := by
    decide +kernel
  have ordered : whole.order? real = some .eq := by decide +kernel
  have same : whole.equal real = true := (keys whole real).2.1 _ wholeKey realKey
  have turned : real.order? whole = (whole.order? real).map Ordering.swap :=
    (keys whole real).2.2.1
  have names (value : Value) : SortedMap.Ascending [("a", .null), ("b", value)] := by
    simp only [SortedMap.Ascending, List.pairwise_pair]
    decide +kernel
  refine ⟨same, (keys whole real).1 same, turned.trans (by rw [ordered]; rfl), ?_⟩
  apply (objects _ _).mpr
  refine ⟨by decide +kernel, ?_⟩
  intro name value held
  rw [SortedMap.get?_eq_some_iff, SortedMap.toList_ofList (names whole), List.mem_pair] at held
  rcases held with member | member
  · cases member
    exact ⟨.null, SortedMap.get?_eq_some_iff.mpr (by simp [SortedMap.toList_ofList (names real)]),
      equivalence.refl _⟩
  · cases member
    exact ⟨real, SortedMap.get?_eq_some_iff.mpr (by simp [SortedMap.toList_ofList (names real)]),
      same⟩

end Value

end RecordBase
