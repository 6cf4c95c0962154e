import RecordBase.Proofs.Key.Encoding
import RecordBase.Proofs.SortedMap.Seek
import RecordBase.Query.Predicate

/-!
# Key ranges of predicates

A predicate has a key range unless one of the values that it names is no key. Then
the range is exact: a value satisfies the predicate if it has a key in the range and
is of the kind of the values that the predicate names. The kind has to be asked for,
since keys of other kinds are also beyond a limit on one side, where a value of
another kind is not.
-/

namespace RecordBase

/-! ## Limits -/

/-- A bound from below admits the keys that come after it, and its own key if it is
inclusive. -/
theorem Bound.admitsAbove_at {limit key : Key} {inclusive : Bool} :
    (Bound.at limit inclusive).admitsAbove key = true ↔
      compare key limit = .gt ∨ compare key limit = .eq ∧ inclusive = true := by
  have above : compare key limit = .gt ↔ limit < key := Std.OrientedCmp.gt_iff_lt
  rw [above, Std.LawfulEqOrd.compare_eq_iff_eq, eq_comm (a := key)]
  cases inclusive with
  | true => simp [Bound.at, admitsAbove, Key.le_iff_lt_or_eq]
  | false => simp [Bound.at, admitsAbove]

/-- A bound from above admits the keys that come before it, and its own key if it is
inclusive. -/
theorem Bound.admitsBelow_at {limit key : Key} {inclusive : Bool} :
    (Bound.at limit inclusive).admitsBelow key = true ↔
      compare key limit = .lt ∨ compare key limit = .eq ∧ inclusive = true := by
  have below : compare key limit = .lt ↔ key < limit := Iff.rfl
  rw [below, Std.LawfulEqOrd.compare_eq_iff_eq]
  cases inclusive with
  | true => simp [Bound.at, admitsBelow, Key.le_iff_lt_or_eq]
  | false => simp [Bound.at, admitsBelow]

namespace Limit

variable {limit : Limit} {value : Value} {bound : Bound}

theorem bound?_eq_none_iff : limit.bound? = none ↔ Key.ofValue? limit.value = none :=
  Option.map_eq_none_iff

theorem admitsAbove_eq_true_iff :
    limit.admitsAbove value = true ↔
      ∃ ordering, value.order? limit.value = some ordering ∧
        (ordering = .gt ∨ ordering = .eq ∧ limit.inclusive = true) := by
  rw [admitsAbove]
  cases value.order? limit.value with
  | none => simp
  | some ordering => cases ordering <;> simp

theorem admitsBelow_eq_true_iff :
    limit.admitsBelow value = true ↔
      ∃ ordering, value.order? limit.value = some ordering ∧
        (ordering = .lt ∨ ordering = .eq ∧ limit.inclusive = true) := by
  rw [admitsBelow]
  cases value.order? limit.value with
  | none => simp
  | some ordering => cases ordering <;> simp

/-- A value is beyond a limit from below if it is of the kind of the limit and its key
is beyond the bound. -/
theorem admitsAbove_iff_of_bound? (bounded : limit.bound? = some bound) :
    limit.admitsAbove value = true ↔
      (∃ key, Key.ofValue? value = some key ∧ bound.admitsAbove key = true) ∧
        value.kind = limit.value.kind := by
  obtain ⟨limitKey, found, rfl⟩ := Option.map_eq_some_iff.mp bounded
  rw [admitsAbove_eq_true_iff, Key.exists_order?_iff_of_ofValue? found]
  simp only [Bound.admitsAbove_at]

/-- A value is beyond a limit from above if it is of the kind of the limit and its key
is beyond the bound. -/
theorem admitsBelow_iff_of_bound? (bounded : limit.bound? = some bound) :
    limit.admitsBelow value = true ↔
      (∃ key, Key.ofValue? value = some key ∧ bound.admitsBelow key = true) ∧
        value.kind = limit.value.kind := by
  obtain ⟨limitKey, found, rfl⟩ := Option.map_eq_some_iff.mp bounded
  rw [admitsBelow_eq_true_iff, Key.exists_order?_iff_of_ofValue? found]
  simp only [Bound.admitsBelow_at]

end Limit

namespace Predicate

/-! ## Shapes of predicates -/

/-- The values that a predicate names: the one asked for, or those of its limits. -/
def operands (predicate : Predicate) : List Value :=
  predicate.exactValue?.toList ++
    (predicate.lower?.toList ++ predicate.upper?.toList).map Limit.value

theorem operands_of_exactValue? {predicate : Predicate} {expected : Value}
    (exactly : predicate.exactValue? = some expected) : predicate.operands = [expected] := by
  cases predicate with
  | literal literal => simp_all [operands, exactValue?, lower?, upper?]
  | compare comparison =>
      cases comparison <;> simp_all [operands, exactValue?, lower?, upper?, Comparison.exactValue?,
        Comparison.lower?, Comparison.upper?]

@[simp]
theorem operands_below (limit : Limit) : (compare (.below limit)).operands = [limit.value] :=
  rfl

@[simp]
theorem operands_above (limit : Limit) : (compare (.above limit)).operands = [limit.value] :=
  rfl

@[simp]
theorem operands_between (least greatest : Limit) :
    (compare (.between least greatest)).operands = [least.value, greatest.value] :=
  rfl

theorem accepts_of_exactValue? {predicate : Predicate} {expected value : Value}
    (exactly : predicate.exactValue? = some expected) :
    predicate.accepts value = value.equal expected := by
  cases predicate with
  | literal literal => cases exactly; rfl
  | compare comparison => cases comparison <;> cases exactly; rfl

theorem keyRange?_of_exactValue? {predicate : Predicate} {expected : Value}
    (exactly : predicate.exactValue? = some expected) :
    predicate.keyRange? = (Key.ofValue? expected).map .only := by
  rw [keyRange?, exactly]

theorem keyRange?_below (limit : Limit) :
    (compare (.below limit)).keyRange? = limit.bound?.map (KeyRange.mk .unbounded) := by
  cases bounded : limit.bound? <;>
    simp [keyRange?, exactValue?, lower?, upper?, Comparison.exactValue?, Comparison.lower?,
      Comparison.upper?, Bound.ofLimit?, bounded]

theorem keyRange?_above (limit : Limit) :
    (compare (.above limit)).keyRange? = limit.bound?.map (KeyRange.mk · .unbounded) := by
  cases bounded : limit.bound? <;>
    simp [keyRange?, exactValue?, lower?, upper?, Comparison.exactValue?, Comparison.lower?,
      Comparison.upper?, Bound.ofLimit?, bounded]

theorem keyRange?_between (least greatest : Limit) :
    (compare (.between least greatest)).keyRange? =
      least.bound?.bind fun lower => greatest.bound?.map (KeyRange.mk lower) := by
  cases lower : least.bound? <;> cases upper : greatest.bound? <;>
    simp [keyRange?, exactValue?, lower?, upper?, Comparison.exactValue?, Comparison.lower?,
      Comparison.upper?, Bound.ofLimit?, lower, upper]

/-! ## Exactness -/

/-- A predicate has no key range just if it names a value that is no key. -/
theorem keyRange?_eq_none_iff (predicate : Predicate) :
    predicate.keyRange? = none ↔ ∃ operand ∈ predicate.operands, Key.ofValue? operand = none := by
  cases exactly : predicate.exactValue? with
  | some expected =>
      rw [keyRange?_of_exactValue? exactly, operands_of_exactValue? exactly, Option.map_eq_none_iff]
      simp
  | none =>
      cases predicate with
      | literal expected => contradiction
      | compare comparison =>
          cases comparison with
          | equal expected => contradiction
          | below limit =>
              simp [keyRange?_below, Limit.bound?_eq_none_iff]
          | above limit =>
              simp [keyRange?_above, Limit.bound?_eq_none_iff]
          | between least greatest =>
              rw [keyRange?_between]
              cases lower : least.bound? <;> simp [← Limit.bound?_eq_none_iff, lower]

/-- A value satisfies a predicate with a key range if it has a key in the range and is
of the kind of every value that the predicate names. -/
theorem accepts_iff_of_keyRange? {predicate : Predicate} {range : KeyRange}
    (ranged : predicate.keyRange? = some range) (value : Value) :
    predicate.accepts value = true ↔
      (∃ key, Key.ofValue? value = some key ∧ range.contains key = true) ∧
        ∀ operand ∈ predicate.operands, value.kind = operand.kind := by
  cases exactly : predicate.exactValue? with
  | some expected =>
      rw [keyRange?_of_exactValue? exactly] at ranged
      obtain ⟨expectedKey, found, rfl⟩ := Option.map_eq_some_iff.mp ranged
      rw [accepts_of_exactValue? exactly, operands_of_exactValue? exactly,
        List.forall_mem_singleton]
      simp only [KeyRange.contains_only, exists_eq_right, ← Key.equal_iff_of_ofValue? found]
      exact (and_iff_left_of_imp Value.kind_eq_of_equal).symm
  | none =>
      cases predicate with
      | literal expected => contradiction
      | compare comparison =>
          cases comparison with
          | equal expected => contradiction
          | below limit =>
              rw [keyRange?_below] at ranged
              obtain ⟨upper, bounded, rfl⟩ := Option.map_eq_some_iff.mp ranged
              rw [operands_below, List.forall_mem_singleton]
              exact Limit.admitsBelow_iff_of_bound? bounded
          | above limit =>
              rw [keyRange?_above] at ranged
              obtain ⟨lower, bounded, rfl⟩ := Option.map_eq_some_iff.mp ranged
              rw [operands_above, List.forall_mem_singleton]
              simp only [KeyRange.contains, Bound.admitsBelow, Bool.and_true]
              exact Limit.admitsAbove_iff_of_bound? bounded
          | between least greatest =>
              rw [keyRange?_between] at ranged
              obtain ⟨lower, fromBelow, mapped⟩ := Option.bind_eq_some_iff.mp ranged
              obtain ⟨upper, fromAbove, rfl⟩ := Option.map_eq_some_iff.mp mapped
              rw [operands_between, accepts, Comparison.accepts, Bool.and_eq_true,
                Limit.admitsAbove_iff_of_bound? fromBelow,
                Limit.admitsBelow_iff_of_bound? fromAbove, List.forall_mem_cons,
                List.forall_mem_singleton]
              simp only [KeyRange.contains, Bool.and_eq_true]
              constructor
              · rintro ⟨⟨⟨key, keyed, above⟩, leastKind⟩, ⟨_, sameKeyed, below⟩, greatestKind⟩
                rw [keyed] at sameKeyed
                cases sameKeyed
                exact ⟨⟨key, keyed, above, below⟩, leastKind, greatestKind⟩
              · rintro ⟨⟨key, keyed, above, below⟩, leastKind, greatestKind⟩
                exact ⟨⟨⟨key, keyed, above⟩, leastKind⟩, ⟨key, keyed, below⟩, greatestKind⟩

end Predicate

/-- A record satisfies a clause about one of its fields if the value of the field does. -/
theorem WhereClause.accepts_of_get? {record : Record} {field : String} {value : Value}
    (held : record.get? field = some value) (predicate : Predicate) :
    accepts (.ofList [(field, predicate)]) record = predicate.accepts value := by
  have single : SortedMap.toList (.ofList [(field, predicate)]) = [(field, predicate)] := rfl
  simp only [accepts, single, List.all_cons, List.all_nil, Bool.and_true, fieldMatches, held]

/-- A predicate all of whose values are keys accepts just the values that have a key in its range
and are of the kind of those values. -/
theorem Predicate.keyRange?_exact (predicate : Predicate) :
    (predicate.keyRange? = none ↔
      ∃ operand ∈ predicate.operands, Key.ofValue? operand = none) ∧
    ∀ range, predicate.keyRange? = some range →
      ∀ (record : Record) (field : String) (value : Value), record.get? field = some value →
        (WhereClause.accepts (.ofList [(field, predicate)]) record = true ↔
          (∃ key, Key.ofValue? value = some key ∧ range.contains key = true) ∧
            ∀ operand ∈ predicate.operands, value.kind = operand.kind) := by
  constructor
  · exact predicate.keyRange?_eq_none_iff
  · intro range ranged record field value held
    rw [WhereClause.accepts_of_get? held]
    exact accepts_iff_of_keyRange? ranged value

/-- Lists that begin with one lie between two lists. A list is above every string as a key, but
what is above a string is asked of strings. -/
theorem Predicate.keyRange?_exact_lists :
    let value : Value := .array [.ofInt 1, .string "draft"]
    let record : Record := .ofList [("tags", value)]
    let between : Predicate :=
      .compare (.between ⟨.array [.ofInt 1], true⟩ ⟨.array [.ofInt 2], false⟩)
    let above : Predicate := .compare (.above ⟨.string "m", false⟩)
    WhereClause.accepts (.ofList [("tags", between)]) record = true ∧
      (∃ range key, above.keyRange? = some range ∧ Key.ofValue? value = some key ∧
        range.contains key = true) ∧
      WhereClause.accepts (.ofList [("tags", above)]) record = false := by
  intro value record between above
  have held : record.get? "tags" = some value := SortedMap.get?_insert_self .empty "tags" value
  have tuple : Key.ofValue? value = some (.tuple [.ofInt 1, .string "draft"]) := by
    decide +kernel
  have betweenRange : between.keyRange? = some
      ⟨.included (.tuple [.ofInt 1]), .excluded (.tuple [.ofInt 2])⟩ := by
    decide +kernel
  have aboveRange : above.keyRange? = some ⟨.excluded (.string "m"), .unbounded⟩ := by
    decide +kernel
  refine ⟨?_, ⟨_, _, aboveRange, tuple, by decide +kernel⟩, ?_⟩
  · apply ((keyRange?_exact between).2 _ betweenRange record "tags" value held).mpr
    constructor
    · exact ⟨_, tuple, by decide +kernel⟩
    · decide
  · rw [Bool.eq_false_iff]
    intro accepted
    have ofOneKind := ((keyRange?_exact above).2 _ aboveRange record "tags" value held).mp accepted
    have sameKind := ofOneKind.2 (.string "m") (List.mem_singleton_self _)
    contradiction

end RecordBase
