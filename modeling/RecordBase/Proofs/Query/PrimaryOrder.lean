import RecordBase.Proofs.Query.Result
import RecordBase.Proofs.Value.Ranking

/-!
# Walks in the order asked for

A request sorted by the primary key is answered by a walk along the primary keys,
and its result is not sorted. Keys have an order of their own, which for texts is
that of code points and not the collation by which results are sorted. So the
walk gives the sorted result if, and only if, the keys of the records found stand
as the ranking has them. Keys that are numbers do.
-/

namespace RecordBase

namespace SortKey

variable {key : SortKey} {left right : Record} {leftKey rightKey : Key}

/-- Two records that hold keys in a field are sorted by the ranking of the two
values, seen from the direction of the sort. -/
theorem order_eq_directed (leftOwn : Key.ofField? left key.field = some leftKey)
    (rightOwn : Key.ofField? right key.field = some rightKey) :
    key.order left right = directed key.direction (order { field := key.field } left right) := by
  obtain ⟨leftValue, leftHeld, _⟩ := Option.bind_eq_some_iff.mp leftOwn
  obtain ⟨rightValue, rightHeld, _⟩ := Option.bind_eq_some_iff.mp rightOwn
  simp only [order, leftHeld, rightHeld]
  rfl

/-- Two records that tie in a field hold one key in it. -/
theorem ofField?_eq_of_order_eq (leftOwn : Key.ofField? left key.field = some leftKey)
    (rightOwn : Key.ofField? right key.field = some rightKey)
    (tie : key.order left right = .eq) : leftKey = rightKey := by
  obtain ⟨leftValue, leftHeld, leftKeyed⟩ := Option.bind_eq_some_iff.mp leftOwn
  obtain ⟨rightValue, rightHeld, rightKeyed⟩ := Option.bind_eq_some_iff.mp rightOwn
  have ranked : leftValue.rank rightValue = .eq := by
    simp only [order, leftHeld, rightHeld] at tie
    cases direction : key.direction with
    | ascending =>
        rw [direction] at tie
        exact tie
    | descending =>
        rw [direction] at tie
        exact Ordering.swap_eq_eq.mp tie
  have keys := Value.ofValue?_eq_of_rank_eq leftValue rightValue ranked
  rw [leftKeyed, rightKeyed] at keys
  exact Option.some.inj keys

end SortKey

/-! ## Sorting what ascends -/

section Sorting

variable {store : Store} {rows : List (Key × Record)} {key : SortKey}

/-- Some records of a store, in the order of their keys. -/
structure Store.Ascending (store : Store) (rows : List (Key × Record)) : Prop where
  stored : ∀ row ∈ rows, store.get? row.1 = some row.2
  before : rows.Pairwise fun first second => first.1 < second.1

/-- The order of two records by the primary field is the order of their keys. -/
def Store.RankedByKey (store : Store) (first second : Key × Record) : Prop :=
  SortKey.order { field := store.primaryKey.field } first.2 second.2 =
    compare first.1 second.1

instance (first second : Key × Record) : Decidable (store.RankedByKey first second) :=
  inferInstanceAs (Decidable (_ = _))

theorem Store.RankedByKey.symm {first second : Key × Record}
    (ranked : store.RankedByKey first second) : store.RankedByKey second first := by
  have swapped := congrArg Ordering.swap ranked
  rw [← Std.OrientedCmp.eq_swap, ← Std.OrientedCmp.eq_swap] at swapped
  exact swapped

theorem Store.Ascending.eq_of_keys_eq (ascending : store.Ascending rows)
    {first second : Key × Record} (firstMember : first ∈ rows) (secondMember : second ∈ rows)
    (same : first.1 = second.1) : first = second := by
  have firstStored := ascending.stored first firstMember
  rw [same, ascending.stored second secondMember] at firstStored
  exact Prod.ext same (Option.some.inj firstStored).symm

theorem Store.Ascending.ownKey (ascending : store.Ascending rows) (consistent : store.Consistent)
    (primary : key.field = store.primaryKey.field) {row : Key × Record} (member : row ∈ rows) :
    Key.ofField? row.2 key.field = some row.1 :=
  primary ▸ consistent.ownKey (ascending.stored row member)

/-- The walk in the direction of a sort does not descend in the sort if, and only
if, the records in the order of their keys do not descend in the ranking. -/
theorem Store.Ascending.pairwise_arrange_iff (ascending : store.Ascending rows)
    (consistent : store.Consistent) (primary : key.field = store.primaryKey.field) :
    ((key.direction.walk.arrange rows).Pairwise fun first second =>
        (Record.order [key] first.2 second.2).isLE = true) ↔
      rows.Pairwise fun first second =>
        (SortKey.order { field := store.primaryKey.field } first.2 second.2).isLE = true := by
  have ordered : ∀ first ∈ rows, ∀ second ∈ rows, Record.order [key] first.2 second.2 =
      SortKey.directed key.direction
        (SortKey.order { field := store.primaryKey.field } first.2 second.2) := by
    intro first firstMember second secondMember
    rw [← primary, ← SortKey.order_eq_directed (ascending.ownKey consistent primary firstMember)
      (ascending.ownKey consistent primary secondMember)]
    exact Ordering.then_eq
  cases direction : key.direction with
  | ascending =>
      apply List.Pairwise.iff_of_mem
      intro first second firstMember secondMember
      rw [ordered first firstMember second secondMember, direction]
      rfl
  | descending =>
      apply List.pairwise_reverse.trans
      apply List.Pairwise.iff_of_mem
      intro first second firstMember secondMember
      rw [ordered second secondMember first firstMember, direction, SortKey.directed,
        ← Std.OrientedCmp.eq_swap]

/-- Records that do not descend in the ranking are ranked by their keys. -/
theorem Store.Ascending.rankedByKey_of_pairwise (ascending : store.Ascending rows)
    (consistent : store.Consistent)
    (ranked : rows.Pairwise fun first second =>
      (SortKey.order { field := store.primaryKey.field } first.2 second.2).isLE = true) :
    ∀ first ∈ rows, ∀ second ∈ rows, store.RankedByKey first second := by
  have forward : rows.Pairwise store.RankedByKey := by
    apply (ranked.and ascending.before).imp_of_mem
    rintro first second firstMember secondMember ⟨before, less⟩
    rcases Ordering.isLE_iff_eq_lt_or_eq_eq.mp before with strict | tie
    · exact strict.trans less.symm
    · have keys := SortKey.ofField?_eq_of_order_eq (ascending.ownKey consistent rfl firstMember)
        (ascending.ownKey consistent rfl secondMember) tie
      exact absurd (keys ▸ less) (Key.lt_irrefl _)
  apply List.Pairwise.forall_of_forall_of_flip
  · intro row _
    exact Std.ReflCmp.compare_self.trans Std.ReflCmp.compare_self.symm
  · exact forward
  · exact forward.imp Store.RankedByKey.symm

/-- A walk in the direction of a sort by the primary key gives the sorted records
if, and only if, they are ranked by their keys. -/
theorem Store.Ascending.arrange_eq_sortBy_iff (ascending : store.Ascending rows)
    (consistent : store.Consistent) (primary : key.field = store.primaryKey.field) :
    (key.direction.walk.arrange rows).map Prod.snd =
        (Record.sortBy Prod.snd [key] rows).map Prod.snd ↔
      ∀ first ∈ rows, ∀ second ∈ rows, store.RankedByKey first second := by
  have sorted := Record.pairwise_sortBy Prod.snd [key] rows
  constructor
  · intro same
    apply ascending.rankedByKey_of_pairwise consistent
    apply (ascending.pairwise_arrange_iff consistent primary).mp
    have records := @List.pairwise_map (Key × Record) _ Prod.snd
      (fun left right => (Record.order [key] left right).isLE = true)
    exact records.mp (same ▸ records.mpr sorted)
  · intro ranked
    have walked : (key.direction.walk.arrange rows).Pairwise fun first second =>
        (Record.order [key] first.2 second.2).isLE = true := by
      apply (ascending.pairwise_arrange_iff consistent primary).mpr
      apply ascending.before.imp_of_mem
      intro first second firstMember secondMember before
      rw [ranked first firstMember second secondMember]
      exact Key.le_iff_lt_or_eq.mpr (.inl before)
    have permutation : (key.direction.walk.arrange rows).Perm
        (Record.sortBy Prod.snd [key] rows) :=
      (Direction.arrange_perm rows).trans (List.mergeSort_perm rows _).symm
    apply congrArg (List.map Prod.snd)
    apply permutation.eq_of_pairwise _ walked sorted
    intro first second firstMember secondMember before after
    have firstKept : first ∈ rows := Direction.mem_arrange.mp firstMember
    have secondKept : second ∈ rows := (List.mergeSort_perm rows _).mem_iff.mp secondMember
    have tie := Std.OrientedCmp.isLE_antisymm before after
    have keys := SortKey.ofField?_eq_of_order_eq (ascending.ownKey consistent primary firstKept)
      (ascending.ownKey consistent primary secondKept) (Ordering.then_eq_eq.mp tie).1
    exact ascending.eq_of_keys_eq firstKept secondKept keys

end Sorting

/-! ## Walks along the primary keys -/

/-- A walk along the primary keys meets the stored records with a key in its
range. -/
theorem ScanSource.rows_of_isPrimaryOrder {source : ScanSource} {store : Store}
    (alongKeys : source.isPrimaryOrder = true) :
    source.rows store .forward =
      store.records.toList.filter fun row => source.range.contains row.1 := by
  have order : source.order store = store.records.toList.map fun row => (row.1, row.1) := by
    cases source with
    | full => exact List.map_map
    | primary range => exact List.map_map
    | index name range => contradiction
  have met : ∀ row ∈ store.records.toList.filter fun row => source.range.contains row.1,
      store.row? (row.1, row.1) = some row := by
    intro row member
    have held := (List.mem_filter.mp member).1
    exact Store.row?_eq_some_iff.mpr ⟨rfl, SortedMap.get?_eq_some_iff.mpr held⟩
  rw [rows, entries, order, List.filter_map, Direction.arrange, List.filterMap_map]
  exact (List.filterMap_congr met).trans List.filterMap_some

/-- The stored records that satisfy a clause, in the order of their keys. -/
def Store.accepted (store : Store) (clause : WhereClause) : List (Key × Record) :=
  store.records.toList.filter fun row => clause.accepts row.2

theorem Store.ascending_accepted (store : Store) (clause : WhereClause) :
    store.Ascending (store.accepted clause) where
  stored := fun _ member => SortedMap.get?_eq_some_iff.mpr (List.mem_filter.mp member).1
  before := store.records.ascending.filter _

namespace Plan

variable {type : RecordType} {store : Store} {request : Request}

/-- The plan that walks upwards and sorts what it has met. -/
def sorted (plan : Plan) : Plan :=
  { plan with direction := .forward, strategy := .materialize }

/-- A plan hands out sorted records during the walk only where they are sorted by
the primary key and the walk goes along it. -/
theorem exists_key_of_isStreaming (ordered : request.order ≠ [])
    (streams : (ofRequest type request).isStreaming = true) :
    ∃ key, request.order = [key] ∧ key.field = type.primaryField ∧
      (ofRequest type request).source.isPrimaryOrder = true ∧
      (ofRequest type request).direction = key.direction.walk := by
  obtain ⟨clause, order, skip, limit⟩ := request
  have strategy : (strategyFor type ((Selection.choose type clause).source clause) order).1 =
      .stream := of_decide_eq_true streams
  cases order with
  | nil => contradiction
  | cons only rest =>
      cases rest with
      | cons second rest => contradiction
      | nil =>
          by_cases fast : only.field = type.primaryField ∧
              ((Selection.choose type clause).source clause).isPrimaryOrder = true
          · refine ⟨only, rfl, fast.1, fast.2, ?_⟩
            change (strategyFor type ((Selection.choose type clause).source clause) [only]).2 = _
            rw [strategyFor, if_pos fast]
          · rw [strategyFor, if_neg fast] at strategy
            contradiction

end Plan

namespace Traversal

variable {traversal : Traversal} {store : Store}

/-- The matches of a walk along the primary keys are the stored records that
satisfy the clause, in the order of their keys or the other way round. -/
theorem matching_rows_of_isPrimaryOrder {type : RecordType} {request : Request}
    (primary : type.primaryField = store.primaryKey.field) (consistent : store.Consistent)
    (alongKeys : (Plan.ofRequest type request).source.isPrimaryOrder = true)
    (clause : traversal.plan.clause = request.clause) (direction : Direction) :
    traversal.matching ((Plan.ofRequest type request).source.rows store direction) =
      direction.arrange (store.accepted request.clause) := by
  rw [matching, clause, ScanSource.rows_eq_arrange, ScanSource.rows_of_isPrimaryOrder alongKeys,
    ← Direction.arrange_filter, List.filter_filter]
  apply congrArg direction.arrange
  apply List.filter_congr
  intro row member
  cases accepted : request.clause.accepts row.2 with
  | false => rfl
  | true =>
      exact Plan.contains_of_isPrimaryOrder primary consistent alongKeys
        (SortedMap.get?_eq_some_iff.mpr member) accepted

/-- A traversal that finds and changes nothing. -/
def finding (type : RecordType) (plan : Plan) : Traversal :=
  ⟨plan, type.primaryField, .find, false⟩

section Finding

variable {type : RecordType} {transaction : Transaction} {request : Request} {key : SortKey}

theorem suits_finding (primary : type.primaryField = transaction.store.primaryKey.field)
    {plan : Plan} (alongKeys : plan.source.isPrimaryOrder = true) :
    (finding type plan).Suits transaction.store where
  present := by
    intro name walked
    obtain ⟨_, source, _⟩ := plan
    cases source <;> contradiction
  primaryField := primary

/-- A request sorted by the primary key and answered during a walk gives a page of
its matches in the order of their keys, taken the way of the sort. -/
theorem records_run_streamed (reachable : transaction.store.Reachable)
    (primary : type.primaryField = transaction.store.primaryKey.field)
    (streams : (Plan.ofRequest type request).isStreaming = true)
    (alongKeys : (Plan.ofRequest type request).source.isPrimaryOrder = true)
    (walks : (Plan.ofRequest type request).direction = key.direction.walk) :
    (Found.records <$> (finding type (.ofRequest type request)).run) transaction =
      .ok (page (request.skip.getD 0) request.limit
        ((key.direction.walk.arrange (transaction.store.accepted request.clause)).map Prod.snd))
        transaction := by
  have consistent := reachable.consistent
  have suits : (finding type (.ofRequest type request)).Suits transaction.store :=
    suits_finding primary alongKeys
  have matched := @matching_rows_of_isPrimaryOrder (finding type (.ofRequest type request)) _ _ _
    primary consistent alongKeys rfl key.direction.walk
  rw [records_run_find consistent suits rfl, chosen_of_not_single rfl,
    inOrder_of_isStreaming streams, page_map, ← matched, ← walks]
  rfl

/-- The same request gives a page of the sorted matches if it is sorted after the
walk. -/
theorem records_run_sorted (reachable : transaction.store.Reachable)
    (primary : type.primaryField = transaction.store.primaryKey.field)
    (alongKeys : (Plan.ofRequest type request).source.isPrimaryOrder = true) :
    (Found.records <$> (finding type (Plan.ofRequest type request).sorted).run) transaction =
      .ok (page (request.skip.getD 0) request.limit
        ((Record.sortBy Prod.snd request.order
          (transaction.store.accepted request.clause)).map Prod.snd)) transaction := by
  have consistent := reachable.consistent
  have suits : (finding type (Plan.ofRequest type request).sorted).Suits transaction.store :=
    suits_finding primary alongKeys
  have matched : (finding type (Plan.ofRequest type request).sorted).matching
      ((Plan.ofRequest type request).source.rows transaction.store .forward) =
        transaction.store.accepted request.clause :=
    matching_rows_of_isPrimaryOrder primary consistent alongKeys rfl .forward
  rw [records_run_find consistent suits rfl, chosen_of_not_single rfl,
    inOrder_of_not_isStreaming rfl, page_map, ← matched]
  rfl

/-- Where the matches are ranked by their keys, a walk gives the sorted result. -/
theorem find_eq_sorted_of_rankedByKey (reachable : transaction.store.Reachable)
    (primary : type.primaryField = transaction.store.primaryKey.field)
    (ordered : request.order ≠ [])
    (streams : (Plan.ofRequest type request).isStreaming = true)
    (ranked : ∀ first ∈ transaction.store.accepted request.clause,
      ∀ second ∈ transaction.store.accepted request.clause,
        transaction.store.RankedByKey first second) :
    (Found.records <$> (finding type (.ofRequest type request)).run) transaction =
      (Found.records <$> (finding type (Plan.ofRequest type request).sorted).run) transaction := by
  obtain ⟨key, single, field, alongKeys, walks⟩ := Plan.exists_key_of_isStreaming ordered streams
  have same := ((transaction.store.ascending_accepted request.clause).arrange_eq_sortBy_iff
    reachable.consistent (field.trans primary)).mpr ranked
  rw [records_run_streamed reachable primary streams alongKeys walks,
    records_run_sorted reachable primary alongKeys, single, same]

/-- A walk along keys that are numbers gives the sorted result. -/
theorem find_eq_sorted_of_numbers (reachable : transaction.store.Reachable)
    (primary : type.primaryField = transaction.store.primaryKey.field)
    (ordered : request.order ≠ [])
    (streams : (Plan.ofRequest type request).isStreaming = true)
    (numbers : ∀ row ∈ transaction.store.accepted request.clause, ∃ code, row.1 = .number code) :
    (Found.records <$> (finding type (.ofRequest type request)).run) transaction =
      (Found.records <$> (finding type (Plan.ofRequest type request).sorted).run) transaction := by
  apply find_eq_sorted_of_rankedByKey reachable primary ordered streams
  intro first firstMember second secondMember
  have stored := (transaction.store.ascending_accepted request.clause).stored
  have firstOwn := reachable.consistent.ownKey (stored first firstMember)
  have secondOwn := reachable.consistent.ownKey (stored second secondMember)
  obtain ⟨firstValue, firstHeld, firstKeyed⟩ := Option.bind_eq_some_iff.mp firstOwn
  obtain ⟨secondValue, secondHeld, secondKeyed⟩ := Option.bind_eq_some_iff.mp secondOwn
  obtain ⟨firstCode, firstNumber⟩ := numbers first firstMember
  obtain ⟨secondCode, secondNumber⟩ := numbers second secondMember
  rw [firstNumber] at firstKeyed
  rw [secondNumber] at secondKeyed
  rw [Store.RankedByKey, SortKey.order, firstHeld, secondHeld, firstNumber, secondNumber]
  exact Value.rank_of_number_keys firstKeyed secondKeyed

/-- Where a walk gives the sorted result, the matches are ranked by their keys. -/
theorem rankedByKey_of_find_eq_sorted (reachable : transaction.store.Reachable)
    (primary : type.primaryField = transaction.store.primaryKey.field)
    (ordered : request.order ≠ [])
    (streams : (Plan.ofRequest type request).isStreaming = true)
    (whole : request.skip = none ∧ request.limit = none)
    (same : (Found.records <$> (finding type (.ofRequest type request)).run) transaction =
      (Found.records <$> (finding type (Plan.ofRequest type request).sorted).run) transaction) :
    ∀ first ∈ transaction.store.accepted request.clause,
      ∀ second ∈ transaction.store.accepted request.clause,
        transaction.store.RankedByKey first second := by
  obtain ⟨key, single, field, alongKeys, walks⟩ := Plan.exists_key_of_isStreaming ordered streams
  rw [records_run_streamed reachable primary streams alongKeys walks,
    records_run_sorted reachable primary alongKeys, single, whole.1, whole.2] at same
  apply ((transaction.store.ascending_accepted request.clause).arrange_eq_sortBy_iff
    reachable.consistent (field.trans primary)).mp
  exact (EStateM.Result.ok.inj same).1

/-- A request sorted by the primary key gives the same whether it is answered during the walk or
sorted afterwards, just if the records rank as their keys. -/
theorem find_eq_sorted_iff (reachable : transaction.store.Reachable)
    (primary : type.primaryField = transaction.store.primaryKey.field) (clause : WhereClause)
    {order : List SortKey} (ordered : order ≠ [])
    (streams : (Plan.ofRequest type { clause, order }).isStreaming = true) :
    let find (plan : Plan) := (Found.records <$> (finding type plan).run) transaction
    let plan (skip limit : Option Nat) := Plan.ofRequest type { clause, order, skip, limit }
    (∀ skip limit, ∃ streamed sorted,
      find (plan skip limit) = .ok streamed transaction ∧
        find (plan skip limit).sorted = .ok sorted transaction) ∧
    ((∀ skip limit, find (plan skip limit) = find (plan skip limit).sorted) ↔
      ∀ first ∈ transaction.store.accepted clause, ∀ second ∈ transaction.store.accepted clause,
        transaction.store.RankedByKey first second) := by
  intro find plan
  obtain ⟨key, _, _, alongKeys, walks⟩ := Plan.exists_key_of_isStreaming ordered streams
  constructor
  · intro skip limit
    exact ⟨_, _, records_run_streamed reachable primary streams alongKeys walks,
      records_run_sorted reachable primary alongKeys⟩
  · constructor
    · intro same
      exact rankedByKey_of_find_eq_sorted reachable primary ordered streams ⟨rfl, rfl⟩
        (same none none)
    · intro ranked skip limit
      exact find_eq_sorted_of_rankedByKey reachable primary ordered streams ranked

/-- Keys that are numbers: a range of them is found in descending order, whichever
part of it is asked for. -/
theorem find_eq_sorted_descending :
    let type : RecordType := { storeName := "people" }
    let store := Store.ofHistory {}
      [ .add (.ofList [("age", .ofInt 7)])
      , .add (.ofList [("_id", .ofInt (-3))])
      , .add (.ofList [("_id", .ofInt 40)])
      , .add (.ofList [("age", .ofInt 7)]) ]
    let transaction : Transaction := ⟨"people", .readOnly, store⟩
    let clause : WhereClause := .ofList [("_id", .compare (.above ⟨.ofInt 1, true⟩))]
    let order : List SortKey := [{ field := "_id", direction := .descending }]
    let find (plan : Plan) := (Found.records <$> (finding type plan).run) transaction
    store.Reachable ∧ (Plan.ofRequest type { clause, order }).isStreaming = true ∧
      (store.accepted clause).length = 3 ∧ ∀ skip limit,
        find (.ofRequest type { clause, order, skip, limit }) =
          find (Plan.ofRequest type { clause, order, skip, limit }).sorted := by
  intro type store transaction clause order find
  have reachable : store.Reachable := Store.reachable_ofHistory _ _
  have streams : (Plan.ofRequest type { clause, order }).isStreaming = true := by decide +kernel
  have primary : type.primaryField = store.primaryKey.field := by decide +kernel
  have three : (store.accepted clause).length = 3 := by decide +kernel
  have ranked : ∀ first ∈ store.accepted clause, ∀ second ∈ store.accepted clause,
      store.RankedByKey first second := by
    decide +kernel
  have ordered : order ≠ [] := List.cons_ne_nil _ _
  clear_value store clause order type
  exact ⟨reachable, streams, three,
    (@find_eq_sorted_iff type transaction reachable primary clause order ordered streams).2.mpr
      ranked⟩

/-- Keys that are texts: the walk gives `B` before `a`, as their code points are,
but `a` sorts before `B`. -/
theorem find_ne_sorted_of_texts :
    let type : RecordType := { storeName := "s", primaryKey := ⟨"id", false⟩ }
    let store := Store.ofHistory type.primaryKey
      [ .add (.ofList [("id", .string "B")])
      , .add (.ofList [("id", .string "a")]) ]
    let transaction : Transaction := ⟨"s", .readOnly, store⟩
    let plan := Plan.ofRequest type { order := [{ field := "id" }] }
    let find (plan : Plan) := (Found.records <$> (finding type plan).run) transaction
    store.Reachable ∧ type.primaryField = store.primaryKey.field ∧ plan.isStreaming = true ∧
      (match find plan with
        | .ok records _ => records.map (Key.ofField? · "id")
        | .error _ _ => []) = [some (.string "B"), some (.string "a")] ∧
      Collation.order "a" "B" = .lt ∧ find plan ≠ find plan.sorted := by
  intro type store transaction plan find
  have reachable : store.Reachable := Store.reachable_ofHistory _ _
  have primary : type.primaryField = store.primaryKey.field := by decide +kernel
  have streams : plan.isStreaming = true := by decide +kernel
  have contrary : ¬ ∀ first ∈ store.accepted .empty, ∀ second ∈ store.accepted .empty,
      store.RankedByKey first second := by
    decide +kernel
  refine ⟨reachable, primary, streams, by decide +kernel, by decide +kernel, ?_⟩
  clear_value store type
  intro same
  exact contrary (rankedByKey_of_find_eq_sorted reachable primary (List.cons_ne_nil _ _) streams
    ⟨rfl, rfl⟩ same)

end Finding

end Traversal

end RecordBase
