import RecordBase.Proofs.Connection.Requests
import RecordBase.Proofs.Query.Ties

/-!
# Paging

Skip and limit cut a page out of the list that a request without them gives, whether
it is found in the order of a walk or sorted after it. So pages read one after the
other make up this list. Where it is sorted and no two records tie, the declared
indexes do not show in it, and so in none of its pages.
-/

namespace RecordBase

/-- Building an index changes no record. -/
theorem Store.get?_after_createIndex (store : Store) (storeName : String)
    (descriptor : IndexDescriptor) (key : Key) :
    (store.after (.createIndex storeName descriptor)).get? key = store.get? key := by
  unfold after
  cases created : (Change.createIndex storeName descriptor).run store with
  | error error => rfl
  | ok changed =>
      rcases createIndex_eq_ok_iff.mp created with ⟨_, built, _, rfl⟩
      rfl

namespace Connection

/-- Reads pages of some sizes one after the other from a place on, and then all that
is left. -/
def findPages (connection : Connection) (type : RecordType) (clause : WhereClause)
    (order : List SortKey) : Nat → List Nat → Action Storage (List (List Record))
  | start, [] => do
      return [← connection.find type { clause, order, skip := some start }]
  | start, size :: rest => do
      let first ← connection.find type { clause, order, skip := some start, limit := some size }
      return first :: (← findPages connection type clause order (start + size) rest)

variable {connection : Connection} {type : RecordType} {storage : Storage} {store : Store}
  {clause : WhereClause} {order : List SortKey} {whole : List Record}

/-- A find gives a page of what it gives without skip and limit. -/
theorem find_eq_page (serves : connection.Serves type storage store)
    (found : connection.find type { clause, order } storage = .ok whole storage)
    (skip limit : Option Nat) :
    connection.find type { clause, order, skip, limit } storage =
      .ok (page (skip.getD 0) limit whole) storage := by
  rw [find_eq serves] at found
  obtain ⟨rfl, _⟩ := EStateM.Result.ok.inj found
  rw [find_eq serves, Traversal.chosen_find, page_map]

/-- Pages read one after the other make up what a find without skip and limit gives from
the first place on. -/
theorem findPages_flatten (serves : connection.Serves type storage store)
    (found : connection.find type { clause, order } storage = .ok whole storage)
    (sizes : List Nat) (start : Nat) :
    ∃ pages, connection.findPages type clause order start sizes storage = .ok pages storage ∧
      pages.length = sizes.length + 1 ∧ pages.flatten = whole.drop start := by
  induction sizes generalizing start with
  | nil =>
      refine ⟨[whole.drop start], ?_, rfl, List.append_nil _⟩
      exact Action.bind_of_ok (find_eq_page serves found (some start) none)
  | cons size rest inductionHypothesis =>
      obtain ⟨pages, read, count, flat⟩ := inductionHypothesis (start + size)
      refine ⟨page start (some size) whole :: pages, ?_, congrArg (· + 1) count, ?_⟩
      · refine (Action.bind_of_ok (find_eq_page serves found (some start) (some size))).trans ?_
        exact Action.bind_of_ok read
      · rw [List.flatten_cons, flat, page_append]

/-- A find gives the part of all matches that skip and limit mark. Pages read one after the other
make up all matches. -/
theorem find_pages (serves : connection.Serves type storage store) (clause : WhereClause)
    (order : List SortKey) :
    ∃ whole, connection.find type { clause, order } storage = .ok whole storage ∧
      whole.Perm (store.records.values.filter clause.accepts) ∧
      (∀ skip limit, connection.find type { clause, order, skip, limit } storage =
        .ok (whole.extract (skip.getD 0) (limit.elim whole.length (skip.getD 0 + ·))) storage) ∧
      ∀ sizes, ∃ pages,
        connection.findPages type clause order 0 sizes storage = .ok pages storage ∧
          pages.length = sizes.length + 1 ∧ pages.flatten = whole := by
  have found := find_eq serves { clause, order }
  refine ⟨_, found, ?_, ?_, ?_⟩
  · rw [SortedMap.values, List.filter_map]
    exact (Traversal.chosen_perm serves.agrees serves.reachable.consistent clause order).map _
  · intro skip limit
    rw [find_eq_page serves found, page_eq_extract]
  · intro sizes
    exact findPages_flatten serves found sizes 0

/-- Pages of a list that is found against the order of the keys: the record in its
middle, and single records from the front. -/
theorem find_pages_backwards :
    let type : RecordType := { storeName := "people" }
    let store := Store.ofHistory {}
      [ .add (.ofList [("age", .ofInt 7)])
      , .add (.ofList [("_id", .ofInt (-3))])
      , .add (.ofList [("age", .ofInt 5)]) ]
    let storage := ({} : Storage).keep "main" ⟨1, SortedMap.empty.insert "people" store⟩
    let connection : Connection := ⟨"main", 1, .empty⟩
    let order : List SortKey := [{ field := "_id", direction := .descending }]
    connection.Serves type storage store ∧ ∃ whole,
      connection.find type { order } storage = .ok whole storage ∧ whole.length = 3 ∧
      connection.find type { order, skip := some 1, limit := some 1 } storage =
        .ok (whole.extract 1 2) storage ∧
      ∃ pages, connection.findPages type .empty order 0 [1, 1] storage = .ok pages storage ∧
        pages.length = 3 ∧ pages.flatten = whole := by
  intro type store storage connection order
  have held : (storage.database "main").stores.get? "people" = some store := by
    rw [Storage.database_keep]
    exact SortedMap.get?_insert_self _ _ _
  have serves : connection.Serves type storage store :=
    ⟨held, Store.reachable_ofHistory _ _, by decide +kernel⟩
  have matching : (store.records.values.filter (WhereClause.accepts .empty)).length = 3 := by
    decide +kernel
  clear_value store storage
  rcases find_pages serves .empty order with ⟨whole, found, permutation, cut, read⟩
  exact ⟨serves, whole, found, permutation.length_eq.trans matching, cut (some 1) (some 1),
    read [1, 1]⟩

/-! ## Pages without ties -/

/-- What a find gives where the result is sorted and no two matches tie: the sorted
matches, which the walk does not show in. -/
theorem find_eq_sortBy (serves : connection.Serves type storage store)
    (sorts : (Plan.ofRequest type { clause, order }).isStreaming = false)
    (untied : store.Untied clause order) :
    connection.find type { clause, order } storage =
      .ok ((Record.sortBy Prod.snd order (store.accepted clause)).map Prod.snd) storage := by
  rw [find_eq serves, untied.chosen_eq serves.agrees serves.reachable.consistent sorts]

/-- Stores with the same records and other indexes give the same part of the same strictly
ascending list, where the sort leaves no ties. -/
theorem find_eq_of_indexes {other : Connection} {otherStorage : Storage} {otherStore : Store}
    {declared : List IndexDescriptor} (serves : connection.Serves type storage store)
    (otherServes : other.Serves { type with indexes := declared } otherStorage otherStore)
    (same : ∀ key, otherStore.get? key = store.get? key)
    (sorts : (Plan.ofRequest type { clause, order }).isStreaming = false)
    (otherSorts :
      (Plan.ofRequest { type with indexes := declared } { clause, order }).isStreaming = false)
    (untied : store.Untied clause order) :
    ∃ whole : List Record, whole.Perm ((store.accepted clause).map Prod.snd) ∧
      (whole.Pairwise fun first second => Record.order order first second = .lt) ∧
      ∀ skip limit,
        connection.find type { clause, order, skip, limit } storage =
          .ok (page (skip.getD 0) limit whole) storage ∧
        other.find { type with indexes := declared } { clause, order, skip, limit }
            otherStorage =
          .ok (page (skip.getD 0) limit whole) otherStorage := by
  have records : otherStore.records = store.records := SortedMap.ext_get? same
  have accepted : otherStore.accepted clause = store.accepted clause := by
    rw [Store.accepted, records, Store.accepted]
  have otherUntied : otherStore.Untied clause order := by
    rw [Store.Untied, accepted]
    exact untied
  have found := find_eq_sortBy serves sorts untied
  have otherFound := find_eq_sortBy otherServes otherSorts otherUntied
  rw [accepted] at otherFound
  refine ⟨_, (List.mergeSort_perm _ _).map _, untied.pairwise_lt, ?_⟩
  intro skip limit
  constructor
  · exact find_eq_page serves found skip limit
  · exact find_eq_page otherServes otherFound skip limit

/-- A range of an index meets three records in another order than all records are met
in, and sorted by name they are the same list. -/
theorem find_eq_of_indexes_of_range :
    let byAge : IndexDescriptor := { name := "by_age", keyPath := .single "age" }
    let type : RecordType := { storeName := "people", indexes := [byAge] }
    let plain := Store.ofHistory {}
      [ .add (.ofList [("age", .ofInt 8), ("name", .string "b")])
      , .add (.ofList [("age", .ofInt 7), ("name", .string "c")])
      , .add (.ofList [("age", .ofInt 6), ("name", .string "a")])
      , .add (.ofList [("age", .ofInt 5), ("name", .string "c")]) ]
    let indexed := plain.after (.createIndex "people" byAge)
    let keeping (store : Store) :=
      ({} : Storage).keep "main" ⟨1, SortedMap.empty.insert "people" store⟩
    let connection : Connection := ⟨"main", 1, .empty⟩
    let clause : WhereClause := .ofList [("age", .compare (.above ⟨.ofInt 5, false⟩))]
    let order : List SortKey := [{ field := "name" }]
    ∃ whole : List Record, whole.length = 3 ∧ ∀ skip limit,
      connection.find type { clause, order, skip, limit } (keeping indexed) =
        .ok (page (skip.getD 0) limit whole) (keeping indexed) ∧
      connection.find { type with indexes := [] } { clause, order, skip, limit }
          (keeping plain) =
        .ok (page (skip.getD 0) limit whole) (keeping plain) := by
  intro byAge type plain indexed keeping connection clause order
  have held : ∀ store, ((keeping store).database "main").stores.get? "people" = some store := by
    intro store
    rw [Storage.database_keep]
    exact SortedMap.get?_insert_self _ _ _
  have serves : connection.Serves type (keeping indexed) indexed :=
    ⟨held indexed, (Store.reachable_ofHistory _ _).after _, by decide +kernel⟩
  have otherServes : connection.Serves { type with indexes := [] } (keeping plain) plain :=
    ⟨held plain, Store.reachable_ofHistory _ _, by decide +kernel⟩
  have same : ∀ key, plain.get? key = indexed.get? key :=
    fun key => (plain.get?_after_createIndex "people" byAge key).symm
  have sorts : (Plan.ofRequest type { clause, order }).isStreaming = false := by decide +kernel
  have otherSorts : (Plan.ofRequest { type with indexes := [] } { clause, order }).isStreaming =
      false := by
    decide +kernel
  have untied : indexed.Untied clause order := by decide +kernel
  have three : ((indexed.accepted clause).map Prod.snd).length = 3 := by decide +kernel
  clear_value plain indexed clause order type
  rcases find_eq_of_indexes serves otherServes same sorts otherSorts untied with
    ⟨whole, permutation, _, parts⟩
  exact ⟨whole, permutation.length_eq.trans three, parts⟩

end Connection

end RecordBase
