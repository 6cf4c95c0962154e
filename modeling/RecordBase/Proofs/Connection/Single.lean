import RecordBase.Proofs.Connection.Requests
import RecordBase.Proofs.Store.Patch

/-!
# Single records

An operation on a single record acts on the first record that a find of the same request
gives, whichever way the request is answered. A deletion takes this record out, an update
puts the merged record in its place or is refused, and in either case nothing else
changes.
-/

namespace RecordBase

namespace Store

/-- A store that differs from another in what it holds under one key. Its indexes follow from its
records, so only their declarations are told. -/
structure Exchanged (before : Store) (key : Key) (held : Option Record) (after : Store) :
    Prop where
  reachable : after.Reachable
  primaryKey : after.primaryKey = before.primaryKey
  generator : after.generator = before.generator
  described : ∀ name, (after.indexes.get? name).map (·.descriptor) =
    (before.indexes.get? name).map (·.descriptor)
  records : ∀ other, after.get? other = if other = key then held else before.get? other

variable {store : Store} {key : Key} {record : Record}

theorem exchanged_delete (reachable : store.Reachable) (key : Key) :
    store.Exchanged key none (store.delete key).2 where
  reachable := reachable.after (.delete key)
  primaryKey := primaryKey_delete store key
  generator := generator_delete store key
  described := (differsAt_delete key store).described
  records := by
    intro other
    rw [get?_delete]
    simp only [eq_comm]

theorem exchanged_place (reachable : store.Reachable) (stored : store.get? key = some record)
    {placed : Record} (own : Key.ofField? placed store.primaryKey.field = some key)
    (free : store.collision? placed key = none) :
    store.Exchanged key (some placed) (store.place key placed) where
  reachable := reachable.place own free
  primaryKey := primaryKey_place store key placed
  generator := generator_place_of_get? reachable.consistent stored placed
  described := (differsAt_place key placed store).described
  records := by
    intro other
    rw [get?_place]
    simp only [eq_comm]

/-- What was exchanged in a store tells what it has become, with its indexes. -/
theorem Exchanged.unique {held : Option Record} {after other : Store}
    (left : store.Exchanged key held after) (right : store.Exchanged key held other) :
    after = other := by
  apply left.reachable.consistent.ext right.reachable.consistent
  · exact left.primaryKey.trans right.primaryKey.symm
  · intro name
    exact (left.described name).trans (right.described name).symm
  · intro key
    exact (left.records key).trans (right.records key).symm
  · exact left.generator.trans right.generator.symm

end Store

namespace Connection

variable {connection : Connection} {type : RecordType} {storage : Storage} {store : Store}
  {request : Request} {row : Key × Record}

/-- The row of the first record that a find gives. -/
def firstRow (type : RecordType) (store : Store) (request : Request) : Option (Key × Record) :=
  ((Traversal.ofRequest type request .find false).chosen store).head?

theorem get?_of_firstRow (serves : connection.Serves type storage store)
    (first : firstRow type store request = some row) : store.get? row.1 = some row.2 :=
  Traversal.get?_of_mem_chosen serves.reachable.consistent (List.mem_of_mem_head? first)

/-- An operation on a single record is a transaction that acts on the first record that
a find of the same request gives, if there is one. -/
theorem first_traverse (serves : connection.Serves type storage store) (request : Request)
    (operation : Operation) :
    (do return (← connection.traverse type request operation true).records.head?) storage =
      Storage.transact connection.name type.storeName (modeFor operation)
        (match firstRow type store request with
          | none => pure none
          | some row => some <$> (Traversal.ofRequest type request operation true).actOn row)
        storage := by
  have acts := records_traverse serves request operation true
  have heads : (fun found => found.records.head?) <$>
      connection.traverse type request operation true =
        List.head? <$> Found.records <$> connection.traverse type request operation true :=
    (Functor.map_map _ _ _).symm
  rw [bind_pure_comp, heads, Action.map_eq_of_eq acts, Storage.map_transact,
    Traversal.chosen_single, firstRow]
  cases (Traversal.ofRequest type request .find false).chosen store with
  | nil => rfl
  | cons row rest => simp

/-- Where nothing is found, no operation on a single record has a result or changes
anything. -/
theorem first_traverse_of_none (serves : connection.Serves type storage store)
    (nothing : firstRow type store request = none) (operation : Operation) :
    (do return (← connection.traverse type request operation true).records.head?) storage =
      .ok none storage := by
  rw [first_traverse serves, nothing]
  exact Storage.transact_of_idle serves.held rfl

theorem findOne_eq (serves : connection.Serves type storage store) (request : Request) :
    connection.findOne type request storage =
      .ok ((firstRow type store request).map Prod.snd) storage := by
  apply (first_traverse serves request .find).trans
  cases firstRow type store request with
  | none => exact Storage.transact_of_idle serves.held rfl
  | some row => exact Storage.transact_of_idle serves.held rfl

/-- A deletion takes the first record out. -/
theorem deleteOne_of_first (serves : connection.Serves type storage store)
    (first : firstRow type store request = some row) :
    ∃ after left, connection.deleteOne type request storage = .ok (some row.2) left ∧
      store.Exchanged row.1 none after ∧
      storage.TakenOver connection.name type.storeName after left := by
  let after := (store.delete row.1).2
  have deleted := first_traverse serves request .delete
  rw [first] at deleted
  exact ⟨after, _, deleted.trans (Storage.transact_of_ok serves.held rfl),
    Store.exchanged_delete serves.reachable row.1,
    Storage.takenOver_commit storage connection.name ⟨type.storeName, .readWrite, after⟩⟩

/-- An update puts the merged record in the place of the first one, or is refused with
the error that putting it meets. -/
theorem updateOne_of_first (serves : connection.Serves type storage store)
    (first : firstRow type store request = some row) {patch : Value} {changes : Record}
    (object : patch.asRecord = .ok changes) :
    let merged := row.2.merge changes type.primaryField
    (∃ value after left, store.put merged = .ok (value, after) ∧
      connection.updateOne type patch request storage = .ok (some merged) left ∧
      store.Exchanged row.1 (some merged) after ∧
      storage.TakenOver connection.name type.storeName after left) ∨
    ∃ error, store.put merged = .error error ∧
      connection.updateOne type patch request storage = .error error storage := by
  intro merged
  let traversal := Traversal.ofRequest type request (.update changes) true
  let begun : Transaction := ⟨type.storeName, .readWrite, store⟩
  have consistent := serves.reachable.consistent
  have stored := get?_of_firstRow serves first
  have suits : traversal.Suits begun.store := Traversal.suits_ofRequest serves.agrees
  have own : Key.ofField? merged store.primaryKey.field = some row.1 :=
    suits.ofField?_merge consistent stored changes
  have acted := Traversal.actOn_update suits consistent stored rfl
  have updated : connection.updateOne type patch request storage =
      Storage.transact connection.name type.storeName .readWrite (some <$> traversal.actOn row)
        storage := by
    simp only [updateOne, object]
    rw [first_traverse serves, first]
    rfl
  rw [updated, Store.put_of_ofField? own]
  cases collision : store.collision? merged row.1 with
  | none =>
      left
      let after : Transaction := { begun with store := store.place row.1 merged }
      have free : begun.store.collision? (row.2.merge changes traversal.primaryField) row.1 =
          none := collision
      simp only [free] at acted
      have placed : (some <$> traversal.actOn row) begun = .ok (some merged) after :=
        map_eq_ok_iff.mpr ⟨merged, acted, rfl⟩
      exact ⟨_, after.store, _, rfl, Storage.transact_of_ok serves.held placed,
        Store.exchanged_place serves.reachable stored own collision,
        Storage.takenOver_commit storage connection.name after⟩
  | some fault =>
      right
      refine ⟨.constraint fault, rfl, ?_⟩
      have taken : begun.store.collision? (row.2.merge changes traversal.primaryField) row.1 =
          some fault := collision
      simp only [taken] at acted
      have refused : (some <$> traversal.actOn row) begun = .error (.constraint fault) begun :=
        map_eq_error_iff.mpr acted
      rw [Storage.transact_of_error serves.held refused, Storage.commit_begun serves.held]

/-- An update of a single record that fails changes nothing. -/
theorem unchanged_of_updateOne (serves : connection.Serves type storage store)
    {patch : Value} {error : StorageError} {left : Storage}
    (failed : connection.updateOne type patch request storage = .error error left) :
    left = storage := by
  cases object : patch.asRecord with
  | error cause =>
      simp only [updateOne, object] at failed
      cases failed
      rfl
  | ok changes =>
      cases first : firstRow type store request with
      | none =>
          simp only [updateOne, object] at failed
          rw [first_traverse_of_none serves first] at failed
          contradiction
      | some row =>
          rcases updateOne_of_first serves first object with
            ⟨_, _, _, _, succeeded, _⟩ | ⟨_, _, refused⟩
          · rw [succeeded] at failed
            contradiction
          · rw [refused] at failed
            cases failed
            rfl

/-- An operation on a single record acts on the first record that a find gives, and on nothing
else. Without such a record nothing changes. -/
theorem single_acts_on_first (serves : connection.Serves type storage store)
    (request : Request) :
    ∃ rows : List (Key × Record),
      (rows.map Prod.fst).Nodup ∧ (∀ row ∈ rows, store.get? row.1 = some row.2) ∧
      connection.find type request storage = .ok (rows.map Prod.snd) storage ∧
      connection.findOne type request storage = .ok (rows.map Prod.snd).head? storage ∧
      (rows.head? = none →
        connection.deleteOne type request storage = .ok none storage ∧
        ∀ (patch : Value) (changes : Record), patch.asRecord = .ok changes →
          connection.updateOne type patch request storage = .ok none storage) ∧
      (∀ row, rows.head? = some row →
        (∃ after left, connection.deleteOne type request storage = .ok (some row.2) left ∧
          store.Exchanged row.1 none after ∧
          storage.TakenOver connection.name type.storeName after left) ∧
        ∀ (patch : Value) (changes : Record), patch.asRecord = .ok changes →
          let merged := row.2.merge changes type.primaryField
          (∃ value after left, store.put merged = .ok (value, after) ∧
            connection.updateOne type patch request storage = .ok (some merged) left ∧
            store.Exchanged row.1 (some merged) after ∧
            storage.TakenOver connection.name type.storeName after left) ∨
          ∃ error, store.put merged = .error error ∧
            connection.updateOne type patch request storage = .error error storage) ∧
      ∀ (patch : Value) (error : StorageError) (left : Storage),
        connection.updateOne type patch request storage = .error error left →
          left = storage := by
  have consistent := serves.reachable.consistent
  refine ⟨(Traversal.ofRequest type request .find false).chosen store,
    Traversal.nodup_keys_chosen consistent,
    fun row member => Traversal.get?_of_mem_chosen consistent member, find_eq serves request,
    ?_, ?_, ?_, fun patch error left failed => unchanged_of_updateOne serves failed⟩
  · rw [findOne_eq serves, firstRow, List.head?_map]
  · intro nothing
    refine ⟨first_traverse_of_none serves nothing .delete, ?_⟩
    intro patch changes object
    simp only [updateOne, object]
    exact first_traverse_of_none serves nothing (.update changes)
  · intro row first
    refine ⟨deleteOne_of_first serves first, ?_⟩
    intro patch changes object
    exact updateOne_of_first serves first object

/-- The second youngest of the people in a range of an index is found and deleted, and
moved along the index by an update. -/
theorem single_acts_on_second_youngest :
    let byAge : IndexDescriptor := { name := "by_age", keyPath := .single "age" }
    let type : RecordType := { storeName := "people", indexes := [byAge] }
    let store := Store.ofHistory {}
      [ .createIndex "people" byAge
      , .add (.ofList [("age", .ofInt 7)])
      , .add (.ofList [("age", .ofInt 4)])
      , .add (.ofList [("age", .ofInt 5)])
      , .add (.ofList [("age", .ofInt 6)]) ]
    let storage := ({} : Storage).keep "main" ⟨1, SortedMap.empty.insert "people" store⟩
    let connection : Connection := ⟨"main", 1, .empty⟩
    let request : Request :=
      { clause := .ofList [("age", .compare (.above ⟨.ofInt 5, true⟩))], skip := some 1 }
    let patch : Record := .ofList [("age", .ofInt 9)]
    connection.Serves type storage store ∧ ∃ record,
      store.get? (.ofInt 4) = some record ∧
      connection.findOne type request storage = .ok (some record) storage ∧
      (∃ after left, connection.deleteOne type request storage = .ok (some record) left ∧
        store.Exchanged (.ofInt 4) none after ∧ storage.TakenOver "main" "people" after left) ∧
      ∃ after left,
        connection.updateOne type (.ofRecord patch) request storage =
          .ok (some (record.merge patch "_id")) left ∧
        store.Exchanged (.ofInt 4) (some (record.merge patch "_id")) after ∧
        storage.TakenOver "main" "people" after left := by
  intro byAge type store storage connection request patch
  have held : (storage.database "main").stores.get? "people" = some store := by
    rw [Storage.database_keep]
    exact SortedMap.get?_insert_self _ _ _
  have serves : connection.Serves type storage store :=
    ⟨held, Store.reachable_ofHistory _ _, by decide +kernel⟩
  have second : (Action.ending (connection.findOne type request storage)).toOption.join.bind
      (Key.ofField? · "_id") = some (.ofInt 4) := by
    decide +kernel
  have accepted : (Action.failure? (connection.updateOne type (.ofRecord patch) request
      storage)).isNone = true := by
    decide +kernel
  have primary : store.primaryKey.field = "_id" := by decide +kernel
  have object : (Value.ofRecord patch).asRecord = .ok patch := rfl
  clear_value store storage request patch
  rcases single_acts_on_first serves request with ⟨rows, _, stored, _, found, _, acts, _⟩
  cases first : rows.head? with
  | none => simp [found, List.head?_map, first, Action.ending, Except.toOption] at second
  | some row =>
      have present := stored row (List.mem_of_mem_head? first)
      have own := serves.reachable.consistent.ownKey present
      rw [List.head?_map, first] at found
      rw [found] at second
      rw [primary, show Key.ofField? row.2 "_id" = some (.ofInt 4) from second] at own
      rcases acts row first with ⟨deleted, updated⟩
      refine ⟨serves, row.2, ?_⟩
      rw [Option.some.inj own]
      refine ⟨present, found, deleted, ?_⟩
      rcases updated (.ofRecord patch) patch object with
        ⟨_, after, left, _, succeeded, exchanged, taken⟩ | ⟨error, _, refused⟩
      · exact ⟨after, left, succeeded, exchanged, taken⟩
      · rw [refused] at accepted
        contradiction

end Connection

end RecordBase
