import RecordBase.Connection.Operations
import RecordBase.Proofs.Query.Result
import RecordBase.Proofs.Storage.Refusal

/-!
# Requests on a connection

An operation on the records of a request is one transaction, which acts on the
records chosen from the store as it was. A find leaves the storage as it is. A
transaction that writes puts another store in the place of the one that it began
with, and whatever else is in the storage stays.
-/

namespace RecordBase

/-- A part of a result depends on the outcome of the action alone. -/
theorem Action.map_eq_of_eq {σ α β : Type} {action other : Action σ α} {state : σ}
    (same : action state = other state) {project : α → β} :
    (project <$> action) state = (project <$> other) state := by
  simp only [Functor.map, EStateM.map, same]

namespace Storage

/-- A storage that differs from another in that a store has taken the place of the
one of its name. -/
structure TakenOver (before : Storage) (name storeName : String) (store : Store)
    (after : Storage) : Prop where
  stored : (after.database name).stores.get? storeName = some store
  version : (after.database name).version = (before.database name).version
  otherStores : ∀ other, storeName ≠ other →
    (after.database name).stores.get? other = (before.database name).stores.get? other
  otherDatabases : ∀ other, name ≠ other →
    after.databases.get? other = before.databases.get? other

theorem takenOver_commit (storage : Storage) (name : String) (transaction : Transaction) :
    storage.TakenOver name transaction.storeName transaction.store
      (storage.commit name transaction) where
  stored := get?_stores_keep storage name transaction.storeName _ _ transaction.store
  version := by
    rw [commit, database_keep]
  otherStores := by
    intro other different
    rw [commit, database_keep]
    exact SortedMap.get?_insert_of_ne _ _ different
  otherDatabases := fun other different => SortedMap.get?_insert_of_ne _ _ different

/-- Of two stores taken over under a name, one after the other, the second stays. -/
theorem commit_commit (storage : Storage) (name storeName : String) (mode : TransactionMode)
    (first second : Store) :
    (storage.commit name ⟨storeName, mode, first⟩).commit name ⟨storeName, mode, second⟩ =
      storage.commit name ⟨storeName, mode, second⟩ := by
  simp only [commit, database_keep, SortedMap.insert_insert]
  simp only [keep, SortedMap.insert_insert]

section Transact

variable {α β : Type} {storage : Storage} {name storeName : String} {mode : TransactionMode}
  {store : Store} {action : Action Transaction α}

/-- A transaction gives a part of a result if the action does. -/
theorem map_transact (project : α → β) :
    project <$> transact name storeName mode action =
      transact name storeName mode (project <$> action) := by
  funext storage
  simp only [Functor.map, EStateM.map, transact]
  cases storage.begin name storeName mode with
  | error error => rfl
  | ok transaction =>
      dsimp only
      cases action transaction <;> rfl

theorem transact_of_ok (held : (storage.database name).stores.get? storeName = some store)
    {result : α} {after : Transaction}
    (succeeded : action ⟨storeName, mode, store⟩ = .ok result after) :
    transact name storeName mode action storage = .ok result (storage.commit name after) := by
  simp only [transact, begin, held, succeeded]

/-- A transaction that leaves its store as it was leaves the storage as it was. -/
theorem transact_of_idle (held : (storage.database name).stores.get? storeName = some store)
    {result : α} (idle : action ⟨storeName, mode, store⟩ = .ok result ⟨storeName, mode, store⟩) :
    transact name storeName mode action storage = .ok result storage := by
  rw [transact_of_ok held idle, commit_begun held]

theorem transact_of_error (held : (storage.database name).stores.get? storeName = some store)
    {error : StorageError} {after : Transaction}
    (failed : action ⟨storeName, mode, store⟩ = .error error after) :
    transact name storeName mode action storage = .error error (storage.commit name after) := by
  simp only [transact, begin, held, failed]

end Transact

end Storage

namespace Connection

/-- A connection serves a record type from a store of its database: one that changes
of a store have led to and that the record type describes. -/
structure Serves (connection : Connection) (type : RecordType) (storage : Storage)
    (store : Store) : Prop where
  held : (storage.database connection.name).stores.get? type.storeName = some store
  reachable : store.Reachable
  agrees : type.Agrees store

variable {connection : Connection} {type : RecordType} {storage : Storage} {store : Store}

/-- An operation on the records of a request is a transaction that acts on the records
chosen, one after the other. -/
theorem records_traverse (serves : connection.Serves type storage store) (request : Request)
    (operation : Operation) (single : Bool) :
    let traversal := Traversal.ofRequest type request operation single
    (Found.records <$> connection.traverse type request operation single) storage =
      Storage.transact connection.name type.storeName (modeFor operation)
        ((traversal.chosen store).mapM traversal.actOn) storage := by
  intro traversal
  unfold traverse
  split
  · rename_i zero
    let begun : Transaction := ⟨type.storeName, modeFor operation, store⟩
    have nothing : traversal.chosen store = [] := if_pos zero
    have idle : (traversal.chosen store).mapM traversal.actOn begun = .ok [] begun := by
      rw [nothing]
      rfl
    rw [Storage.transact_of_idle serves.held idle]
    rfl
  · have suits : traversal.Suits store := Traversal.suits_ofRequest serves.agrees
    have acts := @Traversal.run_eq_mapM traversal ⟨type.storeName, modeFor operation, store⟩
      serves.reachable.consistent suits
    rw [Storage.map_transact]
    simp only [Storage.transact, Storage.begin, serves.held, ← acts]
    rfl

/-- The records of a find are those chosen, and the storage stays as it is. -/
theorem records_traverse_find (serves : connection.Serves type storage store)
    (request : Request) (single : Bool) :
    (Found.records <$> connection.traverse type request .find single) storage =
      .ok (((Traversal.ofRequest type request .find single).chosen store).map Prod.snd)
        storage := by
  rw [records_traverse serves,
    Storage.transact_of_idle serves.held (Traversal.mapM_actOn_find rfl _ _)]

theorem find_eq (serves : connection.Serves type storage store) (request : Request) :
    connection.find type request storage =
      .ok (((Traversal.ofRequest type request .find false).chosen store).map Prod.snd)
        storage := by
  rw [← records_traverse_find serves]
  exact congrFun (bind_pure_comp _ _) storage

end Connection

end RecordBase
