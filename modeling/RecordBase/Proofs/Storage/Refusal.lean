import RecordBase.Proofs.Storage.Stores
import RecordBase.Proofs.Store.InPlace
import RecordBase.Proofs.Store.Refusal

/-!
# Calls that fail change nothing

A call of a transaction, of a cursor or of an upgrade does all of its work or none
of it. It fails exactly where there is a reason against it, and leaves everything as
it was then: records, indexes and generators, the stores and the version, and the
place of a cursor. What a call fails of on a store decides what it fails of in a
transaction, under a cursor, in a database and in the storage.
-/

namespace RecordBase

open RecordBase.Action

/-- An action that fails in the states that have a cause, told for those of a property, and
leaves the state as it was when it fails. -/
structure Action.Atomic {σ α : Type} (holds : σ → Prop) (cause : σ → StorageError → Prop)
    (action : Action σ α) : Prop where
  unchanged : ∀ {state error after}, action state = .error error after → after = state
  caused : ∀ {state error after}, holds state → action state = .error error after →
    cause state error
  fails : ∀ {state error}, holds state → cause state error →
    ∃ other after, action state = .error other after

/-! ## Stores -/

namespace Store

variable {α : Type} {cause : Store → StorageError → Prop}

/-- Why the record of a key is not replaced: the new one has another key, or it is
rejected. -/
inductive RejectsReplacement (key : Key) (record : Record) (store : Store) : StorageError → Prop
  | changedKey (other : Key.ofField? record store.primaryKey.field ≠ some key) :
      RejectsReplacement key record store (.data (.changedKey key))
  | rejected {error : StorageError} (same : Key.ofField? record store.primaryKey.field = some key)
      (rejects : store.Rejects record true error) : RejectsReplacement key record store error

theorem failsFor_replace (key : Key) (record : Record) :
    FailsFor (RejectsReplacement key record) (Cursor.replace key record) where
  caused := by
    intro store error reachable failed
    unfold Cursor.replace at failed
    split at failed
    · rename_i same
      exact .rejected same ((failsFor_write record true).caused reachable failed)
    · rename_i other
      cases failed
      exact .changedKey other
  fails := by
    intro store error reachable rejects
    unfold Cursor.replace
    cases rejects with
    | changedKey other => exact ⟨_, if_neg other⟩
    | rejected same rejects =>
        rw [if_pos same]
        exact (failsFor_write record true).fails reachable rejects

/-- A change of the store that a state gives out, and takes back when the change succeeds. -/
def guarded {σ : Type} (storeOf : σ → Except StorageError Store) (keep : σ → Store → σ)
    (change : Store → Except StorageError (α × Store)) : Action σ α := fun state =>
  match storeOf state with
  | .error error => .error error state
  | .ok store =>
      match change store with
      | .error error => .error error state
      | .ok (result, store) => .ok result (keep state store)

/-- A guarded change fails where no store is given out, and where the change of the store
fails. -/
theorem atomic_guarded {σ : Type} {holds : σ → Prop} {refuses : σ → StorageError → Prop}
    {storeOf : σ → Except StorageError Store} {change : Store → Except StorageError (α × Store)}
    (failsFor : FailsFor cause change)
    (reachable : ∀ {state store}, holds state → storeOf state = .ok store → store.Reachable)
    (refuses_iff : ∀ state error, refuses state error ↔
      match storeOf state with
      | .error other => other = error
      | .ok store => cause store error)
    (keep : σ → Store → σ) : Atomic holds refuses (guarded storeOf keep change) where
  unchanged := by
    intro state error after failed
    unfold guarded at failed
    split at failed
    · cases failed
      rfl
    · split at failed
      · cases failed
        rfl
      · contradiction
  caused := by
    intro state error after held failed
    rw [refuses_iff]
    unfold guarded at failed
    cases opened : storeOf state with
    | error other =>
        rw [opened] at failed
        cases failed
        rfl
    | ok store =>
        simp only [opened] at failed
        split at failed
        · rename_i outcome
          cases failed
          exact failsFor.caused (reachable held opened) outcome
        · contradiction
  fails := by
    intro state error held refused
    rw [refuses_iff] at refused
    cases opened : storeOf state with
    | error other => exact ⟨other, state, by rw [guarded, opened]⟩
    | ok store =>
        rw [opened] at refused
        rcases failsFor.fails (reachable held opened) refused with ⟨other, failed⟩
        exact ⟨other, state, by simp only [guarded, opened, failed]⟩

theorem atomic_replacing {change : Store → Except StorageError (α × Store)}
    (failsFor : FailsFor cause change) : Atomic Store.Reachable cause (replacing change) := by
  have whole : replacing change = guarded .ok (fun _ store => store) change := by
    funext store
    cases outcome : change store <;> simp only [replacing, guarded, outcome]
  rw [whole]
  apply atomic_guarded failsFor
  · rintro store _ reachable ⟨⟩
    exact reachable
  · exact fun store error => Iff.rfl

end Store

/-! ## Transactions -/

namespace Transaction

/-- Why a transaction refuses a change: it is for reading, or there is a cause in its
store. -/
inductive Refuses (cause : Store → StorageError → Prop) (transaction : Transaction) :
    StorageError → Prop
  | readOnly (mode : transaction.mode = .readOnly) : Refuses cause transaction .readOnly
  | store {error : StorageError} (mode : transaction.mode = .readWrite)
      (caused : cause transaction.store error) : Refuses cause transaction error

/-- The store of a transaction that may write. -/
def writableStore (transaction : Transaction) : Except StorageError Store :=
  match transaction.mode with
  | .readOnly => .error .readOnly
  | .readWrite => .ok transaction.store

theorem change_eq {α : Type} (run : Store → Except StorageError (α × Store)) :
    change run =
      Store.guarded writableStore (fun transaction store => { transaction with store }) run := by
  funext ⟨name, mode, store⟩
  cases mode <;> rfl

theorem atomic_change {α : Type} {cause : Store → StorageError → Prop}
    {run : Store → Except StorageError (α × Store)} (failsFor : Store.FailsFor cause run) :
    Atomic (Holds Store.Reachable) (Refuses cause) (change run) := by
  rw [change_eq]
  apply Store.atomic_guarded failsFor
  · rintro ⟨name, mode, store⟩ opened reachable given
    cases mode <;> cases given
    exact reachable
  · rintro ⟨name, mode, store⟩ error
    cases mode with
    | readOnly =>
        constructor
        · rintro (_ | ⟨⟨⟩, _⟩)
          rfl
        · rintro ⟨⟩
          exact .readOnly rfl
    | readWrite =>
        constructor
        · rintro (⟨⟨⟩⟩ | ⟨_, caused⟩)
          exact caused
        · exact .store rfl

end Transaction

/-! ## Cursors -/

namespace Cursor

/-- Why a cursor refuses to change its record: it stands at none, or its transaction
refuses the change. -/
inductive Refuses (cause : Key → Store → StorageError → Prop) (cursor : Cursor) :
    StorageError → Prop
  | noCurrentRecord (current : cursor.current = none) :
      Refuses cause cursor (.internal .noCurrentRecord)
  | transaction {key : Key} {error : StorageError} (current : cursor.current = some key)
      (refuses : cursor.transaction.Refuses (cause key) error) : Refuses cause cursor error

theorem atomic_inTransaction {α : Type} {cause : Transaction → StorageError → Prop}
    {action : Action Transaction α}
    (atomic : Atomic (Transaction.Holds Store.Reachable) cause action) :
    Atomic (Holds Store.Reachable) (fun cursor => cause cursor.transaction)
      (inTransaction action) where
  unchanged := by
    intro cursor error after failed
    unfold inTransaction at failed
    split at failed
    · contradiction
    · rename_i outcome
      cases failed
      rw [atomic.unchanged outcome]
  caused := by
    intro cursor error after reachable failed
    unfold inTransaction at failed
    split at failed
    · contradiction
    · rename_i outcome
      cases failed
      exact atomic.caused reachable outcome
  fails := by
    intro cursor error reachable caused
    obtain ⟨other, after, failed⟩ := atomic.fails reachable caused
    exact ⟨other, _, by rw [inTransaction, failed]⟩

/-- Changes the record that a cursor stands at. -/
def atCurrent {α : Type} (change : Key → Action Transaction α) (finish : Cursor → Cursor) :
    Action Cursor Unit := fun cursor =>
  match cursor.current with
  | none => .error (.internal .noCurrentRecord) cursor
  | some key =>
      match inTransaction (change key) cursor with
      | .ok _ cursor => .ok () (finish cursor)
      | .error error cursor => .error error cursor

theorem delete_eq : delete = atCurrent Transaction.delete ({ · with current := none }) := by
  funext cursor
  unfold delete atCurrent
  cases cursor.current with
  | none => rfl
  | some key =>
      dsimp only
      cases inTransaction (Transaction.delete key) cursor <;> rfl

theorem update_eq (record : Record) :
    update record = atCurrent (fun key => Transaction.change (replace key record)) id := by
  funext cursor
  unfold update atCurrent
  cases cursor.current with
  | none => rfl
  | some key =>
      dsimp only
      cases inTransaction (Transaction.change (replace key record)) cursor <;> rfl

/-- What a cursor does to the record that it stands at fails as the transaction does,
and of having no record. -/
theorem atomic_atCurrent {α : Type} {cause : Key → Store → StorageError → Prop}
    {change : Key → Action Transaction α} (finish : Cursor → Cursor)
    (atomic : ∀ key, Atomic (Transaction.Holds Store.Reachable)
      (Transaction.Refuses (cause key)) (change key)) :
    Atomic (Holds Store.Reachable) (Refuses cause) (atCurrent change finish) where
  unchanged := by
    intro cursor error after failed
    unfold atCurrent at failed
    split at failed
    · cases failed
      rfl
    · rename_i key _
      split at failed
      · contradiction
      · rename_i outcome
        cases failed
        exact (atomic_inTransaction (atomic key)).unchanged outcome
  caused := by
    intro cursor error after reachable failed
    unfold atCurrent at failed
    split at failed
    · rename_i current
      cases failed
      exact .noCurrentRecord current
    · rename_i key current
      split at failed
      · contradiction
      · rename_i outcome
        cases failed
        exact .transaction current ((atomic_inTransaction (atomic key)).caused reachable outcome)
  fails := by
    intro cursor error reachable refuses
    cases refuses with
    | noCurrentRecord current => exact ⟨_, cursor, by rw [atCurrent, current]⟩
    | transaction current refuses =>
        obtain ⟨other, after, failed⟩ :=
          (atomic_inTransaction (atomic _)).fails reachable refuses
        exact ⟨other, after, by simp only [atCurrent, current, failed]⟩

theorem atomic_delete :
    Atomic (Holds Store.Reachable) (Refuses fun _ _ _ => False) delete := by
  rw [delete_eq]
  exact atomic_atCurrent _ fun key => Transaction.atomic_change (Store.failsFor_ok (·.delete key))

theorem atomic_update (record : Record) :
    Atomic (Holds Store.Reachable) (Refuses fun key => Store.RejectsReplacement key record)
      (update record) := by
  rw [update_eq]
  exact atomic_atCurrent id fun key => Transaction.atomic_change (Store.failsFor_replace key record)

end Cursor

/-! ## Databases -/

namespace Database

/-- Why a database refuses to change a store: there is none of the name, or there is a
cause in it. -/
inductive Refuses (name : String) (cause : Store → StorageError → Prop) (database : Database) :
    StorageError → Prop
  | storeNotFound (absent : database.stores.get? name = none) :
      Refuses name cause database (.storeNotFound name)
  | store {store : Store} {error : StorageError} (found : database.stores.get? name = some store)
      (caused : cause store error) : Refuses name cause database error

/-- The store of a name. -/
def namedStore (name : String) (database : Database) : Except StorageError Store :=
  match database.stores.get? name with
  | none => .error (.storeNotFound name)
  | some store => .ok store

theorem changeStore_eq {α : Type} (name : String)
    (change : Store → Except StorageError (α × Store)) :
    changeStore name change = Store.guarded (namedStore name)
      (fun database store => { database with stores := database.stores.insert name store })
      change := by
  funext database
  rw [changeStore, Store.guarded, namedStore]
  cases database.stores.get? name <;> rfl

theorem atomic_changeStore {α : Type} {cause : Store → StorageError → Prop} {name : String}
    {change : Store → Except StorageError (α × Store)} (failsFor : Store.FailsFor cause change) :
    Atomic (All Store.Reachable) (Refuses name cause) (changeStore name change) := by
  rw [changeStore_eq]
  apply Store.atomic_guarded failsFor
  · intro database store reachable given
    rw [namedStore] at given
    cases found : database.stores.get? name with
    | none =>
        rw [found] at given
        contradiction
    | some held =>
        rw [found] at given
        cases given
        exact reachable name store found
  · intro database error
    rw [namedStore]
    cases found : database.stores.get? name with
    | none =>
        constructor
        · rintro (_ | ⟨held, _⟩)
          · rfl
          · simp [found] at held
        · rintro ⟨⟩
          exact .storeNotFound found
    | some store =>
        constructor
        · rintro (absent | ⟨held, caused⟩)
          · simp [found] at absent
          · cases found.symm.trans held
            exact caused
        · exact .store found

/-- Why a store is not made: there is one of its name. -/
def Stored (name : String) (database : Database) (error : StorageError) : Prop :=
  database.stores.get? name ≠ none ∧ error = .storeExists name

theorem atomic_createStore (name : String) (primaryKey : PrimaryKey) :
    Atomic (All Store.Reachable) (Stored name) (createStore name primaryKey) where
  unchanged := by
    intro database error after failed
    unfold createStore at failed
    split at failed
    · cases failed
      rfl
    · contradiction
  caused := by
    intro database error after _ failed
    unfold createStore SortedMap.contains at failed
    split at failed
    · rename_i present
      cases failed
      exact ⟨Option.isSome_iff_ne_none.mp present, rfl⟩
    · contradiction
  fails := by
    rintro database error _ ⟨present, rfl⟩
    refine ⟨.storeExists name, database, ?_⟩
    rw [createStore, SortedMap.contains, if_pos (Option.isSome_iff_ne_none.mpr present)]

/-- Drops a store, and fails afterwards if there was none. -/
def droppingStore (name : String) : Action Database Unit := do
  let database ← get
  set { database with stores := database.stores.erase name }
  if (database.stores.get? name).isNone then
    throw (.storeNotFound name)

/-- Nothing is dropped where there is no store of the name. -/
theorem droppingStore_eq (name : String) : droppingStore name = deleteStore name := by
  funext database
  rw [droppingStore, bind_of_ok (get_eq database), deleteStore, SortedMap.contains]
  cases found : database.stores.get? name with
  | none =>
      rw [SortedMap.erase_of_get? found]
      rfl
  | some store => rfl

/-- Why a store is not dropped: there is none of its name. -/
def Unstored (name : String) (database : Database) (error : StorageError) : Prop :=
  database.stores.get? name = none ∧ error = .storeNotFound name

theorem atomic_deleteStore (name : String) :
    Atomic (All Store.Reachable) (Unstored name) (deleteStore name) where
  unchanged := by
    intro database error after failed
    unfold deleteStore at failed
    split at failed
    · contradiction
    · cases failed
      rfl
  caused := by
    intro database error after _ failed
    unfold deleteStore SortedMap.contains at failed
    split at failed
    · contradiction
    · rename_i absent
      cases failed
      exact ⟨by simpa using absent, rfl⟩
  fails := by
    rintro database error _ ⟨absent, rfl⟩
    refine ⟨.storeNotFound name, database, ?_⟩
    simp [deleteStore, SortedMap.contains, absent]

end Database

/-! ## The storage -/

namespace Storage

/-- Why a transaction of a single call fails: there is no store of the name, or the
call is refused. -/
inductive Refuses (name store : String) (mode : TransactionMode)
    (cause : Transaction → StorageError → Prop) (storage : Storage) : StorageError → Prop
  | storeNotFound (absent : (storage.database name).stores.get? store = none) :
      Refuses name store mode cause storage (.storeNotFound store)
  | transaction {found : Store} {error : StorageError}
      (stored : (storage.database name).stores.get? store = some found)
      (caused : cause ⟨store, mode, found⟩ error) : Refuses name store mode cause storage error

/-- Taking over a store as it was changes nothing. -/
theorem commit_begun {storage : Storage} {name store : String} {mode : TransactionMode}
    {found : Store} (stored : (storage.database name).stores.get? store = some found) :
    storage.commit name ⟨store, mode, found⟩ = storage := by
  simp only [commit, keep, SortedMap.insert_of_get? stored]
  have opened : storage.databases.get? name = some (storage.database name) := by
    unfold database at stored ⊢
    cases present : storage.databases.get? name with
    | none =>
        rw [present] at stored
        contradiction
    | some database => rfl
  rw [SortedMap.insert_of_get? opened]

theorem atomic_transact {α : Type} {cause : Transaction → StorageError → Prop}
    {action : Action Transaction α}
    (atomic : Atomic (Transaction.Holds Store.Reachable) cause action) (name store : String)
    (mode : TransactionMode) :
    Atomic (All Store.Reachable) (Refuses name store mode cause)
      (transact name store mode action) where
  unchanged := by
    intro storage error after failed
    unfold transact begin at failed
    cases stored : (storage.database name).stores.get? store with
    | none =>
        simp only [stored] at failed
        cases failed
        rfl
    | some found =>
        simp only [stored] at failed
        split at failed
        · contradiction
        · rename_i outcome
          cases failed
          rw [atomic.unchanged outcome]
          exact commit_begun stored
  caused := by
    intro storage error after reachable failed
    unfold transact begin at failed
    cases stored : (storage.database name).stores.get? store with
    | none =>
        simp only [stored] at failed
        cases failed
        exact .storeNotFound stored
    | some found =>
        simp only [stored] at failed
        split at failed
        · contradiction
        · rename_i outcome
          cases failed
          exact .transaction stored
            (atomic.caused (reachable.found name store found stored) outcome)
  fails := by
    intro storage error reachable refuses
    cases refuses with
    | storeNotFound absent =>
        exact ⟨.storeNotFound store, storage, by simp only [transact, begin, absent]⟩
    | transaction stored caused =>
        obtain ⟨other, after, failed⟩ :=
          atomic.fails (reachable.found name store _ stored) caused
        exact ⟨other, storage.commit name after, by simp only [transact, begin, stored, failed]⟩

end Storage

/-- A call on a store, in a transaction, under a cursor or in an upgrade fails exactly where
there is a reason against it, and changes nothing then. -/
theorem failed_calls_change_nothing (record : Record) (overwrite : Bool) (key : Key)
    (name store index : String) (primaryKey : PrimaryKey) (descriptor : IndexDescriptor)
    (mode : TransactionMode) :
    (Store.writing record overwrite = Store.replacing (·.write record overwrite) ∧
      Atomic Store.Reachable (·.Rejects record overwrite) (Store.writing record overwrite) ∧
      Store.dropping store index =
        Store.replacing (fun held => (held.deleteIndex store index).map ((), ·)) ∧
      Atomic Store.Reachable (·.Unindexed store index) (Store.dropping store index) ∧
      Database.droppingStore store = Database.deleteStore store) ∧
    (Atomic (Transaction.Holds Store.Reachable) (Transaction.Refuses (·.Rejects record false))
        (Transaction.add record) ∧
      Atomic (Transaction.Holds Store.Reachable) (Transaction.Refuses (·.Rejects record true))
        (Transaction.put record) ∧
      Atomic (Transaction.Holds Store.Reachable) (Transaction.Refuses fun _ _ => False)
        (Transaction.delete key)) ∧
    (Atomic (Cursor.Holds Store.Reachable) (Cursor.Refuses fun _ _ _ => False) Cursor.delete ∧
      Atomic (Cursor.Holds Store.Reachable)
        (Cursor.Refuses fun key => Store.RejectsReplacement key record) (Cursor.update record)) ∧
    (Atomic (Database.All Store.Reachable) (Database.Stored store)
        (Database.createStore store primaryKey) ∧
      Atomic (Database.All Store.Reachable) (Database.Unstored store)
        (Database.deleteStore store) ∧
      Atomic (Database.All Store.Reachable)
        (Database.Refuses store (·.Unindexable store descriptor))
        (Database.createIndex store descriptor) ∧
      Atomic (Database.All Store.Reachable) (Database.Refuses store (·.Unindexed store index))
        (Database.deleteIndex store index) ∧
      Atomic (Database.All Store.Reachable) (Database.Refuses store (·.Rejects record false))
        (Database.add store record)) ∧
    (Atomic (Storage.All Store.Reachable)
        (Storage.Refuses name store mode (Transaction.Refuses (·.Rejects record false)))
        (Storage.transact name store mode (Transaction.add record)) ∧
      Atomic (Storage.All Store.Reachable)
        (Storage.Refuses name store mode (Transaction.Refuses (·.Rejects record true)))
        (Storage.transact name store mode (Transaction.put record)) ∧
      Atomic (Storage.All Store.Reachable)
        (Storage.Refuses name store mode (Transaction.Refuses fun _ _ => False))
        (Storage.transact name store mode (Transaction.delete key))) := by
  have writes := Store.failsFor_write record
  have deletes := Store.failsFor_ok (Store.delete · key)
  have builds := (Store.failsFor_createIndex store descriptor).map ((), ·)
  have drops := (Store.failsFor_deleteIndex store index).map ((), ·)
  have adds := Transaction.atomic_change (writes false)
  have puts := Transaction.atomic_change (writes true)
  have removes := Transaction.atomic_change deletes
  refine ⟨⟨Store.writing_eq record overwrite, ?_, Store.dropping_eq store index, ?_,
    Database.droppingStore_eq store⟩, ⟨adds, puts, removes⟩,
    ⟨Cursor.atomic_delete, Cursor.atomic_update record⟩,
    ⟨Database.atomic_createStore store primaryKey, Database.atomic_deleteStore store,
      Database.atomic_changeStore builds, Database.atomic_changeStore drops,
      Database.atomic_changeStore (writes false)⟩,
    ⟨Storage.atomic_transact adds name store mode, Storage.atomic_transact puts name store mode,
      Storage.atomic_transact removes name store mode⟩⟩
  · rw [Store.writing_eq]
    exact Store.atomic_replacing (writes overwrite)
  · rw [Store.dropping_eq]
    exact Store.atomic_replacing drops

/-- A record that only the last of three unique indexes refuses is not written, neither
in the store step by step nor in a transaction. -/
theorem failed_calls_change_nothing_at_last_index :
    let row (id a b c : Nat) : Record :=
      .ofList [("id", .ofInt id), ("a", .ofInt a), ("b", .ofInt b), ("c", .ofInt c)]
    let store := Store.ofHistory { field := "id" } [
      .createIndex "s" ⟨"a", true, .single "a"⟩, .createIndex "s" ⟨"b", true, .single "b"⟩,
      .createIndex "s" ⟨"c", true, .single "c"⟩, .put (row 1 1 1 1), .put (row 2 2 2 2)]
    let transaction : Transaction := ⟨"s", .readWrite, store⟩
    store.Reachable ∧
      (∃ error after, Store.writing (row 1 3 3 2) true store = .error error after ∧
        store.Rejects (row 1 3 3 2) true error ∧ after = store) ∧
      ∃ error after, Transaction.put (row 1 3 3 2) transaction = .error error after ∧
        error.isConstraint = true ∧ after = transaction := by
  intro row store transaction
  have reachable : store.Reachable := Store.reachable_ofHistory _ _
  have stopped : (failure? (Store.writing (row 1 3 3 2) true store)).isSome = true := by
    decide +kernel
  have refused : (failure? (Transaction.put (row 1 3 3 2) transaction)).any
      (·.isConstraint) = true := by
    decide +kernel
  obtain ⟨⟨_, writes, _⟩, ⟨_, puts, _⟩, _⟩ := failed_calls_change_nothing (row 1 3 3 2) true
    (.ofInt 1) "main" "s" "c" { field := "id" } ⟨"c", true, .single "c"⟩ .readWrite
  refine ⟨reachable, ?_, ?_⟩
  · cases outcome : Store.writing (row 1 3 3 2) true store with
    | ok value after => simp [outcome, failure?] at stopped
    | error error after =>
        exact ⟨error, after, rfl, writes.caused reachable outcome, writes.unchanged outcome⟩
  · cases outcome : Transaction.put (row 1 3 3 2) transaction with
    | ok value after => simp [outcome, failure?] at refused
    | error error after =>
        rw [outcome] at refused
        exact ⟨error, after, rfl, refused, puts.unchanged outcome⟩

end RecordBase
