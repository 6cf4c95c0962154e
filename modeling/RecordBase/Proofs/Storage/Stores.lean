import RecordBase.Proofs.Traversal.Lasting
import RecordBase.Storage.Basic
import RecordBase.Storage.Synchronization

/-!
# Properties of all stores

What a transaction keeps of its store it keeps of all stores of the storage, and
what changes of single stores keep is kept when a database is brought in line with
a catalog and when it is opened.
-/

namespace RecordBase

open RecordBase.Action

variable {holds : Store → Prop}

/-- All stores of a database have a property. -/
def Database.All (holds : Store → Prop) (database : Database) : Prop :=
  ∀ name store, database.stores.get? name = some store → holds store

/-- All stores of all databases have a property. -/
def Storage.All (holds : Store → Prop) (storage : Storage) : Prop :=
  ∀ name database, storage.databases.get? name = some database → database.All holds

namespace Database

variable {database : Database}

theorem All.insert (all : database.All holds) {store : Store} (added : holds store)
    (name : String) : All holds { database with stores := database.stores.insert name store } := by
  intro other found
  simp only [SortedMap.get?_insert]
  split
  · rintro ⟨⟩
    exact added
  · exact all other found

theorem keeps_changeStore {α : Type} {name : String}
    {change : Store → Except StorageError (α × Store)}
    (keeps : ∀ {store result changed}, holds store → change store = .ok (result, changed) →
      holds changed) : Keeps (All holds) (changeStore name change) := by
  intro database all
  unfold changeStore
  cases found : database.stores.get? name with
  | none => exact all
  | some store =>
      dsimp only
      cases outcome : change store with
      | error error => exact all
      | ok changed => exact all.insert (keeps (all name store found) outcome) name

end Database

namespace Storage

variable {storage : Storage} {database : Database}

@[simp]
theorem database_keep (storage : Storage) (name : String) (database : Database) :
    (storage.keep name database).database name = database := by
  rw [Storage.keep, Storage.database, SortedMap.get?_insert_self, Option.getD_some]

theorem get?_stores_keep (storage : Storage) (name storeName : String) (version : Nat)
    (stores : SortedMap String Store) (store : Store) :
    ((storage.keep name ⟨version, stores.insert storeName store⟩).database name).stores.get?
      storeName = some store := by
  rw [database_keep]
  exact SortedMap.get?_insert_self stores storeName store

theorem database_keep_of_ne (storage : Storage) (database : Database) {name other : String}
    (different : name ≠ other) :
    (storage.keep name database).database other = storage.database other := by
  rw [Storage.keep, Storage.database, SortedMap.get?_insert_of_ne _ _ different, Storage.database]

theorem all_empty : All holds {} := by
  intro name database found
  cases found

theorem All.found (all : storage.All holds) (name : String) :
    (storage.database name).All holds := by
  unfold Storage.database
  cases found : storage.databases.get? name with
  | none =>
      intro store held stored
      cases stored
  | some database => exact all name database found

theorem All.keep (all : storage.All holds) (kept : database.All holds) (name : String) :
    (storage.keep name database).All holds := by
  intro other found
  simp only [Storage.keep, SortedMap.get?_insert]
  split
  · rintro ⟨⟩
    exact kept
  · exact all other found

theorem All.commit (all : storage.All holds) {transaction : Transaction}
    (left : transaction.Holds holds) (name : String) :
    (storage.commit name transaction).All holds :=
  all.keep ((all.found name).insert left _) name

/-- What a transaction keeps of its store it keeps of all stores. -/
theorem keeps_transact {α : Type} {action : Action Transaction α} {name store : String}
    {mode : TransactionMode} (keeps : Keeps (Transaction.Holds holds) action) :
    Keeps (All holds) (transact name store mode action) := by
  intro storage all
  unfold transact begin
  cases found : (storage.database name).stores.get? store with
  | none => exact all
  | some held =>
      have begun : Transaction.Holds holds ⟨store, mode, held⟩ := all.found name store held found
      dsimp only
      rcases keeps.outcome begun with ⟨_, _, outcome, kept⟩ | ⟨_, _, outcome, kept⟩
      · rw [outcome]
        exact all.commit kept name
      · rw [outcome]
        exact all.commit kept name

/-- The store of a name is there and has a property. -/
def Has (name storeName : String) (holds : Store → Prop) (storage : Storage) : Prop :=
  ∃ store, (storage.database name).stores.get? storeName = some store ∧ holds store

/-- A property of storages that no transaction takes away which only writes records. -/
def Lasting (within : Storage → Prop) : Prop :=
  ∀ {α : Type} {action : Action Transaction α} (name store : String) (mode : TransactionMode),
    (∀ kept, Transaction.Lasting kept → Keeps kept action) →
      Keeps within (transact name store mode action)

theorem lasting_all (lasting : Store.Lasting holds) : Lasting (All holds) :=
  fun _ _ _ keeps => keeps_transact (keeps _ (Transaction.lasting_holds lasting))

/-- What lasts in a store lasts in the store of a name: a transaction stays with the store
that it is on. -/
theorem lasting_has (lasting : Store.Lasting holds) (name storeName : String) :
    Lasting (Has name storeName holds) := by
  rintro α action used usedStore mode keeps storage ⟨store, stored, before⟩
  unfold transact begin
  cases found : (storage.database used).stores.get? usedStore with
  | none => exact ⟨store, stored, before⟩
  | some held =>
      have committed : ∀ transaction : Transaction, transaction.storeName = usedStore →
          (holds held → holds transaction.store) →
          Has name storeName holds (storage.commit used transaction) := by
        rintro transaction rfl kept
        unfold Has commit
        by_cases sameDatabase : used = name
        · subst sameDatabase
          rw [database_keep]
          by_cases sameStore : transaction.storeName = storeName
          · subst sameStore
            obtain rfl : held = store := Option.some.inj (found.symm.trans stored)
            exact ⟨transaction.store, SortedMap.get?_insert_self _ _ _, kept before⟩
          · exact ⟨store, (SortedMap.get?_insert_of_ne _ _ sameStore).trans stored, before⟩
        · rw [database_keep_of_ne _ _ sameDatabase]
          exact ⟨store, stored, before⟩
      have stays := keeps _ (Transaction.lasting_named (lasting.imp (holds held)) usedStore)
      have begun : (⟨usedStore, mode, held⟩ : Transaction).storeName = usedStore ∧
          (holds held → holds held) := ⟨rfl, id⟩
      dsimp only
      rcases stays.outcome begun with
        ⟨_, _, outcome, named, kept⟩ | ⟨_, _, outcome, named, kept⟩
      · rw [outcome]
        exact committed _ named kept
      · rw [outcome]
        exact committed _ named kept

end Storage

/-! ## Upgrades -/

namespace Database

theorem map_unit_eq_ok_iff {result : Except StorageError Store} {nothing : Unit}
    {changed : Store} :
    result.map (fun store => ((), store)) = .ok (nothing, changed) ↔ result = .ok changed := by
  cases result <;> simp [Except.map]

theorem map_unit_eq_error_iff {result : Except StorageError Store} {error : StorageError} :
    result.map (fun store => ((), store)) = .error error ↔ result = .error error := by
  cases result <;> simp [Except.map]

theorem keeps_createStore (name : String) (primaryKey : PrimaryKey) :
    Keeps (All Store.Reachable) (createStore name primaryKey) := by
  intro database all
  unfold createStore
  split
  · exact all
  · exact all.insert (.empty primaryKey) name

theorem keeps_createIndex (name : String) (descriptor : IndexDescriptor) :
    Keeps (All Store.Reachable) (createIndex name descriptor) := by
  apply keeps_changeStore
  intro store result changed reachable created
  have succeeded := map_unit_eq_ok_iff.mp created
  exact @Store.Reachable.of_run _ _ reachable (.createIndex name descriptor) succeeded

theorem keeps_deleteIndex (name index : String) :
    Keeps (All Store.Reachable) (deleteIndex name index) := by
  apply keeps_changeStore
  intro store result changed reachable deleted
  have succeeded := map_unit_eq_ok_iff.mp deleted
  exact @Store.Reachable.of_run _ _ reachable (.deleteIndex name index) succeeded

theorem keeps_indexes (name : String) : Keeps (All holds) (indexes name) := by
  apply keeps_changeStore
  intro store result changed before listed
  obtain rfl : store = changed := congrArg Prod.snd (Except.ok.inj listed)
  exact before

theorem keeps_syncIndex (name : String) (present : List IndexDescriptor)
    (index : IndexDescriptor) : Keeps (All Store.Reachable) (syncIndex name present index) := by
  unfold syncIndex
  split
  · exact Keeps.ite (keeps_pure ())
      ((keeps_deleteIndex name index.name).bind fun _ => keeps_createIndex name index)
  · exact keeps_createIndex name index

theorem keeps_syncStore (present : List String) (type : RecordType) :
    Keeps (All Store.Reachable) (syncStore present type) := by
  have indexed : Keeps (All Store.Reachable) (do
      let indexes ← indexes type.storeName
      type.indexes.forM (syncIndex type.storeName indexes)) :=
    (keeps_indexes type.storeName).bind fun indexes =>
      Keeps.forM (keeps_syncIndex type.storeName indexes) type.indexes
  exact Keeps.ite
    ((keeps_createStore type.storeName type.primaryKey).bind fun _ => indexed) indexed

theorem keeps_synchronize (catalog : Catalog) :
    Keeps (All Store.Reachable) (synchronize catalog) := by
  intro database all
  exact Keeps.forM (keeps_syncStore database.storeNames) catalog.toList database all

end Database

/-! ## Openings -/

namespace Storage

/-- The version that an upgrade of a database is told. -/
def previous? (storage : Storage) (name : String) : Option Nat :=
  if (storage.database name).version = 0 then none else some (storage.database name).version

/-- What an opening comes to when its upgrade has run. -/
def opened {ρ : Type} (storage : Storage) (name : String) (version : Nat) :
    ρ × EStateM.Result StorageError Database Unit →
      Option ρ × EStateM.Result StorageError Storage Handle
  | (report, .ok _ upgraded) =>
      (some report, .ok ⟨name, version⟩ (storage.keep name { upgraded with version }))
  | (report, .error error _) =>
      (some report, .error error (storage.keep name (storage.database name)))

/-- How an opening ends: below the version of the database it is refused, at that version
nothing is done, and above it the upgrade runs and succeeds or fails. -/
theorem openDatabase_cases {ρ : Type} (storage : Storage) (name : String) (version : Nat)
    (upgrade : Upgrade ρ) :
    let found := storage.database name
    let ran := upgrade (storage.previous? name) version found
    (version < found.version ∧ storage.openDatabase name version upgrade =
      (none, .error (.version version found.version) (storage.keep name found))) ∨
    (version = found.version ∧ storage.openDatabase name version upgrade =
      (none, .ok ⟨name, version⟩ (storage.keep name found))) ∨
    (found.version < version ∧ ∃ upgraded, ran.2 = .ok () upgraded ∧
      storage.openDatabase name version upgrade =
        (some ran.1, .ok ⟨name, version⟩ (storage.keep name { upgraded with version }))) ∨
    (found.version < version ∧ ∃ error given, ran.2 = .error error given ∧
      storage.openDatabase name version upgrade =
        (some ran.1, .error error (storage.keep name found))) := by
  intro found ran
  rcases Nat.lt_trichotomy version found.version with below | same | above
  · exact .inl ⟨below, if_pos below⟩
  · refine .inr (.inl ⟨same, ?_⟩)
    have notBelow : ¬ version < found.version := Nat.not_lt.mpr (Nat.le_of_eq same.symm)
    have notAbove : ¬ found.version < version := Nat.not_lt.mpr (Nat.le_of_eq same)
    exact (if_neg notBelow).trans (if_neg notAbove)
  · have raised : storage.openDatabase name version upgrade = storage.opened name version ran :=
      (if_neg (Nat.not_lt.mpr (Nat.le_of_lt above))).trans (if_pos above)
    rw [raised]
    obtain ⟨report, outcome⟩ := ran
    cases outcome with
    | ok nothing upgraded => exact .inr (.inr (.inl ⟨above, upgraded, rfl, rfl⟩))
    | error error given => exact .inr (.inr (.inr ⟨above, error, given, rfl, rfl⟩))

/-- An upgrade that keeps a property of all stores of its database keeps it in
the storage. -/
theorem All.openDatabase {storage : Storage} (all : storage.All holds) {ρ : Type}
    {upgrade : Upgrade ρ} (keeps : ∀ previous version (database : Database),
      database.All holds → (left (upgrade previous version database).2).All holds)
    (name : String) (version : Nat) :
    (left (storage.openDatabase name version upgrade).2).All holds := by
  have found := all.found name
  have unchanged := all.keep found name
  rcases openDatabase_cases storage name version upgrade with ⟨_, ended⟩ | ⟨_, ended⟩ |
    ⟨_, upgraded, ran, ended⟩ | ⟨_, error, given, _, ended⟩
  · rw [ended]
    exact unchanged
  · rw [ended]
    exact unchanged
  · have kept := keeps (storage.previous? name) version _ found
    rw [ran] at kept
    have raised : Database.All holds { upgraded with version } := kept
    rw [ended]
    exact all.keep raised name
  · rw [ended]
    exact unchanged

end Storage

end RecordBase
