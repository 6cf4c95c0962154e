import RecordBase.Storage.Database
import RecordBase.Storage.Transaction

/-!
# Storage

A storage holds databases by name. Opening a database at a version above its
own upgrades it first. An upgrade that fails leaves nothing behind, and the
version stays what it was; opening below the version is refused.
-/

namespace RecordBase

/-- Databases by name. -/
structure Storage where
  databases : SortedMap String Database := .empty

/-- An open database. -/
structure Handle where
  name : String
  version : Nat

/-- What an upgrade does, given the version to start from, if there is one, and
the version to reach. It leaves a report beside the database. -/
abbrev Upgrade (ρ : Type) :=
  Option Nat → Nat → Database → ρ × EStateM.Result StorageError Database Unit

namespace Storage

/-- The database of a name; one that was never opened is empty. -/
def database (storage : Storage) (name : String) : Database :=
  (storage.databases.get? name).getD {}

/-- Puts a database in the place of the one of its name. -/
def keep (storage : Storage) (name : String) (database : Database) : Storage :=
  ⟨storage.databases.insert name database⟩

/-- Opens a database at a version, upgrading it if its own is lower. The report
of the upgrade comes with the result, if it ran. -/
def openDatabase {ρ : Type} (storage : Storage) (name : String) (version : Nat)
    (upgrade : Upgrade ρ) : Option ρ × EStateM.Result StorageError Storage Handle :=
  let found := storage.database name
  let handle : Handle := ⟨name, version⟩
  if version < found.version then
    (none, .error (.version version found.version) (storage.keep name found))
  else if found.version < version then
    let previous := if found.version = 0 then none else some found.version
    match upgrade previous version found with
    | (report, .ok _ upgraded) =>
        (some report, .ok handle (storage.keep name { upgraded with version }))
    | (report, .error error _) => (some report, .error error (storage.keep name found))
  else
    (none, .ok handle (storage.keep name found))

/-- Starts a transaction on a store. -/
def begin (storage : Storage) (name store : String) (mode : TransactionMode) :
    Except StorageError Transaction :=
  match (storage.database name).stores.get? store with
  | some found => .ok ⟨store, mode, found⟩
  | none => .error (.storeNotFound store)

/-- Takes over the store as a transaction left it. -/
def commit (storage : Storage) (name : String) (transaction : Transaction) : Storage :=
  let database := storage.database name
  storage.keep name
    { database with stores := database.stores.insert transaction.storeName transaction.store }

/-- Runs a transaction on a store. What it has written stays, also if it
fails in the end. -/
def transact {α : Type} (name store : String) (mode : TransactionMode)
    (action : Action Transaction α) : Action Storage α := fun storage =>
  match storage.begin name store mode with
  | .error error => .error error storage
  | .ok transaction =>
      match action transaction with
      | .ok result transaction => .ok result (storage.commit name transaction)
      | .error error transaction => .error error (storage.commit name transaction)

end Storage

end RecordBase
