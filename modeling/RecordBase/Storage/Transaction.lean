import RecordBase.Key.ScanSource
import RecordBase.Storage.Store

/-!
# Transactions

A transaction works on one store. Every write is in force at once, also when
a later one fails, and a transaction for reading refuses all writes.
-/

namespace RecordBase

/-- Whether a transaction may write. -/
inductive TransactionMode where
  | readOnly
  | readWrite
deriving DecidableEq

/-- A transaction with the store as it stands. -/
structure Transaction where
  storeName : String
  mode : TransactionMode
  store : Store

namespace Transaction

/-- Runs a change of the store, if the transaction may write. -/
def change {α : Type} (run : Store → Except StorageError (α × Store)) : Action Transaction α :=
  fun transaction =>
    match transaction.mode with
    | .readOnly => .error .readOnly transaction
    | .readWrite =>
        match run transaction.store with
        | .error error => .error error transaction
        | .ok (result, store) => .ok result { transaction with store }

/-- The record under a primary key. -/
def get? (transaction : Transaction) (key : Key) : Option Record :=
  transaction.store.get? key

/-- Adds a record of a new key. -/
def add (record : Record) : Action Transaction Value :=
  change (·.add record)

/-- Adds a record or replaces the one of its key. -/
def put (record : Record) : Action Transaction Value :=
  change (·.put record)

/-- Removes a record, if there is one. -/
def delete (key : Key) : Action Transaction (Option Record) :=
  change fun store => .ok (store.delete key)

end Transaction

end RecordBase
