import RecordBase.Storage.Store

/-!
# Databases

A database is a set of stores under a version. Stores and indexes come and go
only while the database is upgraded to a higher version.
-/

namespace RecordBase

/-- The stores of a database. -/
structure Database where
  /-- The version of the last upgrade, `0` before the first. -/
  version : Nat := 0
  stores : SortedMap String Store := .empty

namespace Database

/-- Runs a change of one store. -/
def changeStore {α : Type} (name : String)
    (change : Store → Except StorageError (α × Store)) : Action Database α := fun database =>
  match database.stores.get? name with
  | none => .error (.storeNotFound name) database
  | some store =>
      match change store with
      | .error error => .error error database
      | .ok (result, store) =>
          .ok result { database with stores := database.stores.insert name store }

/-- The names of the stores in order. -/
def storeNames (database : Database) : List String :=
  database.stores.keys

/-- Adds an empty store. -/
def createStore (name : String) (primaryKey : PrimaryKey) : Action Database Unit :=
  fun database =>
    if database.stores.contains name then
      .error (.storeExists name) database
    else
      .ok () { database with stores := database.stores.insert name { primaryKey } }

/-- Drops a store with all its records. -/
def deleteStore (name : String) : Action Database Unit := fun database =>
  if database.stores.contains name then
    .ok () { database with stores := database.stores.erase name }
  else
    .error (.storeNotFound name) database

/-- The declarations of the indexes of a store. -/
def indexes (name : String) : Action Database (List IndexDescriptor) :=
  changeStore name fun store => .ok (store.descriptors, store)

/-- Adds an index to a store. -/
def createIndex (name : String) (descriptor : IndexDescriptor) : Action Database Unit :=
  changeStore name fun store => (store.createIndex name descriptor).map ((), ·)

/-- Drops an index of a store. -/
def deleteIndex (name index : String) : Action Database Unit :=
  changeStore name fun store => (store.deleteIndex name index).map ((), ·)

/-- Adds a record to a store. -/
def add (name : String) (record : Record) : Action Database Value :=
  changeStore name (·.add record)

end Database

end RecordBase
