import RecordBase.Schema.Catalog
import RecordBase.Storage.Database

/-!
# Synchronization

An upgrade brings the stores of a database in line with a catalog. Stores and
indexes that are declared and missing are made. An index that was declared
differently is built anew. What is not declared is left alone, and so is the
primary key of a store that is there.
-/

namespace RecordBase

namespace Database

/-- Brings one index in line, given the indexes that the store had. -/
def syncIndex (store : String) (present : List IndexDescriptor) (index : IndexDescriptor) :
    Action Database Unit :=
  match present.find? (·.name == index.name) with
  | some found =>
      if found.unique = index.unique ∧ found.keyPath = index.keyPath then
        return ()
      else do
        deleteIndex store index.name
        createIndex store index
  | none => createIndex store index

/-- Brings one store in line, given the names of the stores that there
were. -/
def syncStore (present : List String) (type : RecordType) : Action Database Unit := do
  if !present.contains type.storeName then
    createStore type.storeName type.primaryKey
  let indexes ← indexes type.storeName
  type.indexes.forM (syncIndex type.storeName indexes)

/-- Brings a database in line with a catalog, store by store. -/
def synchronize (catalog : Catalog) : Action Database Unit := fun database =>
  catalog.toList.forM (syncStore database.storeNames) database

end Database

end RecordBase
