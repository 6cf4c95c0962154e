import RecordBase.Schema.Validation

/-!
# Catalogs

A catalog holds valid record types by the names of their stores. Registering
a record type for a store that has one replaces it.
-/

namespace RecordBase

/-- Record types by store name. -/
structure Catalog where
  types : SortedMap String RecordType

namespace Catalog

/-- The catalog of no record type. -/
def empty : Catalog :=
  ⟨.empty⟩

/-- Adds a record type, if it is valid. -/
def register (catalog : Catalog) (type : RecordType) : Except SchemaError Catalog := do
  type.validate
  return ⟨catalog.types.insert type.storeName type⟩

/-- The record type of a store. -/
def get? (catalog : Catalog) (store : String) : Option RecordType :=
  catalog.types.get? store

/-- The record types in the order of their store names. -/
def toList (catalog : Catalog) : List RecordType :=
  catalog.types.values

/-- How many record types there are. -/
def size (catalog : Catalog) : Nat :=
  catalog.types.size

/-- Whether there is no record type. -/
def isEmpty (catalog : Catalog) : Bool :=
  catalog.types.isEmpty

end Catalog

end RecordBase
