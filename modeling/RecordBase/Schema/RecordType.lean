import RecordBase.Key.Path
import RecordBase.Schema.Field

/-!
# Record types

A record type declares one store: its name, the fields of its records, the
field that holds the primary key, and the indexes in the order in which a
query tries them.
-/

namespace RecordBase

/-- The field that holds the primary key, and whether keys are generated for
records that come without one. -/
structure PrimaryKey where
  field : String := "_id"
  autoIncrement : Bool := true
deriving DecidableEq

/-- A declared index. -/
structure IndexDescriptor where
  name : String
  /-- Whether no two records may share a key. -/
  unique : Bool := false
  keyPath : KeyPath
deriving DecidableEq

/-- The declaration of a store. -/
structure RecordType where
  storeName : String
  fields : SortedMap String Field := .empty
  primaryKey : PrimaryKey := {}
  indexes : List IndexDescriptor := []

namespace RecordType

/-- The field that holds the primary key. -/
def primaryField (type : RecordType) : String :=
  type.primaryKey.field

/-- The first declared index of a name. -/
def index? (type : RecordType) (name : String) : Option IndexDescriptor :=
  type.indexes.find? (·.name == name)

end RecordType

end RecordBase
