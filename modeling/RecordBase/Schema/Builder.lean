import RecordBase.Schema.Validation

/-!
# Declaring record types

A record type is declared step by step, from a store without fields and
indexes. Declaring a field again replaces it, and so does a second primary
key; indexes add up in order. `build` hands the record type out if it is
valid.
-/

namespace RecordBase

namespace RecordType

/-- The record type of a store that declares nothing else. -/
def named (store : String) : RecordType :=
  { storeName := store }

/-- Says which field holds the primary key and whether it is generated. -/
def withPrimaryKey (type : RecordType) (field : String) (autoIncrement : Bool) : RecordType :=
  { type with primaryKey := ⟨field, autoIncrement⟩ }

/-- Declares a field, with a default or without. -/
def withField (type : RecordType) (name : String) (field : Field) : RecordType :=
  { type with fields := type.fields.insert name field }

/-- Declares an index after the others. -/
def withIndex (type : RecordType) (index : IndexDescriptor) : RecordType :=
  { type with indexes := type.indexes ++ [index] }

/-- A declared record type, if it is valid. -/
def build (type : RecordType) : Except SchemaError RecordType := do
  type.validate
  return type

end RecordType

end RecordBase
