import RecordBase.Schema.Error
import RecordBase.Schema.RecordType
import RecordBase.Text.Blank

/-!
# Validation of record types

A record type can be used if no name in it is blank, every default has the
type of its field, every index has a key, and no two indexes share a name.
The first fault is the one reported: names first, then the defaults in the
order of their fields, then the indexes as declared.
-/

namespace RecordBase

/-- The first fault of a list of key fields, given those in front of it. -/
def IndexFault.inFields? (seen : List String) : List String → Option IndexFault
  | [] => none
  | field :: rest =>
      if Text.isBlank field then some .blankField
      else if seen.contains field then some (.repeatedField field)
      else inFields? (field :: seen) rest

/-- What is wrong with a key path. -/
def KeyPath.fault? : KeyPath → Option IndexFault
  | single field => if Text.isBlank field then some .blankPath else none
  | composite [] => some .noFields
  | composite fields => IndexFault.inFields? [] fields

/-- What is wrong with an index by itself. -/
def IndexDescriptor.fault? (index : IndexDescriptor) : Option IndexFault :=
  if Text.isBlank index.name then some .blankName else index.keyPath.fault?

namespace RecordType

/-- The first default of a list of fields that has the wrong type. -/
def defaultFault? (store : String) : List (String × Field) → Option SchemaError
  | [] => none
  | (name, field) :: rest =>
      match field.default with
      | some value =>
          if field.type.accepts value then defaultFault? store rest
          else some (.mistypedDefault store name value field.type)
      | none => defaultFault? store rest

/-- The first fault of a list of indexes, given the names in front of it. -/
def indexFault? (store : String) (seen : List String) :
    List IndexDescriptor → Option SchemaError
  | [] => none
  | index :: rest =>
      match index.fault? with
      | some fault => some (.malformedIndex store index.name fault)
      | none =>
          if seen.contains index.name then some (.duplicateIndex store index.name)
          else indexFault? store (index.name :: seen) rest

/-- The first fault of a record type. -/
def fault? (type : RecordType) : Option SchemaError :=
  if Text.isBlank type.storeName then
    some (.blankStoreName type.storeName)
  else if Text.isBlank type.primaryField then
    some (.blankPrimaryField type.storeName)
  else
    match defaultFault? type.storeName type.fields.toList with
    | some error => some error
    | none => indexFault? type.storeName [] type.indexes

/-- Accepts a record type that has no fault. -/
def validate (type : RecordType) : Except SchemaError Unit :=
  match type.fault? with
  | some error => .error error
  | none => .ok ()

end RecordType

end RecordBase
