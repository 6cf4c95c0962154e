import RecordBase.Schema.RecordType

/-!
# Changing records

A patch is laid over a record field by field; the primary key stays what it
is. A record that is inserted gets the declared defaults of the fields that
it lacks.
-/

namespace RecordBase

namespace Record

/-- Lays a patch over a record, leaving the primary field alone. -/
def merge (record patch : Record) (primaryField : String) : Record :=
  patch.toList.foldl
    (fun merged (field, value) =>
      if field = primaryField then merged else merged.insert field value)
    record

/-- Adds the defaults of declared fields that a record lacks. -/
def withDefaults (record : Record) (type : RecordType) : Record :=
  type.fields.toList.foldl
    (fun filled (name, field) =>
      match field.default with
      | some value => if filled.contains name then filled else filled.insert name value
      | none => filled)
    record

end Record

end RecordBase
