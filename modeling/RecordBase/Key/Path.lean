import RecordBase.Key.Encoding

/-!
# Key paths

An index is keyed on one field or on a list of fields. A list of one field is
not the same path as that field: its keys are lists of one key.
-/

namespace RecordBase

/-- The fields that an index is keyed on. -/
inductive KeyPath where
  | single (field : String)
  | composite (fields : List String)
deriving DecidableEq

namespace KeyPath

/-- The fields in declared order. -/
def fields : KeyPath → List String
  | single field => [field]
  | composite fields => fields

/-- Whether keys under this path are lists. -/
def isComposite : KeyPath → Bool
  | single _ => false
  | composite _ => true

end KeyPath

namespace Key

/-- The key that a field of a record holds. -/
def ofField? (record : Record) (field : String) : Option Key :=
  (record.get? field).bind ofValue?

/-- The key of a record under a path. A list of fields gives a key only if
every field holds one. -/
def ofRecord? (record : Record) : KeyPath → Option Key
  | .single field => ofField? record field
  | .composite fields => (fields.mapM (ofField? record)).map tuple

end Key

end RecordBase
