import RecordBase.Value.Basic

/-!
# Fields

A record type declares the fields of its records: the type of the values, and
a value for records that come without the field. Declared types do not bind:
records may hold other values, and fields that nobody declared.
-/

namespace RecordBase

/-- The declared type of a field. -/
inductive FieldType where
  | string
  | number
  | boolean
  | array
  | object
  /-- Every value. -/
  | any
deriving DecidableEq

namespace FieldType

/-- The name of a field type. -/
def name : FieldType → String
  | string => "string"
  | number => "number"
  | boolean => "boolean"
  | array => "array"
  | object => "object"
  | any => "any"

/-- All field types. -/
def all : List FieldType :=
  [string, number, boolean, array, object, any]

/-- The field type of a name. -/
def ofName? (name : String) : Option FieldType :=
  all.find? (·.name == name)

/-- Whether a value has a type. -/
def accepts : FieldType → Value → Bool
  | any, _ => true
  | string, .string _ => true
  | number, .number _ => true
  | boolean, .bool _ => true
  | array, .array _ => true
  | object, .object _ => true
  | _, _ => false

@[simp]
theorem ofName?_name (type : FieldType) : ofName? type.name = some type := by
  cases type <;> rfl

end FieldType

/-- A declared field. -/
structure Field where
  type : FieldType := .any
  /-- What an inserted record gets where it has no such field. -/
  default : Option Value := none

end RecordBase
