import RecordBase.Number
import RecordBase.SortedMap.Basic

/-!
# Values and records

Values are the data of a JSON document. The members of an object stand in
ascending order of their names, which `Value.ofMembers` sees to: of two
members of one name the later counts. A record is the map of an object's
members, so a field that is absent differs from one that holds `null`.
-/

namespace RecordBase

/-- A JSON value. -/
inductive Value where
  | null
  | bool (truth : Bool)
  | number (number : Number)
  | string (text : String)
  | array (items : List Value)
  | object (members : List (String × Value))

/-- A stored object: field names with their values. -/
abbrev Record := SortedMap String Value

namespace Value

/-- The type of a value, in the order in which mixed values sort. -/
inductive Kind where
  | null
  | boolean
  | number
  | string
  | array
  | object
deriving DecidableEq

/-- The word for a kind in messages. -/
def Kind.name : Kind → String
  | null => "null"
  | boolean => "boolean"
  | number => "number"
  | string => "string"
  | array => "array"
  | object => "object"

/-- The place of a kind among the kinds: all values of one kind sort together. -/
def Kind.rank : Kind → Nat
  | null => 0
  | boolean => 1
  | number => 2
  | string => 3
  | array => 4
  | object => 5

/-- The kind of a value. -/
def kind : Value → Kind
  | null => .null
  | bool _ => .boolean
  | number _ => .number
  | string _ => .string
  | array _ => .array
  | object _ => .object

/-- An integer as a value; `null` beyond sixty-four bits. -/
def ofInt (n : Int) : Value :=
  match Number.ofInt? n with
  | some integer => number integer
  | none => null

/-- A double as a value; `null` unless it is finite. -/
def ofDouble (x : Double) : Value :=
  match Number.ofDouble? x with
  | some real => number real
  | none => null

/-- The object of a record. -/
def ofRecord (record : Record) : Value :=
  object record.toList

/-- The object of a list of members, the last of each name. -/
def ofMembers (members : List (String × Value)) : Value :=
  ofRecord (SortedMap.ofList members)

end Value

end RecordBase
