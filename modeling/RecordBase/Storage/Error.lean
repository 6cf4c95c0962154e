import RecordBase.Key.Encoding
import RecordBase.Value.Text

/-!
# Storage errors

What a storage operation can fail of. A constraint is violated by a record
that is well formed by itself and cannot stand beside the others; data is
invalid by itself. Internal errors arise from a store whose indexes and
records disagree, from a cursor that stands at no record, or where an upgrade
gives up.
-/

namespace RecordBase

/-- How a record fails to fit in with the others. -/
inductive ConstraintFault where
  | keyExists (key : Key)
  | indexTaken (index : String) (key : Key)
  /-- Two records have one key of a unique index that is being built. -/
  | indexUnbuildable (index : String) (key : Key)
  /-- No integer is left to generate a key from. -/
  | generatorExhausted (field : String)

/-- The words for a violated constraint. -/
def ConstraintFault.message : ConstraintFault → String
  | keyExists key => "primary key " ++ key.toValue.text ++ " already exists"
  | indexTaken index key =>
      "unique index '" ++ index ++ "' already contains " ++ key.toValue.text
  | indexUnbuildable index key =>
      "unique index '" ++ index ++ "' cannot be built: duplicate key " ++ key.toValue.text
  | generatorExhausted field => "key generator for '" ++ field ++ "' is exhausted"

/-- How data is invalid. -/
inductive DataFault where
  | notARecord (kind : Value.Kind)
  | invalidKey (value : Value) (field : String)
  | missingKey (field : String)
  /-- A cursor was to replace its record by one of another key. -/
  | changedKey (key : Key)

/-- The words for invalid data. -/
def DataFault.message : DataFault → String
  | notARecord kind => "expected a JSON object, got " ++ kind.name
  | invalidKey value field => "value " ++ value.text ++ " of '" ++ field ++ "' is not a valid key"
  | missingKey field => "record has no value for primary key '" ++ field ++ "'"
  | changedKey key => "cursor update must keep primary key " ++ key.toValue.text

/-- What should not happen. -/
inductive InternalFault where
  | noCurrentRecord
  /-- An index holds a primary key under which there is no record. -/
  | danglingEntry (primary : Key)
  /-- A walk did not end within the steps that any walk takes. -/
  | endlessWalk
  /-- An upgrade gave up. -/
  | upgrade (message : String)

/-- The words for an internal error. -/
def InternalFault.message : InternalFault → String
  | noCurrentRecord => "cursor has no current record"
  | danglingEntry primary => "index entry " ++ primary.toValue.text ++ " has no record"
  | endlessWalk => "walk does not end"
  | upgrade message => message

/-- Why a storage operation failed. -/
inductive StorageError where
  | storeNotFound (store : String)
  | storeExists (store : String)
  | indexNotFound (store index : String)
  | indexExists (store index : String)
  | constraint (fault : ConstraintFault)
  | data (fault : DataFault)
  | readOnly
  /-- A database was to be opened at a version below its own. -/
  | version (requested stored : Nat)
  | internal (fault : InternalFault)

namespace StorageError

/-- The name of the kind of an error. -/
def name : StorageError → String
  | storeNotFound _ => "StoreNotFound"
  | storeExists _ => "StoreExists"
  | indexNotFound _ _ => "IndexNotFound"
  | indexExists _ _ => "IndexExists"
  | constraint _ => "Constraint"
  | data _ => "Data"
  | readOnly => "ReadOnly"
  | version _ _ => "Version"
  | internal _ => "Internal"

/-- The message of an error. -/
def message : StorageError → String
  | storeNotFound store => "Object store not found: " ++ store
  | storeExists store => "Object store already exists: " ++ store
  | indexNotFound store index => "Index not found: " ++ store ++ "." ++ index
  | indexExists store index => "Index already exists: " ++ store ++ "." ++ index
  | constraint fault => "Constraint violated: " ++ fault.message
  | data fault => "Invalid data: " ++ fault.message
  | readOnly => "Transaction is read-only"
  | version requested stored =>
      "Requested version " ++ Number.integerText requested
        ++ " is lower than stored version " ++ Number.integerText stored
  | internal fault => "Internal storage error: " ++ fault.message

/-- Whether an error is a violated constraint. -/
def isConstraint : StorageError → Bool
  | constraint _ => true
  | _ => false

end StorageError

/-- An action on a state that gives a value or fails. The state that it leaves
counts either way. -/
abbrev Action (σ α : Type) := EStateM StorageError σ α

/-- The record that a value is. Only objects are records. -/
def Value.asRecord : Value → Except StorageError Record
  | object members => .ok (SortedMap.ofList members)
  | value => .error (.data (.notARecord value.kind))

end RecordBase
