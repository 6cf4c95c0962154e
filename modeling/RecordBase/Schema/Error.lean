import RecordBase.Schema.Field
import RecordBase.Value.Text

/-!
# Schema errors

What can be wrong with a declaration. Every error has a code for programs, a
message for people, and the store that it is about, unless it is about the
whole configuration.
-/

namespace RecordBase

/-- What can be wrong with one index. -/
inductive IndexFault where
  | blankName
  | blankPath
  | noFields
  | blankField
  | repeatedField (field : String)
deriving DecidableEq

/-- The words for an index fault. -/
def IndexFault.reason : IndexFault → String
  | blankName => "index name is empty"
  | blankPath => "key path is empty"
  | noFields => "composite key path has no fields"
  | blankField => "composite key path contains an empty field"
  | repeatedField field => "field '" ++ field ++ "' repeats in composite key path"

/-- What can be wrong with a record type or a configuration. -/
inductive SchemaError where
  | invalidVersion (version : Number)
  | blankStoreName (store : String)
  | blankPrimaryField (store : String)
  | malformedIndex (store index : String) (fault : IndexFault)
  | duplicateIndex (store index : String)
  | duplicateStore (store : String)
  /-- A default that does not have the type of its field. -/
  | mistypedDefault (store field : String) (default : Value) (type : FieldType)
  | blankDatabaseName (name : String)
  /-- A text that is no configuration document. -/
  | invalidText

namespace SchemaError

/-- The code of an error. -/
def code : SchemaError → String
  | invalidVersion _ => "KEYSCAN_INVALID_VERSION"
  | blankStoreName _ => "KEYSCAN_INVALID_STORE_NAME"
  | blankPrimaryField _ => "KEYSCAN_INVALID_PRIMARY_KEY"
  | malformedIndex _ _ _ => "KEYSCAN_MALFORMED_INDEX"
  | duplicateIndex _ _ => "KEYSCAN_DUPLICATE_INDEX"
  | duplicateStore _ => "KEYSCAN_DUPLICATE_STORE"
  | mistypedDefault _ _ _ _ | blankDatabaseName _ | invalidText => "KEYSCAN_MALFORMED_CONFIG"

/-- What is wrong with the configuration of a name. -/
def malformed (name reason : String) : String :=
  "malformed configuration '" ++ name ++ "': " ++ reason

/-- The message of an error. -/
def message : SchemaError → String
  | invalidVersion version => "version " ++ version.text ++ " must be a positive integer"
  | blankStoreName store => "store name '" ++ store ++ "' is empty"
  | blankPrimaryField store => "store '" ++ store ++ "' has an empty primary key field"
  | malformedIndex store index fault =>
      "index '" ++ index ++ "' on store '" ++ store ++ "': " ++ fault.reason
  | duplicateIndex store index =>
      "index '" ++ index ++ "' declared twice on store '" ++ store ++ "'"
  | duplicateStore store => "store '" ++ store ++ "' declared by more than one record type"
  | mistypedDefault store field default type =>
      malformed store
        ("default " ++ default.text ++ " of field '" ++ field ++ "' is not a " ++ type.name)
  | blankDatabaseName name => malformed name "database name is empty"
  | invalidText => malformed "<inline>" "Invalid JSON"

/-- The message with the code before it. -/
def text (error : SchemaError) : String :=
  "[CONFIG] " ++ error.code ++ ": " ++ error.message

/-- The store that an error is about. -/
def store? : SchemaError → Option String
  | blankStoreName store => some store
  | blankPrimaryField store => some store
  | malformedIndex store _ _ => some store
  | duplicateIndex store _ => some store
  | duplicateStore store => some store
  | _ => none

/-- Whether an error is about an index. -/
def isIndexError : SchemaError → Bool
  | malformedIndex _ _ _ | duplicateIndex _ _ => true
  | _ => false

end SchemaError

end RecordBase
