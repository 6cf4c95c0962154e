import RecordBase.Document.Basic
import RecordBase.Schema.RecordType

/-!
# Record types as documents

A record type is written as an object of its parts. It is read from such an
object, or from an array of the parts in the same order. In an object every
part with a default may be left out, parts of other names are passed over,
and none of the declared ones may come twice. In an array parts can be left
out at the end only, and nothing may follow the last. A part that is there
has to be readable as what it is: `null` stands for nothing but an absent
default.
-/

namespace RecordBase

namespace Document

/-! ## Parts -/

/-- The text of a string. -/
def asString? : Document → Option String
  | .string text => some text
  | _ => none

/-- The truth of a boolean. -/
def asBool? : Document → Option Bool
  | .bool truth => some truth
  | _ => none

/-- The content of a number. -/
def asNumber? : Document → Option Number
  | .number content => some content
  | _ => none

/-- The items of an array, each of which has to be readable. -/
def asList? {α : Type} (read : Document → Option α) : Document → Option (List α)
  | .array items => items.mapM read
  | _ => none

/-- The members of an object as a map, each of which has to be readable. Of
the members of one name the last counts. -/
def asMap? {α : Type} (read : Document → Option α) : Document → Option (SortedMap String α)
  | .object members => do
      let bindings ← members.mapM fun (member : Option String × Document) => do
        return (← member.1, ← read member.2)
      return SortedMap.ofList bindings
  | _ => none

/-- The part of a name, if the name comes at most once. -/
def part? (members : List (Option String × Document)) (name : String) :
    Option (Option Document) :=
  match members.filter (·.1 == some name) with
  | [] => some none
  | [(_, document)] => some (some document)
  | _ => none

/-- The parts of the given names, by name from an object or by place from an
array. A part that is left out is `none`. -/
def parts? (names : List String) : Document → Option (List (Option Document))
  | .object members =>
      if members.all (·.1.isSome) then names.mapM (part? members) else none
  | .array items =>
      if items.length ≤ names.length then
        some (items.map some ++ List.replicate (names.length - items.length) none)
      else
        none
  | _ => none

/-- A part that may be left out. -/
def optional? {α : Type} (read : Document → Option α) (missing : α) :
    Option Document → Option α
  | some document => read document
  | none => some missing

end Document

/-! ## Reading -/

/-- Reads a field type: its name, or an object that binds its name to
`null`. -/
def FieldType.ofDocument? : Document → Option FieldType
  | .string name => FieldType.ofName? name
  | .object [(some name, .null)] => FieldType.ofName? name
  | _ => none

/-- Reads a default. -/
def Field.defaultOfDocument? : Document → Option (Option Value)
  | .null => some none
  | document => document.toValue?.map some

/-- Reads a field. -/
def Field.ofDocument? (document : Document) : Option Field := do
  match ← document.parts? ["type", "default"] with
  | [type, default] =>
      let type ← Document.optional? FieldType.ofDocument? .any type
      let default ← Document.optional? Field.defaultOfDocument? none default
      return ⟨type, default⟩
  | _ => none

/-- Reads a primary key. -/
def PrimaryKey.ofDocument? (document : Document) : Option PrimaryKey := do
  match ← document.parts? ["field", "auto_increment"] with
  | [field, autoIncrement] =>
      let field ← (← field).asString?
      let autoIncrement ← Document.optional? Document.asBool? true autoIncrement
      return ⟨field, autoIncrement⟩
  | _ => none

/-- Reads a key path: a string is one field, an array a list of fields. -/
def KeyPath.ofDocument? : Document → Option KeyPath
  | .string field => some (.single field)
  | document => (document.asList? Document.asString?).map .composite

/-- Reads an index. -/
def IndexDescriptor.ofDocument? (document : Document) : Option IndexDescriptor := do
  match ← document.parts? ["name", "unique", "key_path"] with
  | [name, unique, keyPath] =>
      let name ← (← name).asString?
      let unique ← Document.optional? Document.asBool? false unique
      let keyPath ← KeyPath.ofDocument? (← keyPath)
      return ⟨name, unique, keyPath⟩
  | _ => none

/-- Reads a record type. -/
def RecordType.ofDocument? (document : Document) : Option RecordType := do
  match ← document.parts? ["store_name", "fields", "primary_key", "indexes"] with
  | [storeName, fields, primaryKey, indexes] =>
      let storeName ← (← storeName).asString?
      let fields ← Document.optional? (·.asMap? Field.ofDocument?) .empty fields
      let primaryKey ← Document.optional? PrimaryKey.ofDocument? {} primaryKey
      let indexes ← Document.optional? (·.asList? IndexDescriptor.ofDocument?) [] indexes
      return ⟨storeName, fields, primaryKey, indexes⟩
  | _ => none

/-! ## Writing -/

/-- Writes a field. A default that is absent is left out. -/
def Field.toValue (field : Field) : Value :=
  let default := match field.default with
    | some value => [("default", value)]
    | none => []
  .ofMembers (default ++ [("type", .string field.type.name)])

/-- Writes a primary key. -/
def PrimaryKey.toValue (key : PrimaryKey) : Value :=
  .ofMembers [("auto_increment", .bool key.autoIncrement), ("field", .string key.field)]

/-- Writes a key path. -/
def KeyPath.toValue : KeyPath → Value
  | single field => .string field
  | composite fields => .array (fields.map .string)

/-- Writes an index. -/
def IndexDescriptor.toValue (index : IndexDescriptor) : Value :=
  .ofMembers
    [ ("key_path", index.keyPath.toValue)
    , ("name", .string index.name)
    , ("unique", .bool index.unique) ]

/-- Writes a record type. -/
def RecordType.toValue (type : RecordType) : Value :=
  .ofMembers
    [ ("fields", .ofRecord (type.fields.mapValues fun _ => Field.toValue))
    , ("indexes", .array (type.indexes.map IndexDescriptor.toValue))
    , ("primary_key", type.primaryKey.toValue)
    , ("store_name", .string type.storeName) ]

end RecordBase
