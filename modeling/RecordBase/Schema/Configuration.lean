import RecordBase.Schema.Catalog
import RecordBase.Schema.Codec

/-!
# Configurations

A configuration names a database, the version of its schema, and its record
types, one for each store. It is checked as a whole before any store is
touched. As a text it is a document, and its version there may be written as
any whole number, also with a point or an exponent.
-/

namespace RecordBase

/-- The configuration of a database. -/
structure Configuration where
  name : String
  version : Nat
  types : List RecordType := []

namespace Configuration

/-- Versions are below this. -/
def versionLimit : Nat :=
  2 ^ 32

/-- The first fault of a list of record types, given the stores in front of
it. -/
def typeFault? (seen : List String) : List RecordType → Option SchemaError
  | [] => none
  | type :: rest =>
      match type.fault? with
      | some error => some error
      | none =>
          if seen.contains type.storeName then some (.duplicateStore type.storeName)
          else typeFault? (type.storeName :: seen) rest

/-- The first fault of a configuration. -/
def fault? (configuration : Configuration) : Option SchemaError :=
  if Text.isBlank configuration.name then
    some (.blankDatabaseName configuration.name)
  else if configuration.version = 0 then
    some (.invalidVersion (.int 0 (by decide)))
  else
    typeFault? [] configuration.types

/-- Accepts a configuration that has no fault. -/
def validate (configuration : Configuration) : Except SchemaError Unit :=
  match configuration.fault? with
  | some error => .error error
  | none => .ok ()

/-- The catalog of a valid configuration. -/
def catalog (configuration : Configuration) : Except SchemaError Catalog := do
  configuration.validate
  configuration.types.foldlM Catalog.register .empty

/-! ## Configurations as documents -/

/-- A version: a whole number from `1` on that fits thirty-two bits. -/
def versionOf? (number : Number) : Option Nat :=
  let whole := match number with
    | .int n _ => some n
    | .real x _ => x.toInt?
  match whole with
  | some n => if 1 ≤ n ∧ n < versionLimit then some n.toNat else none
  | none => none

/-- The parts of a configuration, before its version is checked. -/
def partsOf? (document : Document) : Option (String × Number × List RecordType) := do
  match ← document.parts? ["name", "version", "record_types"] with
  | [name, version, types] =>
      let name ← (← name).asString?
      let version ← (← version).asNumber?
      let types ← Document.optional? (·.asList? RecordType.ofDocument?) [] types
      return (name, version, types)
  | _ => none

/-- Reads a configuration from its document. Its shape is checked first, then
its version, then all else. -/
def ofDocument (document : Document) : Except SchemaError Configuration :=
  match partsOf? document with
  | none => .error .invalidText
  | some (name, number, types) =>
      match versionOf? number with
      | none => .error (.invalidVersion number)
      | some version => do
          let configuration : Configuration := ⟨name, version, types⟩
          configuration.validate
          return configuration

/-- Reads a configuration from a text. -/
def ofText (text : String) : Except SchemaError Configuration :=
  match Document.read? text with
  | none => .error .invalidText
  | some document => ofDocument document

/-- Writes a configuration. -/
def toValue (configuration : Configuration) : Value :=
  .ofMembers
    [ ("name", .string configuration.name)
    , ("record_types", .array (configuration.types.map RecordType.toValue))
    , ("version", .ofInt configuration.version) ]

end Configuration

end RecordBase
