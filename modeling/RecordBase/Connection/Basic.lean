import RecordBase.Schema.Configuration
import RecordBase.Storage.Basic
import RecordBase.Storage.Synchronization

/-!
# Connections

A connection is an open database together with the record types that its
configuration declares. Connecting checks the configuration before any store
is touched, and brings the stores in line with it where the version rises.
-/

namespace RecordBase

/-- Why an operation on a connection failed. -/
inductive ConnectionError where
  | schema (error : SchemaError)
  | storage (error : StorageError)
  | unknownRecordType (store : String)

/-- An open database with its record types. -/
structure Connection where
  name : String
  version : Nat
  catalog : Catalog

namespace Connection

/-- The upgrade of a connection: the stores are brought in line first, then
the caller's own upgrade runs. There is a report if it came to that. -/
def upgrade {ρ : Type} (catalog : Catalog) (hook : Upgrade ρ) : Upgrade (Option ρ) :=
  fun previous version database =>
    match Database.synchronize catalog database with
    | .error error database => (none, .error error database)
    | .ok _ database =>
        let (report, result) := hook previous version database
        (some report, result)

/-- Opens the database of a configuration, with a part of the caller in its
upgrade. The report of that part comes with the result, if it ran. -/
def openWith {ρ : Type} (storage : Storage) (configuration : Configuration)
    (hook : Upgrade ρ) : Option ρ × EStateM.Result ConnectionError Storage Connection :=
  match configuration.catalog with
  | .error error => (none, .error (.schema error) storage)
  | .ok catalog =>
      match storage.openDatabase configuration.name configuration.version
          (upgrade catalog hook) with
      | (report, .ok handle storage) =>
          (report.join, .ok ⟨handle.name, handle.version, catalog⟩ storage)
      | (report, .error error storage) => (report.join, .error (.storage error) storage)

/-- An upgrade that adds nothing. -/
def noHook : Upgrade Unit := fun _ _ database =>
  ((), .ok () database)

/-- Opens the database of a configuration. -/
def connect (storage : Storage) (configuration : Configuration) :
    EStateM.Result ConnectionError Storage Connection :=
  (openWith storage configuration noHook).2

/-- The record type of a store. -/
def recordType (connection : Connection) (store : String) : Except ConnectionError RecordType :=
  match connection.catalog.get? store with
  | some type => .ok type
  | none => .error (.unknownRecordType store)

end Connection

end RecordBase
