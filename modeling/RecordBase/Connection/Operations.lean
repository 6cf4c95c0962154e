import RecordBase.Connection.Basic
import RecordBase.Query.Explanation
import RecordBase.Traversal

/-!
# Operations

What can be done with the records of a type. Every operation is one
transaction: for reading where records are only found, and for writing
otherwise. An operation that can have no result does not touch the storage.
-/

namespace RecordBase

namespace Connection

/-- Says how a request would be answered. -/
def explain (type : RecordType) (request : Request) : Explanation :=
  .ofPlan (.ofRequest type request)

/-- The record of a primary key. What is no key has no record. -/
def get (connection : Connection) (type : RecordType) (key : Value) :
    Action Storage (Option Record) :=
  match Key.ofValue? key with
  | none => return none
  | some key =>
      Storage.transact connection.name type.storeName .readOnly
        fun transaction => .ok (transaction.get? key) transaction

/-! ## Inserting -/

/-- The record that is inserted for a value: an object with the defaults that
it lacks. -/
def prepare (type : RecordType) (value : Value) : Except StorageError Record :=
  (value.asRecord).map (Record.withDefaults · type)

/-- Inserts a record of a new key and gives the key. -/
def insertOne (connection : Connection) (type : RecordType) (value : Value) :
    Action Storage Value :=
  match prepare type value with
  | .error error => throw error
  | .ok record =>
      Storage.transact connection.name type.storeName .readWrite (Transaction.add record)

/-- Inserts values one by one. Each gives its key or the error that refused
it, and an error does not keep the others back. -/
def insertEach (type : RecordType) :
    List Value → Transaction → List (Except StorageError Value) × Transaction
  | [], transaction => ([], transaction)
  | value :: rest, transaction =>
      let (outcome, transaction) := match prepare type value with
        | .error error => (.error error, transaction)
        | .ok record =>
            match Transaction.add record transaction with
            | .ok key transaction => (.ok key, transaction)
            | .error error transaction => (.error error, transaction)
      let (outcomes, transaction) := insertEach type rest transaction
      (outcome :: outcomes, transaction)

/-- Inserts several records in one transaction. -/
def insert (connection : Connection) (type : RecordType) (values : List Value) :
    Action Storage (List (Except StorageError Value)) :=
  if values.isEmpty then
    return []
  else
    Storage.transact connection.name type.storeName .readWrite fun transaction =>
      let (outcomes, transaction) := insertEach type values transaction
      .ok outcomes transaction

/-! ## Finding, deleting and updating -/

/-- The mode of the transaction for an operation. -/
def modeFor : Operation → TransactionMode
  | .find => .readOnly
  | .delete | .update _ => .readWrite

/-- Carries out an operation on the records of a request. -/
def traverse (connection : Connection) (type : RecordType) (request : Request)
    (operation : Operation) (single : Bool) : Action Storage Found :=
  if request.isZeroLimit then
    return {}
  else
    Storage.transact connection.name type.storeName (modeFor operation)
      (Traversal.run ⟨.ofRequest type request, type.primaryField, operation, single⟩)

/-- The first record of a request. -/
def findOne (connection : Connection) (type : RecordType) (request : Request) :
    Action Storage (Option Record) := do
  return (← connection.traverse type request .find true).records.head?

/-- All records of a request. -/
def find (connection : Connection) (type : RecordType) (request : Request) :
    Action Storage (List Record) := do
  return (← connection.traverse type request .find false).records

/-- Deletes the first record of a request and gives it. -/
def deleteOne (connection : Connection) (type : RecordType) (request : Request) :
    Action Storage (Option Record) := do
  return (← connection.traverse type request .delete true).records.head?

/-- Deletes all records of a request and gives them. -/
def delete (connection : Connection) (type : RecordType) (request : Request) :
    Action Storage (List Record) := do
  return (← connection.traverse type request .delete false).records

/-- Lays a patch over the first record of a request and gives the result. -/
def updateOne (connection : Connection) (type : RecordType) (patch : Value)
    (request : Request) : Action Storage (Option Record) :=
  match patch.asRecord with
  | .error error => throw error
  | .ok patch => do
      return (← connection.traverse type request (.update patch) true).records.head?

/-- Lays a patch over all records of a request and gives the results. -/
def update (connection : Connection) (type : RecordType) (patch : Value)
    (request : Request) : Action Storage (List Record) :=
  match patch.asRecord with
  | .error error => throw error
  | .ok patch => do
      return (← connection.traverse type request (.update patch) false).records

end Connection

end RecordBase
