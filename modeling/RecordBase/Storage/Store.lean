import RecordBase.Index.Tree
import RecordBase.Schema.RecordType
import RecordBase.Storage.Error

/-!
# Stores

A store keeps records by primary key, and under each index the primary keys
of the records by their index keys. Every write brings all indexes up to
date. A write is checked in full first, so one that fails changes nothing.

Where the store generates its keys, it counts upwards: the next key is above
every number that has been a key, so that no key comes twice.
-/

namespace RecordBase

/-- An index of a store. -/
structure StoreIndex where
  descriptor : IndexDescriptor
  tree : IndexTree

namespace StoreIndex

/-- The index key of a record. -/
def key? (index : StoreIndex) (record : Record) : Option Key :=
  Key.ofRecord? record index.descriptor.keyPath

/-- Enters a record, if it has an index key. -/
def insert (index : StoreIndex) (record : Record) (primary : Key) : StoreIndex :=
  match index.key? record with
  | some key => { index with tree := index.tree.insert key primary }
  | none => index

/-- Takes a record out. -/
def remove (index : StoreIndex) (record : Record) (primary : Key) : StoreIndex :=
  match index.key? record with
  | some key => { index with tree := index.tree.remove key primary }
  | none => index

/-- The key of a record in a unique index that another record has already. -/
def collision? (index : StoreIndex) (record : Record) (primary : Key) : Option Key :=
  if index.descriptor.unique then
    (index.key? record).filter (index.tree.isTakenByOther · primary)
  else
    none

end StoreIndex

/-- The records of a store with their indexes. -/
structure Store where
  primaryKey : PrimaryKey
  records : SortedMap Key Record := .empty
  /-- The indexes by name. -/
  indexes : SortedMap String StoreIndex := .empty
  /-- The next key to be generated. -/
  generator : Nat := 1

namespace Store

/-- The last key that can be generated. Beyond it doubles do not tell
neighbouring integers apart. -/
def lastGenerated : Nat :=
  2 ^ 53

/-- The record under a primary key. -/
def get? (store : Store) (key : Key) : Option Record :=
  store.records.get? key

/-- The declarations of the indexes, in the order of their names. -/
def descriptors (store : Store) : List IndexDescriptor :=
  store.indexes.values.map (·.descriptor)

/-! ## Keys -/

/-- The primary key of a record to be written, and the record with it. A key
that is absent is generated where the store does that. -/
def resolveKey (store : Store) (record : Record) : Except StorageError (Key × Record) :=
  let field := store.primaryKey.field
  match record.get? field with
  | some value =>
      match Key.ofValue? value with
      | some key => .ok (key, record)
      | none => .error (.data (.invalidKey value field))
  | none =>
      if !store.primaryKey.autoIncrement then
        .error (.data (.missingKey field))
      else if lastGenerated < store.generator then
        .error (.constraint (.generatorExhausted field))
      else
        .ok (.ofInt store.generator, record.insert field (.ofInt store.generator))

/-- The next key to be generated after a key has been used: above it if it is
a number, as far as there are integers left, and never lower than before. -/
def generatorPast (generator : Nat) (key : Key) : Nat :=
  match key.toDouble? with
  | some number => max generator (min (number.floor + 1).toNat (lastGenerated + 1))
  | none => generator

/-! ## Writing -/

/-- The first unique index, in the order of names, in which another record
has the key of a record. -/
def collision? (store : Store) (record : Record) (primary : Key) : Option ConstraintFault :=
  store.indexes.values.findSome? fun index =>
    (index.collision? record primary).map (.indexTaken index.descriptor.name)

/-- Removes a record and its index entries. -/
def delete (store : Store) (key : Key) : Option Record × Store :=
  match store.records.get? key with
  | none => (none, store)
  | some record =>
      (some record,
        { store with
          records := store.records.erase key
          indexes := store.indexes.mapValues fun _ index => index.remove record key })

/-- Puts a record in the place of the one that has its key, if there is one. -/
def place (store : Store) (key : Key) (record : Record) : Store :=
  let cleared := (store.delete key).2
  { cleared with
    records := cleared.records.insert key record
    indexes := cleared.indexes.mapValues fun _ index => index.insert record key
    generator :=
      if store.primaryKey.autoIncrement then generatorPast store.generator key
      else store.generator }

/-- Writes a record, over one of the same key only if that is allowed. Gives
the value of its primary key. -/
def write (store : Store) (record : Record) (overwrite : Bool) :
    Except StorageError (Value × Store) := do
  let (key, record) ← store.resolveKey record
  if !overwrite && store.records.contains key then
    throw (.constraint (.keyExists key))
  match store.collision? record key with
  | some fault => throw (.constraint fault)
  | none =>
      let value := (record.get? store.primaryKey.field).getD key.toValue
      return (value, store.place key record)

/-- Adds a record of a new key. -/
def add (store : Store) (record : Record) : Except StorageError (Value × Store) :=
  store.write record false

/-- Adds a record or replaces the one of its key. -/
def put (store : Store) (record : Record) : Except StorageError (Value × Store) :=
  store.write record true

/-! ## Indexes -/

/-- Enters records into a new index one by one. In a unique index the first
record whose key is taken ends the work. -/
def enterAll (index : StoreIndex) : List (Key × Record) → Except StorageError StoreIndex
  | [] => .ok index
  | (primary, record) :: rest =>
      match index.collision? record primary with
      | some key => .error (.constraint (.indexUnbuildable index.descriptor.name key))
      | none => enterAll (index.insert record primary) rest

/-- Adds an index over all records. The name of the store is for the error
alone. -/
def createIndex (store : Store) (name : String) (descriptor : IndexDescriptor) :
    Except StorageError Store :=
  if store.indexes.contains descriptor.name then
    .error (.indexExists name descriptor.name)
  else
    match enterAll ⟨descriptor, .empty⟩ store.records.toList with
    | .error error => .error error
    | .ok index => .ok { store with indexes := store.indexes.insert descriptor.name index }

/-- Drops an index. The name of the store is for the error alone. -/
def deleteIndex (store : Store) (name index : String) : Except StorageError Store :=
  if store.indexes.contains index then
    .ok { store with indexes := store.indexes.erase index }
  else
    .error (.indexNotFound name index)

/-- The first primary key, in a direction, that is in a range and past a
position. -/
def nextPrimary (store : Store) (range : KeyRange) (position : Option Key)
    (direction : Direction) : Option Key :=
  (store.records.seek range position direction).map Prod.fst

end Store

end RecordBase
