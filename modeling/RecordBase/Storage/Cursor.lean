import RecordBase.Storage.Transaction

/-!
# Cursors

A cursor walks a scan source from record to record. It remembers the position
that it came to last and goes on strictly past it, so it does not lose its
place when the record there is changed, moved or deleted. A record that moves
ahead of the cursor along the index is met again.
-/

namespace RecordBase

/-- A walk in a transaction. -/
structure Cursor where
  transaction : Transaction
  source : ScanSource
  direction : Direction
  /-- Index key and primary key of the last position. They are the same where
  no index is walked. -/
  position : Option (Key × Key) := none
  /-- The primary key of the record that was met last, until it is deleted. -/
  current : Option Key := none
  /-- The end has been reached. -/
  done : Bool := false

namespace Cursor

/-- Starts a walk. An index that is to be walked has to exist. -/
def start (transaction : Transaction) (source : ScanSource) (direction : Direction) :
    Except StorageError Cursor :=
  match source with
  | .index name _ =>
      if transaction.store.indexes.contains name then
        .ok { transaction, source, direction }
      else
        .error (.indexNotFound transaction.storeName name)
  | _ => .ok { transaction, source, direction }

/-- The next position along primary keys. -/
def nextPrimary (cursor : Cursor) (range : KeyRange) : Option (Key × Key) :=
  (cursor.transaction.store.nextPrimary range (cursor.position.map Prod.fst)
    cursor.direction).map fun key => (key, key)

/-- The next position. -/
def nextPosition (cursor : Cursor) : Except StorageError (Option (Key × Key)) :=
  match cursor.source with
  | .full => .ok (cursor.nextPrimary .unbounded)
  | .primary range => .ok (cursor.nextPrimary range)
  | .index name range =>
      match cursor.transaction.store.indexes.get? name with
      | some index => .ok (index.tree.nextEntry range cursor.position cursor.direction)
      | none => .error (.indexNotFound cursor.transaction.storeName name)

/-- Goes to the next record and gives it with its primary key. -/
def advance : Action Cursor (Option (Key × Record)) := fun cursor =>
  if cursor.done then
    .ok none cursor
  else
    match cursor.nextPosition with
    | .error error => .error error cursor
    | .ok none => .ok none { cursor with done := true, current := none }
    | .ok (some (key, primary)) =>
        match cursor.transaction.get? primary with
        | none => .error (.internal (.danglingEntry primary)) cursor
        | some record =>
            .ok (some (primary, record))
              { cursor with position := some (key, primary), current := some primary }

/-- Runs an action of the transaction. -/
def inTransaction {α : Type} (action : Action Transaction α) : Action Cursor α := fun cursor =>
  match action cursor.transaction with
  | .ok result transaction => .ok result { cursor with transaction }
  | .error error transaction => .error error { cursor with transaction }

/-- Deletes the current record. -/
def delete : Action Cursor Unit := fun cursor =>
  match cursor.current with
  | none => .error (.internal .noCurrentRecord) cursor
  | some key =>
      match inTransaction (Transaction.delete key) cursor with
      | .ok _ cursor => .ok () { cursor with current := none }
      | .error error cursor => .error error cursor

/-- Replaces the store's record of a key by a record of the same key. -/
def replace (key : Key) (record : Record) (store : Store) :
    Except StorageError (Value × Store) :=
  if Key.ofField? record store.primaryKey.field = some key then
    store.put record
  else
    .error (.data (.changedKey key))

/-- Replaces the current record, whose key has to stay. -/
def update (record : Record) : Action Cursor Unit := fun cursor =>
  match cursor.current with
  | none => .error (.internal .noCurrentRecord) cursor
  | some key =>
      match inTransaction (Transaction.change (replace key record)) cursor with
      | .ok _ cursor => .ok () cursor
      | .error error cursor => .error error cursor

/-- The records that a cursor still meets within a number of steps, which has
to suffice. -/
def rest : Nat → Action Cursor (List (Key × Record))
  | 0 => throw (.internal .endlessWalk)
  | steps + 1 => do
      match ← advance with
      | none => return []
      | some entry => return entry :: (← rest steps)

end Cursor

/-- How many steps any walk takes at most: a record is met once, and once more
if the walk itself moves it ahead, and one step finds the end. -/
def Store.walkSteps (store : Store) : Nat :=
  2 * store.records.size + 1

namespace Transaction

/-- Runs an action of a cursor that starts here. -/
def withCursor {α : Type} (source : ScanSource) (direction : Direction)
    (action : Action Cursor α) : Action Transaction α := fun transaction =>
  match Cursor.start transaction source direction with
  | .error error => .error error transaction
  | .ok cursor =>
      match action cursor with
      | .ok result cursor => .ok result cursor.transaction
      | .error error cursor => .error error cursor.transaction

/-- All records of a source with their primary keys. -/
def scan (source : ScanSource) (direction : Direction) :
    Action Transaction (List (Key × Record)) := fun transaction =>
  withCursor source direction (Cursor.rest transaction.store.walkSteps) transaction

end Transaction

end RecordBase
