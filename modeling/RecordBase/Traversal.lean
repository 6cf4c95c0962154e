import RecordBase.Query.Plan
import RecordBase.Record.Update
import RecordBase.Storage.Cursor

/-!
# Traversals

A traversal carries out a plan in a transaction: it finds, deletes or updates
the records that match. A streaming plan acts on each match as it is met. Any
other plan collects all matches first, sorts and cuts them, and then acts on
what is left by primary key.

A streaming update along an index may move the record ahead of itself, so it
remembers which records it has updated and passes them over. A record that
fails to be changed ends the traversal; what was changed before stays.
-/

namespace RecordBase

/-- What is done with the records that match. -/
inductive Operation where
  | find
  | delete
  /-- A patch is laid over each. -/
  | update (patch : Record)

/-- The word for an operation. -/
def Operation.name : Operation → String
  | find => "find"
  | delete => "delete"
  | update _ => "update"

/-- What a traversal gives. -/
structure Found where
  /-- The records as found, as deleted, or as updated. -/
  records : List Record := []
  /-- How many records were met. -/
  scanned : Nat := 0
  /-- How many of them matched. -/
  matched : Nat := 0

/-- A plan to be carried out. -/
structure Traversal where
  plan : Plan
  /-- The field that a patch does not change. -/
  primaryField : String
  operation : Operation
  /-- Whether the first record is enough. -/
  single : Bool

namespace Traversal

/-- How many records are acted on at most. -/
def limit (traversal : Traversal) : Option Nat :=
  if traversal.single then some 1 else traversal.plan.limit

/-- Whether a record may be met again after it was updated. -/
def tracksUpdates (traversal : Traversal) : Bool :=
  match traversal.operation with
  | .update _ => !traversal.plan.source.isPrimaryOrder
  | _ => false

/-! ## Streaming -/

/-- How far a streaming traversal has come. -/
structure Progress where
  /-- What was found so far, the last record first. -/
  found : List Record := []
  scanned : Nat := 0
  matched : Nat := 0
  skipped : Nat := 0
  /-- The primary keys of the records updated, where they matter. -/
  updated : List Key := []

/-- What was found in the end. -/
def Progress.result (progress : Progress) : Found :=
  ⟨progress.found.reverse, progress.scanned, progress.matched⟩

/-- Acts on the record that a cursor has met, and gives the record that
belongs to the result. -/
def act (traversal : Traversal) (record : Record) : Action Cursor Record :=
  match traversal.operation with
  | .find => return record
  | .delete => do
      Cursor.delete
      return record
  | .update patch => do
      let merged := Record.merge record patch traversal.primaryField
      Cursor.update merged
      return merged

/-- Whether nothing more is to be found. -/
def isSated (traversal : Traversal) (progress : Progress) : Bool :=
  match traversal.limit with
  | some limit => limit ≤ progress.found.length
  | none => false

/-- Goes on with a streaming traversal within a number of steps, which has to
suffice. -/
def streamFrom (traversal : Traversal) : Nat → Progress → Action Cursor Found
  | 0, _ => throw (.internal .endlessWalk)
  | steps + 1, progress => do
      match ← Cursor.advance with
      | none => return progress.result
      | some (key, record) =>
          let scanned := { progress with scanned := progress.scanned + 1 }
          if progress.updated.contains key || !traversal.plan.clause.accepts record then
            streamFrom traversal steps scanned
          else
            let matched := { scanned with matched := scanned.matched + 1 }
            if matched.skipped < traversal.plan.skip then
              streamFrom traversal steps { matched with skipped := matched.skipped + 1 }
            else
              let result ← traversal.act record
              let acted := { matched with
                found := result :: matched.found
                updated := if traversal.tracksUpdates then key :: matched.updated else [] }
              if traversal.isSated acted then
                return acted.result
              else
                streamFrom traversal steps acted

/-- Acts on the matches as they are met. -/
def stream (traversal : Traversal) : Action Transaction Found := fun transaction =>
  Transaction.withCursor traversal.plan.source traversal.plan.direction
    (traversal.streamFrom transaction.store.walkSteps {}) transaction

/-! ## Materializing -/

/-- Acts on a record by its primary key, and gives the record that belongs to
the result. -/
def actOn (traversal : Traversal) (entry : Key × Record) : Action Transaction Record :=
  match traversal.operation with
  | .find => return entry.2
  | .delete => do
      let _ ← Transaction.delete entry.1
      return entry.2
  | .update patch => do
      let merged := Record.merge entry.2 patch traversal.primaryField
      let _ ← Transaction.put merged
      return merged

/-- The part of a list of matches that is acted on. -/
def select (traversal : Traversal) (candidates : List (Key × Record)) : List (Key × Record) :=
  page traversal.plan.skip traversal.limit
    (Record.sortBy Prod.snd traversal.plan.order candidates)

/-- Collects and sorts the matches and acts on some of them. -/
def materialize (traversal : Traversal) : Action Transaction Found := do
  let met ← Transaction.scan traversal.plan.source traversal.plan.direction
  let candidates := met.filter fun entry => traversal.plan.clause.accepts entry.2
  let records ← (traversal.select candidates).mapM traversal.actOn
  return ⟨records, met.length, candidates.length⟩

/-- Carries out the plan. A plan that can find nothing does nothing. -/
def run (traversal : Traversal) : Action Transaction Found :=
  if traversal.plan.isZeroLimit then
    return {}
  else if traversal.plan.isStreaming then
    traversal.stream
  else
    traversal.materialize

end Traversal

end RecordBase
