import RecordBase.Connection.Operations
import RecordBase.Proofs.Store.Refusal
import RecordBase.Proofs.Traversal.Delete
import RecordBase.Proofs.Traversal.Update

/-!
# How traversals fail

A store in which indexes and records agree leaves a traversal little to fail of: no
index entry dangles, no cursor loses its record, no merged record has another key
than the old one, and the index walked is there. Finding and deleting always succeed.
An update fails only where the merged record has the key of another record in a
unique index.
-/

namespace RecordBase

namespace Store

/-- A key that some stored record has in a unique index. -/
def UniquelyHeld (store : Store) (index : String) (key : Key) : Prop :=
  ∃ (descriptor : IndexDescriptor) (primary : Key) (record : Record),
    (store.indexes.get? index).map (·.descriptor) = some descriptor ∧
    descriptor.unique = true ∧ store.get? primary = some record ∧
    Key.ofRecord? record descriptor.keyPath = some key

/-- A record that has a primary key can be put unless a key of it is held in a unique
index. -/
theorem Consistent.indexTaken_of_put {store : Store} (consistent : store.Consistent)
    {record : Record} {key : Key} {error : StorageError}
    (own : Key.ofField? record store.primaryKey.field = some key)
    (failed : store.put record = .error error) :
    ∃ index indexKey, error = .constraint (.indexTaken index indexKey) ∧
      store.UniquelyHeld index indexKey := by
  cases consistent.rejects_of_write failed with
  | unkeyed unkeyed =>
      have unresolved := resolveKey_eq_error_iff.mpr unkeyed
      rw [resolveKey_of_ofField? own] at unresolved
      contradiction
  | keyExists _ single _ => contradiction
  | indexTaken _ declared unique _ stored _ shared =>
      exact ⟨_, _, rfl, _, _, _, declared, unique, stored, shared⟩

end Store

namespace Traversal

variable {traversal : Traversal} {transaction : Transaction}

/-- Acting on the records chosen fails only in an update, of a key that is held in a
unique index. -/
theorem mapM_actOn_cases (reachable : transaction.store.Reachable)
    (suits : traversal.Suits transaction.store)
    (mode : transaction.mode = Connection.modeFor traversal.operation) :
    let acting := (traversal.chosen transaction.store).mapM traversal.actOn transaction
    (∃ records after, acting = .ok records after) ∨
      ∃ patch index key after, traversal.operation = .update patch ∧
        acting = .error (.constraint (.indexTaken index key)) after ∧
        after.store.UniquelyHeld index key := by
  intro acting
  have consistent := reachable.consistent
  cases operation : traversal.operation with
  | find => exact .inl ⟨_, _, mapM_actOn_find operation _ _⟩
  | delete =>
      rw [operation] at mode
      exact .inl ⟨_, _, mapM_actOn_delete operation mode _⟩
  | update patch =>
      rw [operation] at mode
      have stored : ∀ row ∈ traversal.chosen transaction.store,
          transaction.store.get? row.1 = some row.2 :=
        fun row member => get?_of_mem_chosen consistent member
      obtain ⟨done, _, reached, outcome⟩ :=
        mapM_actOn_update operation mode reachable suits (nodup_keys_chosen consistent) stored
      rcases outcome with ⟨ran, _⟩ | ⟨error, row, ran, atDone, refused⟩
      · exact .inl ⟨_, _, ran⟩
      · have own := suits.ofField?_merge consistent
          (stored row (List.mem_of_getElem? atDone)) patch
        rw [← Store.primaryKey_replaceEach] at own
        obtain ⟨index, key, rfl, held⟩ := reached.consistent.indexTaken_of_put own refused
        exact .inr ⟨patch, index, key, _, rfl, ran, held⟩

/-- A traversal succeeds, unless it updates and comes to a record whose key in a unique index is
held already. -/
theorem run_fails_only_of_held_keys {type : RecordType} {store : Store}
    (reachable : store.Reachable) (agrees : type.Agrees store) (name : String)
    (request : Request) (operation : Operation) (single : Bool) :
    let run := (ofRequest type request operation single).run
      ⟨name, Connection.modeFor operation, store⟩
    (∃ found after, run = .ok found after) ∨
      ∃ patch index key after, operation = .update patch ∧
        run = .error (.constraint (.indexTaken index key)) after ∧
        after.store.UniquelyHeld index key := by
  intro run
  let before : Transaction := ⟨name, Connection.modeFor operation, store⟩
  have suits : (ofRequest type request operation single).Suits before.store :=
    suits_ofRequest agrees
  have whole := run_eq_mapM reachable.consistent suits
  rcases mapM_actOn_cases reachable suits rfl with
    ⟨records, after, acted⟩ | ⟨patch, index, key, after, updates, acted, held⟩
  · rw [acted] at whole
    obtain ⟨found, ran, _⟩ := map_eq_ok_iff.mp whole
    exact .inl ⟨found, after, ran⟩
  · rw [acted] at whole
    exact .inr ⟨patch, index, key, after, updates, map_eq_error_iff.mp whole, held⟩

/-- An update that gives a second record the key of the first one in a unique index
fails of that key. -/
theorem run_fails_only_of_held_keys_shared :
    let byMail : IndexDescriptor := { name := "by_mail", keyPath := .single "mail", unique := true }
    let type : RecordType := { storeName := "people", indexes := [byMail] }
    let store := Store.ofHistory {}
      [ .createIndex "people" byMail
      , .add (.ofList [("age", .ofInt 7)])
      , .add (.ofList [("age", .ofInt 5)]) ]
    let request : Request := {}
    let patch : Record := .ofList [("mail", .string "a@b")]
    store.Reachable ∧ type.Agrees store ∧
      ∃ (index : String) (key : Key) (after : Transaction),
        (ofRequest type request (.update patch) false).run ⟨"people", .readWrite, store⟩ =
          .error (.constraint (.indexTaken index key)) after ∧
        after.store.UniquelyHeld index key := by
  intro byMail type store request patch
  have reachable : store.Reachable := Store.reachable_ofHistory _ _
  have agrees : type.Agrees store := by decide +kernel
  have refused :
      (match (ofRequest type request (.update patch) false).run ⟨"people", .readWrite, store⟩ with
        | .ok _ _ => false
        | .error _ _ => true) = true := by
    decide +kernel
  clear_value store request patch type
  rcases run_fails_only_of_held_keys reachable agrees "people" request (.update patch) false with
    ⟨found, after, ran⟩ | ⟨_, index, key, after, _, failed, held⟩
  · simp only [Connection.modeFor] at ran
    rw [ran] at refused
    contradiction
  · exact ⟨reachable, agrees, index, key, after, failed, held⟩

end Traversal

end RecordBase
