import RecordBase.Proofs.Record.Merge
import RecordBase.Proofs.Walk.Cursor
import RecordBase.Traversal

/-!
# Acting on a record

What a traversal does to one record. A patch keeps the primary key, so an update
puts the merged record in the place of the old one, and the cursor of a
streaming traversal acts on the record that it stands at as a materializing
traversal acts on the record by its key. Only this record is changed.
-/

namespace RecordBase

namespace Traversal

variable {traversal : Traversal} {transaction : Transaction} {row : Key × Record}

/-- A traversal is meant for a store if the index that it walks is there and its
primary field is the one of the store. -/
structure Suits (traversal : Traversal) (store : Store) : Prop where
  present : traversal.plan.source.Present store
  primaryField : traversal.primaryField = store.primaryKey.field

theorem Suits.of_differsAt {before after : Store} {key : Key} (suits : traversal.Suits before)
    (differs : Store.DiffersAt key before after) : traversal.Suits after where
  present := suits.present.of_differsAt differs
  primaryField := suits.primaryField.trans (congrArg _ differs.primaryKey.symm)

/-- The merged record of a stored one holds the same key. -/
theorem Suits.ofField?_merge (suits : traversal.Suits transaction.store)
    (consistent : transaction.store.Consistent)
    (stored : transaction.store.get? row.1 = some row.2) (patch : Record) :
    Key.ofField? (Record.merge row.2 patch traversal.primaryField)
      transaction.store.primaryKey.field = some row.1 := by
  rw [suits.primaryField, Record.ofField?_merge]
  exact consistent.ownKey stored

/-- An update puts the merged record in the place of the old one. -/
theorem actOn_update (suits : traversal.Suits transaction.store)
    (consistent : transaction.store.Consistent)
    (stored : transaction.store.get? row.1 = some row.2) {patch : Record}
    (operation : traversal.operation = .update patch) :
    traversal.actOn row transaction =
      let merged := Record.merge row.2 patch traversal.primaryField
      match transaction.mode with
      | .readOnly => .error .readOnly transaction
      | .readWrite =>
          match transaction.store.collision? merged row.1 with
          | some fault => .error (.constraint fault) transaction
          | none =>
              .ok merged { transaction with store := transaction.store.place row.1 merged } := by
  have own := suits.ofField?_merge consistent stored patch
  simp only [actOn, operation, bind, EStateM.bind, Transaction.put, Transaction.change,
    Store.put_of_ofField? own]
  cases transaction.mode with
  | readOnly => rfl
  | readWrite =>
      cases transaction.store.collision? (Record.merge row.2 patch traversal.primaryField)
        row.1 <;> rfl

/-- Acting on a stored record keeps the store consistent and changes no other
record. -/
theorem differsAt_of_actOn (suits : traversal.Suits transaction.store)
    (consistent : transaction.store.Consistent)
    (stored : transaction.store.get? row.1 = some row.2) {result : Record} {after : Transaction}
    (acted : traversal.actOn row transaction = .ok result after) :
    after.store.Consistent ∧ Store.DiffersAt row.1 transaction.store after.store := by
  cases operation : traversal.operation with
  | find =>
      simp only [actOn, operation] at acted
      cases acted
      exact ⟨consistent, Store.differsAt_refl _ _⟩
  | delete =>
      simp only [actOn, operation, bind, EStateM.bind, Transaction.delete, Transaction.change]
        at acted
      cases mode : transaction.mode with
      | readOnly => simp [mode] at acted
      | readWrite =>
          simp only [mode] at acted
          cases acted
          exact ⟨consistent.delete row.1, Store.differsAt_delete row.1 _⟩
  | update patch =>
      rw [actOn_update suits consistent stored operation] at acted
      cases mode : transaction.mode with
      | readOnly => simp [mode] at acted
      | readWrite =>
          simp only [mode] at acted
          split at acted
          · contradiction
          · rename_i free
            cases acted
            have own := suits.ofField?_merge consistent stored patch
            exact ⟨consistent.place own free, Store.differsAt_place row.1 _ _⟩

/-- A record that cannot be acted on leaves the store as it was. -/
theorem eq_of_actOn_eq_error (suits : traversal.Suits transaction.store)
    (consistent : transaction.store.Consistent)
    (stored : transaction.store.get? row.1 = some row.2) {error : StorageError}
    {after : Transaction} (failed : traversal.actOn row transaction = .error error after) :
    after = transaction := by
  cases operation : traversal.operation with
  | find =>
      simp only [actOn, operation] at failed
      cases failed
  | delete =>
      simp only [actOn, operation, bind, EStateM.bind, Transaction.delete, Transaction.change]
        at failed
      cases mode : transaction.mode with
      | readOnly =>
          simp only [mode] at failed
          cases failed
          rfl
      | readWrite =>
          simp only [mode] at failed
          cases failed
  | update patch =>
      rw [actOn_update suits consistent stored operation] at failed
      cases mode : transaction.mode with
      | readOnly =>
          simp only [mode] at failed
          cases failed
          rfl
      | readWrite =>
          simp only [mode] at failed
          split at failed
          · cases failed
            rfl
          · contradiction

/-- The record that a cursor stands at after acting on it: none if it was
deleted. -/
def currentAfter (traversal : Traversal) (key : Key) : Option Key :=
  match traversal.operation with
  | .delete => none
  | _ => some key

/-- A cursor acts on its record as a transaction does on the record of the
key. -/
theorem act_eq {cursor : Cursor} (suits : traversal.Suits cursor.transaction.store)
    (consistent : cursor.transaction.store.Consistent)
    (stored : cursor.transaction.store.get? row.1 = some row.2)
    (standing : cursor.current = some row.1) :
    traversal.act row.2 cursor =
      match traversal.actOn row cursor.transaction with
      | .ok result transaction =>
          .ok result { cursor with transaction, current := traversal.currentAfter row.1 }
      | .error error transaction => .error error { cursor with transaction } := by
  obtain ⟨transaction, source, direction, position, current, done⟩ := cursor
  dsimp only at standing stored
  subst standing
  cases operation : traversal.operation with
  | find =>
      simp only [act, actOn, currentAfter, operation]
      rfl
  | delete =>
      simp only [act, actOn, currentAfter, operation, bind, EStateM.bind, Cursor.delete,
        Cursor.inTransaction]
      cases Transaction.delete row.1 transaction <;> rfl
  | update patch =>
      have own := suits.ofField?_merge consistent stored patch
      simp only [act, actOn, currentAfter, operation, bind, EStateM.bind, Cursor.update,
        Cursor.inTransaction, Transaction.put, Transaction.change, Cursor.replace, if_pos own]
      cases transaction.mode with
      | readOnly => rfl
      | readWrite =>
          cases transaction.store.put (Record.merge row.2 patch traversal.primaryField) <;> rfl

end Traversal

end RecordBase
