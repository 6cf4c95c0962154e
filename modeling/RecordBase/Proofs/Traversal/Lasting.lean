import RecordBase.Proofs.Storage.Action
import RecordBase.Proofs.Store.Consistency
import RecordBase.Traversal

/-!
# What writes of records leave in force

Every operation on records changes a store by adding, putting and deleting single
records. A property of stores that none of these takes away therefore outlasts all
operations, on whatever plan they run and wherever they fail. So does one of transactions,
which can also tell the store by its name.
-/

namespace RecordBase

open RecordBase.Action

/-- A property of stores that no write of a record takes away. -/
structure Store.Lasting (holds : Store → Prop) : Prop where
  add : ∀ {store record value changed}, holds store →
    store.add record = .ok (value, changed) → holds changed
  put : ∀ {store record value changed}, holds store →
    store.put record = .ok (value, changed) → holds changed
  delete : ∀ {store} (key : Key), holds store → holds (store.delete key).2

/-- Being one that calls lead to is such a property. -/
theorem Store.lasting_reachable : Store.Lasting Store.Reachable where
  add := by
    intro store record value changed reachable added
    exact reachable.of_run (Store.run_add added)
  put := by
    intro store record value changed reachable written
    exact reachable.of_run (Store.run_put written)
  delete := by
    intro store key reachable
    exact reachable.after (.delete key)

/-- What lasts where it holds, lasts under an assumption. -/
theorem Store.Lasting.imp {holds : Store → Prop} (lasting : Store.Lasting holds)
    (assumed : Prop) : Store.Lasting fun store => assumed → holds store where
  add := fun before added given => lasting.add (before given) added
  put := fun before written given => lasting.put (before given) written
  delete := fun key before given => lasting.delete key (before given)

variable {holds : Store → Prop} {within : Transaction → Prop}

/-! ## Transactions -/

namespace Transaction

/-- The store of a transaction has a property. -/
def Holds (holds : Store → Prop) (transaction : Transaction) : Prop :=
  holds transaction.store

/-- A property of transactions that no write of a record takes away. -/
structure Lasting (within : Transaction → Prop) : Prop where
  add : ∀ {transaction record value changed}, within transaction →
    transaction.store.add record = .ok (value, changed) →
    within { transaction with store := changed }
  put : ∀ {transaction record value changed}, within transaction →
    transaction.store.put record = .ok (value, changed) →
    within { transaction with store := changed }
  delete : ∀ {transaction} (key : Key), within transaction →
    within { transaction with store := (transaction.store.delete key).2 }

/-- What lasts in the store lasts in the transaction. -/
theorem lasting_holds (lasting : Store.Lasting holds) : Lasting (Holds holds) where
  add := lasting.add
  put := lasting.put
  delete := lasting.delete

/-- A transaction stays with its store. -/
theorem lasting_named (lasting : Store.Lasting holds) (name : String) :
    Lasting fun transaction => transaction.storeName = name ∧ holds transaction.store where
  add := fun ⟨named, before⟩ added => ⟨named, lasting.add before added⟩
  put := fun ⟨named, before⟩ written => ⟨named, lasting.put before written⟩
  delete := fun key ⟨named, before⟩ => ⟨named, lasting.delete key before⟩

theorem keeps_change {α : Type} {run : Store → Except StorageError (α × Store)}
    (keeps : ∀ {transaction result changed}, within transaction →
      run transaction.store = .ok (result, changed) →
        within { transaction with store := changed }) : Keeps within (change run) := by
  rintro ⟨storeName, mode, store⟩ before
  unfold change
  cases mode with
  | readOnly => exact before
  | readWrite =>
      dsimp only
      cases outcome : run store with
      | error error => exact before
      | ok written => exact keeps before outcome

theorem keeps_add (lasting : Lasting within) (record : Record) : Keeps within (add record) :=
  keeps_change lasting.add

theorem keeps_put (lasting : Lasting within) (record : Record) : Keeps within (put record) :=
  keeps_change lasting.put

theorem keeps_delete (lasting : Lasting within) (key : Key) : Keeps within (delete key) := by
  apply keeps_change
  intro transaction result changed before deleted
  obtain rfl : (transaction.store.delete key).2 = changed :=
    congrArg Prod.snd (Except.ok.inj deleted)
  exact lasting.delete key before

theorem keeps_replace (lasting : Lasting within) (key : Key) (record : Record) :
    Keeps within (change (Cursor.replace key record)) := by
  apply keeps_change
  intro transaction result changed before replaced
  unfold Cursor.replace at replaced
  split at replaced
  · exact lasting.put before replaced
  · contradiction

end Transaction

/-! ## Cursors -/

namespace Cursor

/-- The store that a cursor walks has a property. -/
def Holds (holds : Store → Prop) (cursor : Cursor) : Prop :=
  cursor.transaction.Holds holds

/-- The transaction of a cursor has a property. -/
def Within (within : Transaction → Prop) (cursor : Cursor) : Prop :=
  within cursor.transaction

theorem keeps_advance : Keeps (Within within) advance := by
  intro cursor before
  unfold advance
  split
  · exact before
  · split
    · exact before
    · exact before
    · split
      · exact before
      · exact before

theorem keeps_inTransaction {α : Type} {action : Action Transaction α}
    (keeps : Keeps within action) : Keeps (Within within) (inTransaction action) := by
  intro cursor before
  unfold inTransaction
  rcases keeps.outcome before with ⟨_, _, outcome, kept⟩ | ⟨_, _, outcome, kept⟩
  · rw [outcome]
    exact kept
  · rw [outcome]
    exact kept

theorem keeps_delete (lasting : Transaction.Lasting within) : Keeps (Within within) delete := by
  intro cursor before
  unfold delete
  cases cursor.current with
  | none => exact before
  | some key =>
      have deletes := keeps_inTransaction (Transaction.keeps_delete lasting key)
      dsimp only
      rcases deletes.outcome before with ⟨_, _, outcome, kept⟩ | ⟨_, _, outcome, kept⟩
      · rw [outcome]
        exact kept
      · rw [outcome]
        exact kept

theorem keeps_update (lasting : Transaction.Lasting within) (record : Record) :
    Keeps (Within within) (update record) := by
  intro cursor before
  unfold update
  cases cursor.current with
  | none => exact before
  | some key =>
      have replaces := keeps_inTransaction (Transaction.keeps_replace lasting key record)
      dsimp only
      rcases replaces.outcome before with
        ⟨_, _, outcome, kept⟩ | ⟨_, _, outcome, kept⟩
      · rw [outcome]
        exact kept
      · rw [outcome]
        exact kept

theorem keeps_rest (steps : Nat) : Keeps (Within within) (rest steps) := by
  induction steps with
  | zero => exact keeps_throw _
  | succ steps inductionHypothesis =>
      refine keeps_advance.bind fun met => ?_
      cases met with
      | none => exact keeps_pure []
      | some entry =>
          exact inductionHypothesis.bind fun entries => keeps_pure (entry :: entries)

theorem transaction_of_start {transaction : Transaction} {source : ScanSource}
    {direction : Direction} {cursor : Cursor}
    (started : start transaction source direction = .ok cursor) :
    cursor.transaction = transaction := by
  unfold start at started
  split at started
  · split at started
    · cases started
      rfl
    · contradiction
  · cases started
    rfl

end Cursor

namespace Transaction

theorem keeps_withCursor {α : Type} {source : ScanSource} {direction : Direction}
    {action : Action Cursor α} (keeps : Keeps (Cursor.Within within) action) :
    Keeps within (withCursor source direction action) := by
  intro transaction before
  unfold withCursor
  cases started : Cursor.start transaction source direction with
  | error error => exact before
  | ok cursor =>
      have begun : cursor.Within within := by
        rw [Cursor.Within, Cursor.transaction_of_start started]
        exact before
      dsimp only
      rcases keeps.outcome begun with ⟨_, _, outcome, kept⟩ | ⟨_, _, outcome, kept⟩
      · rw [outcome]
        exact kept
      · rw [outcome]
        exact kept

end Transaction

/-! ## Traversals -/

namespace Traversal

theorem keeps_act (lasting : Transaction.Lasting within) (traversal : Traversal) (record : Record) :
    Keeps (Cursor.Within within) (traversal.act record) := by
  unfold act
  cases traversal.operation with
  | find => exact keeps_pure record
  | delete => exact (Cursor.keeps_delete lasting).bind fun _ => keeps_pure record
  | update patch =>
      exact (Cursor.keeps_update lasting _).bind fun _ => keeps_pure _

theorem keeps_streamFrom (lasting : Transaction.Lasting within) (traversal : Traversal)
    (steps : Nat) (progress : Progress) :
    Keeps (Cursor.Within within) (traversal.streamFrom steps progress) := by
  induction steps generalizing progress with
  | zero => exact keeps_throw _
  | succ steps inductionHypothesis =>
      refine Cursor.keeps_advance.bind fun met => ?_
      cases met with
      | none => exact keeps_pure _
      | some entry =>
          refine Keeps.ite (inductionHypothesis _) (Keeps.ite (inductionHypothesis _) ?_)
          refine (keeps_act lasting traversal entry.2).bind fun result => ?_
          exact Keeps.ite (keeps_pure _) (inductionHypothesis _)

theorem keeps_actOn (lasting : Transaction.Lasting within) (traversal : Traversal)
    (entry : Key × Record) : Keeps within (traversal.actOn entry) := by
  unfold actOn
  cases traversal.operation with
  | find => exact keeps_pure entry.2
  | delete =>
      exact (Transaction.keeps_delete lasting entry.1).bind fun _ => keeps_pure entry.2
  | update patch =>
      exact (Transaction.keeps_put lasting _).bind fun _ => keeps_pure _

/-- A traversal keeps what no write of a record takes away. -/
theorem keeps_run (lasting : Transaction.Lasting within) (traversal : Traversal) :
    Keeps within traversal.run := by
  unfold run
  split
  · exact keeps_pure _
  · split
    · intro transaction before
      exact Transaction.keeps_withCursor (keeps_streamFrom lasting traversal _ _) transaction before
    · have scans : Keeps within
          (Transaction.scan traversal.plan.source traversal.plan.direction) := by
        intro transaction before
        exact Transaction.keeps_withCursor (Cursor.keeps_rest _) transaction before
      exact scans.bind fun met =>
        (Keeps.mapM (keeps_actOn lasting traversal) _).bind fun records => keeps_pure _

end Traversal

end RecordBase
