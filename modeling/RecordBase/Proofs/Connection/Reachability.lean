import RecordBase.Connection.Operations
import RecordBase.Proofs.Storage.Stores

/-!
# Storages that calls lead to

A storage changes when a connection is opened and when records are inserted,
updated and deleted. Whatever the connections and record types are, whichever of
the calls fail and how far they come, every store in it is one that changes of a
single store lead to. So what holds of all those stores holds in a storage, too.
-/

namespace RecordBase

open RecordBase.Action

variable {within : Storage → Prop}

/-! ## Operations on records -/

namespace Connection

variable {type : RecordType}

theorem within_insertEach {kept : Transaction → Prop} (lasting : Transaction.Lasting kept)
    (values : List Value) {transaction : Transaction} (before : kept transaction) :
    kept (insertEach type values transaction).2 := by
  induction values generalizing transaction with
  | nil => exact before
  | cons value rest inductionHypothesis =>
      unfold insertEach
      cases prepare type value with
      | error error => exact inductionHypothesis before
      | ok record =>
          dsimp only
          rcases (Transaction.keeps_add lasting record).outcome before with
            ⟨_, _, outcome, added⟩ | ⟨_, _, outcome, same⟩
          · rw [outcome]
            exact inductionHypothesis added
          · rw [outcome]
            exact inductionHypothesis same

theorem keeps_insertOne (lasting : Storage.Lasting within) (connection : Connection)
    (value : Value) : Keeps within (connection.insertOne type value) := by
  unfold insertOne
  cases prepare type value with
  | error error => exact keeps_throw error
  | ok record => exact lasting _ _ _ fun _ writes => Transaction.keeps_add writes record

theorem keeps_insert (lasting : Storage.Lasting within) (connection : Connection)
    (values : List Value) : Keeps within (connection.insert type values) := by
  refine Keeps.ite (keeps_pure []) (lasting _ _ _ ?_)
  intro kept writes transaction before
  exact within_insertEach writes values before

theorem keeps_traverse (lasting : Storage.Lasting within) (connection : Connection)
    (request : Request) (operation : Operation) (single : Bool) :
    Keeps within (connection.traverse type request operation single) :=
  Keeps.ite (keeps_pure _) (lasting _ _ _ fun _ writes => Traversal.keeps_run writes _)

/-- What is made of the records found leaves the storage alone. -/
theorem keeps_result {α : Type} (lasting : Storage.Lasting within) (connection : Connection)
    (request : Request) (operation : Operation) (single : Bool) (project : Found → α) :
    Keeps within (do return project (← connection.traverse type request operation single)) :=
  (keeps_traverse lasting connection request operation single).bind fun found =>
    keeps_pure (project found)

theorem keeps_updateOne (lasting : Storage.Lasting within) (connection : Connection)
    (patch : Value) (request : Request) :
    Keeps within (connection.updateOne type patch request) := by
  unfold updateOne
  cases patch.asRecord with
  | error error => exact keeps_throw error
  | ok patch => exact keeps_result lasting connection request (.update patch) true _

theorem keeps_update (lasting : Storage.Lasting within) (connection : Connection)
    (patch : Value) (request : Request) :
    Keeps within (connection.update type patch request) := by
  unfold update
  cases patch.asRecord with
  | error error => exact keeps_throw error
  | ok patch => exact keeps_result lasting connection request (.update patch) false _

theorem keeps_deleteOne (lasting : Storage.Lasting within) (connection : Connection)
    (request : Request) : Keeps within (connection.deleteOne type request) :=
  keeps_result lasting connection request .delete true _

theorem keeps_delete (lasting : Storage.Lasting within) (connection : Connection)
    (request : Request) : Keeps within (connection.delete type request) :=
  keeps_result lasting connection request .delete false _

/-! ## Connecting -/

/-- The upgrade of a connection comes to what synchronization comes to. -/
theorem upgrade_noHook (catalog : Catalog) (previous : Option Nat) (version : Nat)
    (database : Database) :
    (upgrade catalog noHook previous version database).2 =
      Database.synchronize catalog database := by
  unfold upgrade
  cases Database.synchronize catalog database <;> rfl

/-- What connecting comes to once the configuration is accepted. -/
theorem connect_of_catalog {storage : Storage} {configuration : Configuration}
    {catalog : Catalog} (accepted : configuration.catalog = .ok catalog) :
    connect storage configuration =
      match (storage.openDatabase configuration.name configuration.version
        (upgrade catalog noHook)).2 with
      | .ok handle after => .ok ⟨handle.name, handle.version, catalog⟩ after
      | .error error after => .error (.storage error) after := by
  unfold connect openWith
  rw [accepted]
  dsimp only
  rcases storage.openDatabase configuration.name configuration.version
    (upgrade catalog noHook) with ⟨report, outcome⟩
  cases outcome <;> rfl

end Connection

namespace Storage

/-! ## Calls -/

/-- A call that may change a storage. Any connection may be used with any record
type. -/
inductive Call where
  | connect (configuration : Configuration)
  | insertOne (connection : Connection) (type : RecordType) (value : Value)
  | insert (connection : Connection) (type : RecordType) (values : List Value)
  | updateOne (connection : Connection) (type : RecordType) (patch : Value) (request : Request)
  | update (connection : Connection) (type : RecordType) (patch : Value) (request : Request)
  | deleteOne (connection : Connection) (type : RecordType) (request : Request)
  | delete (connection : Connection) (type : RecordType) (request : Request)

/-- The storage after a call, also if it failed. -/
def after (storage : Storage) : Call → Storage
  | .connect configuration => left (Connection.connect storage configuration)
  | .insertOne connection type value => left (connection.insertOne type value storage)
  | .insert connection type values => left (connection.insert type values storage)
  | .updateOne connection type patch request =>
      left (connection.updateOne type patch request storage)
  | .update connection type patch request => left (connection.update type patch request storage)
  | .deleteOne connection type request => left (connection.deleteOne type request storage)
  | .delete connection type request => left (connection.delete type request storage)

/-- The storages that calls lead to from an empty one. -/
inductive Reachable : Storage → Prop
  | empty : Reachable {}
  | after {storage : Storage} (reachable : Reachable storage) (call : Call) :
      Reachable (storage.after call)

theorem all_connect {storage : Storage} (all : storage.All Store.Reachable)
    (configuration : Configuration) :
    (left (Connection.connect storage configuration)).All Store.Reachable := by
  cases accepted : configuration.catalog with
  | error error =>
      simp only [Connection.connect, Connection.openWith, accepted]
      exact all
  | ok catalog =>
      have keeps : ∀ previous version (database : Database), database.All Store.Reachable →
          (left (Connection.upgrade catalog Connection.noHook previous version database).2).All
            Store.Reachable := by
        intro previous version database sound
        rw [Connection.upgrade_noHook]
        exact Database.keeps_synchronize catalog database sound
      have kept := all.openDatabase keeps configuration.name configuration.version
      rw [Connection.connect_of_catalog accepted]
      split
      · rename_i opened
        rw [opened] at kept
        exact kept
      · rename_i opened
        rw [opened] at kept
        exact kept

/-- A call keeps what no writing of records takes away, and no connecting. -/
theorem within_after (lasting : Lasting within) {storage : Storage} (before : within storage)
    {call : Call} (connects : ∀ configuration, call = .connect configuration →
      within (left (Connection.connect storage configuration))) : within (storage.after call) := by
  cases call with
  | connect configuration => exact connects configuration rfl
  | insertOne connection type value =>
      exact Connection.keeps_insertOne lasting connection value _ before
  | insert connection type values =>
      exact Connection.keeps_insert lasting connection values _ before
  | updateOne connection type patch request =>
      exact Connection.keeps_updateOne lasting connection patch request _ before
  | update connection type patch request =>
      exact Connection.keeps_update lasting connection patch request _ before
  | deleteOne connection type request =>
      exact Connection.keeps_deleteOne lasting connection request _ before
  | delete connection type request =>
      exact Connection.keeps_delete lasting connection request _ before

/-- Every store of a storage that calls lead to is one that changes of a store
lead to. -/
theorem Reachable.all {storage : Storage} (reachable : storage.Reachable) :
    storage.All Store.Reachable := by
  induction reachable with
  | empty => exact all_empty
  | after reachable call inductionHypothesis =>
      exact within_after (lasting_all Store.lasting_reachable) inductionHypothesis
        fun configuration _ => all_connect inductionHypothesis configuration

end Storage

end RecordBase
