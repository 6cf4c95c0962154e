import RecordBase.Proofs.Connection.Reachability
import RecordBase.Proofs.Storage.Synchronization
import RecordBase.Proofs.Storage.Versions
import RecordBase.Proofs.Store.Generator
import RecordBase.Proofs.Walk.Entries

/-!
# Stores over calls

A store that is there is never dropped. Whatever is called, and whether it fails, the store
of its name continues it: the primary key is the same, and the generator has not gone back.
As long as nobody connects, its indexes are declared as they were, too.
-/

namespace RecordBase

open RecordBase.Action

/-! ## Stores that continue others -/

namespace Store

/-- A store has the primary key of another, and its generator is no lower. -/
structure Continues (before after : Store) : Prop where
  primaryKey : after.primaryKey = before.primaryKey
  generator : before.generator ≤ after.generator

variable {store first second third changed : Store}

theorem Continues.refl (store : Store) : store.Continues store :=
  ⟨rfl, Nat.le_refl _⟩

theorem Continues.trans (before : first.Continues second) (after : second.Continues third) :
    first.Continues third :=
  ⟨after.primaryKey.trans before.primaryKey, Nat.le_trans before.generator after.generator⟩

theorem SameData.continues (data : store.SameData changed) : store.Continues changed :=
  ⟨data.primaryKey, Nat.le_of_eq data.generator.symm⟩

theorem continues_after (store : Store) (change : Change) :
    store.Continues (store.after change) :=
  ⟨primaryKey_after store change, generator_le_after store change⟩

theorem continues_of_run {change : Change} (succeeded : change.run store = .ok changed) :
    store.Continues changed :=
  after_of_run succeeded ▸ continues_after store change

theorem lasting_continues (before : Store) : Lasting before.Continues where
  add := fun continues added => continues.trans (continues_of_run (run_add added))
  put := fun continues written => continues.trans (continues_of_run (run_put written))
  delete := fun key continues => continues.trans (continues_after _ (.delete key))

/-- Writes of records leave the declarations of the indexes alone. -/
theorem lasting_described (before : Store) :
    Lasting fun store => ∀ name, store.descriptor? name = before.descriptor? name := by
  have written : ∀ {store changed : Store} {record : Record} {value : Value} {overwrite : Bool},
      store.write record overwrite = .ok (value, changed) →
        ∀ name, changed.descriptor? name = store.descriptor? name := by
    intro store changed record value overwrite written
    obtain ⟨key, full, _, _, _, _, rfl⟩ := write_eq_ok_iff.mp written
    exact (differsAt_place key full store).described
  exact
    { add := fun same added name => (written added name).trans (same name)
      put := fun same put name => (written put name).trans (same name)
      delete := fun key same name =>
        ((differsAt_delete key _).described name).trans (same name) }

end Store

/-! ## Connecting -/

/-- Synchronization that succeeds leaves every store with its data. -/
theorem Database.kept_of_synchronize {catalog : Catalog} {database after : Database}
    {name : String} {store : Store} (keyed : catalog.Keyed) (sound : database.All Store.Reachable)
    (synced : synchronize catalog database = .ok () after)
    (stored : database.stores.get? name = some store) :
    ∃ changed, after.stores.get? name = some changed ∧ store.SameData changed := by
  obtain ⟨made, others⟩ := synchronize_ok keyed sound synced
  cases declared : catalog.get? name with
  | none => exact ⟨store, (others name declared).trans stored, .refl store⟩
  | some type =>
      obtain ⟨rfl, _⟩ := keyed name type declared
      have listed : type ∈ catalog.toList := SortedMap.mem_values_iff.mpr ⟨_, declared⟩
      obtain ⟨changed, held, syncedFrom⟩ := made type listed
      have data := syncedFrom.data
      rw [stored] at data
      exact ⟨changed, held, data⟩

namespace Connection

variable {storage : Storage} {configuration : Configuration} {catalog : Catalog}

/-- Connecting at a higher version succeeds if the database can be brought in line. -/
theorem connect_of_synchronize (accepted : configuration.catalog = .ok catalog)
    (raised : (storage.database configuration.name).version < configuration.version)
    {upgraded : Database}
    (synced : Database.synchronize catalog (storage.database configuration.name) =
      .ok () upgraded) :
    connect storage configuration =
      .ok ⟨configuration.name, configuration.version, catalog⟩
        (storage.keep configuration.name
          { upgraded with version := configuration.version }) := by
  have inLine := upgrade_noHook catalog (storage.previous? configuration.name)
    configuration.version (storage.database configuration.name)
  rw [connect_of_catalog accepted]
  rcases Storage.openDatabase_cases storage configuration.name configuration.version
    (upgrade catalog noHook) with
    ⟨below, _⟩ | ⟨same, _⟩ | ⟨_, after, ran, ended⟩ | ⟨_, error, given, ran, _⟩
  · exact absurd below (Nat.not_lt.mpr (Nat.le_of_lt raised))
  · exact absurd same (Nat.ne_of_gt raised)
  · rw [ran, synced] at inLine
    cases inLine
    rw [ended]
  · rw [ran, synced] at inLine
    contradiction

/-- Connecting leaves the databases as they were, unless it brings one in line. -/
theorem left_connect_cases (storage : Storage) (configuration : Configuration) :
    (∀ name, (left (connect storage configuration)).database name = storage.database name) ∨
      ∃ catalog upgraded, configuration.catalog = .ok catalog ∧
        Database.synchronize catalog (storage.database configuration.name) = .ok () upgraded ∧
        left (connect storage configuration) =
          storage.keep configuration.name { upgraded with version := configuration.version } := by
  cases accepted : configuration.catalog with
  | error error =>
      left
      intro name
      simp only [connect, openWith, accepted, Action.left]
  | ok catalog =>
      rw [connect_of_catalog accepted]
      rcases Storage.openDatabase_cases storage configuration.name configuration.version
        (upgrade catalog noHook) with
        ⟨_, ended⟩ | ⟨_, ended⟩ | ⟨_, upgraded, ran, ended⟩ | ⟨_, error, given, _, ended⟩
      · rw [ended]
        exact .inl (Storage.database_keep_found storage configuration.name)
      · rw [ended]
        exact .inl (Storage.database_keep_found storage configuration.name)
      · rw [ended]
        rw [upgrade_noHook] at ran
        exact .inr ⟨catalog, upgraded, rfl, ran, rfl⟩
      · rw [ended]
        exact .inl (Storage.database_keep_found storage configuration.name)

end Connection

namespace Storage

variable {storage : Storage} {name storeName : String} {store : Store}

theorem has_connect (all : storage.All Store.Reachable)
    (continued : storage.Has name storeName store.Continues) (configuration : Configuration) :
    (left (Connection.connect storage configuration)).Has name storeName store.Continues := by
  obtain ⟨held, stored, continues⟩ := continued
  rcases Connection.left_connect_cases storage configuration with
    same | ⟨catalog, upgraded, accepted, synced, connected⟩
  · exact ⟨held, by rw [same, stored], continues⟩
  · rw [connected]
    by_cases other : configuration.name = name
    · subst other
      obtain ⟨changed, kept, data⟩ := Database.kept_of_synchronize
        (Catalog.keyed_of_configuration accepted) (all.found _) synced stored
      exact ⟨changed, by rw [database_keep]; exact kept, continues.trans data.continues⟩
    · exact ⟨held, by rw [database_keep_of_ne _ _ other, stored], continues⟩

/-! ## Runs of calls -/

theorem Reachable.foldl (reachable : storage.Reachable) (calls : List Call) :
    (calls.foldl Storage.after storage).Reachable := by
  induction calls generalizing storage with
  | nil => exact reachable
  | cons call rest inductionHypothesis => exact inductionHypothesis (reachable.after call)

/-- Whatever is called, the store of a name continues the one that was there. -/
theorem Reachable.has_foldl (reachable : storage.Reachable)
    (continued : storage.Has name storeName store.Continues) (calls : List Call) :
    (calls.foldl Storage.after storage).Has name storeName store.Continues := by
  induction calls generalizing storage with
  | nil => exact continued
  | cons call rest inductionHypothesis =>
      apply inductionHypothesis (reachable.after call)
      exact within_after (lasting_has store.lasting_continues name storeName) continued
        fun configuration _ => has_connect reachable.all continued configuration

/-- A call that connects. -/
def Call.Connects : Call → Prop
  | .connect _ => True
  | _ => False

/-- While nobody connects, the indexes of a store are declared as they were. -/
theorem has_described_foldl
    (described : storage.Has name storeName fun held =>
      ∀ index, held.descriptor? index = store.descriptor? index)
    {calls : List Call} (quiet : ∀ call ∈ calls, ¬call.Connects) :
    (calls.foldl Storage.after storage).Has name storeName fun held =>
      ∀ index, held.descriptor? index = store.descriptor? index := by
  induction calls generalizing storage with
  | nil => exact described
  | cons call rest inductionHypothesis =>
      rw [List.forall_mem_cons] at quiet
      refine inductionHypothesis ?_ quiet.2
      apply within_after (lasting_has store.lasting_described name storeName) described
      rintro configuration rfl
      exact absurd trivial quiet.1

end Storage

end RecordBase
