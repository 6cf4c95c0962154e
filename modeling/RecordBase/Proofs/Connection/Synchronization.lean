import RecordBase.Proofs.Connection.Reachability
import RecordBase.Proofs.Query.Coverage
import RecordBase.Proofs.Storage.Synchronization

/-!
# What connecting makes of a storage

Connecting at a higher version brings the stores of a database in line with the
catalog of its configuration. Every declared store is there afterwards and has
every declared index. Its primary key is the declared one exactly if the store is
new or had that primary key before: a change of the primary key of a store is
neither carried out nor refused.
-/

namespace RecordBase

open RecordBase.Action

namespace Storage

/-- An upgrade that succeeds is what opening at a higher version comes to. -/
theorem openDatabase_ok {storage after : Storage} {name : String} {version : Nat} {ρ : Type}
    {upgrade : Upgrade ρ} {handle : Handle} (raised : (storage.database name).version < version)
    (opened : (storage.openDatabase name version upgrade).2 = .ok handle after) :
    ∃ previous upgraded,
      (upgrade previous version (storage.database name)).2 = .ok () upgraded ∧
      after.database name = { upgraded with version } := by
  rcases openDatabase_cases storage name version upgrade with ⟨below, _⟩ | ⟨same, _⟩ |
    ⟨_, upgraded, ran, ended⟩ | ⟨_, error, given, _, ended⟩
  · exact absurd below (Nat.not_lt.mpr (Nat.le_of_lt raised))
  · exact absurd same (Nat.ne_of_gt raised)
  · rw [ended] at opened
    obtain ⟨rfl, rfl⟩ := EStateM.Result.ok.inj opened
    exact ⟨_, upgraded, ran, database_keep _ _ _⟩
  · rw [ended] at opened
    contradiction

end Storage

namespace Connection

variable {storage after : Storage} {configuration : Configuration} {connection : Connection}

/-- What a connection at a higher version is made of: the catalog of its
configuration and the database in line with it. -/
theorem connect_ok
    (raised : (storage.database configuration.name).version < configuration.version)
    (connected : connect storage configuration = .ok connection after) :
    configuration.catalog = .ok connection.catalog ∧
      ∃ upgraded,
        Database.synchronize connection.catalog (storage.database configuration.name) =
          .ok () upgraded ∧
        after.database configuration.name =
          { upgraded with version := configuration.version } := by
  unfold connect openWith at connected
  cases accepted : configuration.catalog with
  | error error => simp [accepted] at connected
  | ok catalog =>
      simp only [accepted] at connected
      split at connected
      · rename_i handle last opened
        obtain ⟨rfl, rfl⟩ := EStateM.Result.ok.inj connected
        obtain ⟨previous, upgraded, ran, kept⟩ :=
          Storage.openDatabase_ok raised (congrArg Prod.snd opened)
        refine ⟨rfl, upgraded, ?_, kept⟩
        unfold upgrade at ran
        cases synced : Database.synchronize catalog (storage.database configuration.name) with
        | error error failed => simp [synced] at ran
        | ok nothing inLine =>
            simp only [synced, noHook] at ran
            exact ran
      · contradiction

/-- After a connection at a higher version the database has, for each record type, the
store that synchronization makes of the one before. -/
theorem synced_of_connect (reachable : storage.Reachable)
    (raised : (storage.database configuration.name).version < configuration.version)
    (connected : connect storage configuration = .ok connection after) :
    (after.database configuration.name).version = configuration.version ∧
    ∀ type ∈ connection.catalog.toList, ∃ store,
      (after.database configuration.name).stores.get? type.storeName = some store ∧
      Database.SyncedFrom type
        ((storage.database configuration.name).stores.get? type.storeName) store := by
  obtain ⟨accepted, upgraded, synced, inLine⟩ := connect_ok raised connected
  have sound := reachable.all.found configuration.name
  obtain ⟨made, _⟩ :=
    Database.synchronize_ok (Catalog.keyed_of_configuration accepted) sound synced
  rw [inLine]
  exact ⟨rfl, made⟩

/-- A connection at a higher version may be queried by its catalog alone, unless a
store was there whose primary field is another than the declared one. -/
theorem agrees_of_connect (reachable : storage.Reachable)
    (raised : (storage.database configuration.name).version < configuration.version)
    (connected : connect storage configuration = .ok connection after) {type : RecordType}
    (declared : type ∈ connection.catalog.toList)
    (kept : ∀ old,
      (storage.database configuration.name).stores.get? type.storeName = some old →
        old.primaryKey.field = type.primaryField) :
    ∃ store, (after.database configuration.name).stores.get? type.storeName = some store ∧
      type.Agrees store := by
  obtain ⟨store, held, synced⟩ := (synced_of_connect reachable raised connected).2 type declared
  refine ⟨store, held, ?_, ?_⟩
  · rw [synced.data.primaryKey]
    cases found : (storage.database configuration.name).stores.get? type.storeName with
    | none => rfl
    | some old => exact (kept old found).symm
  · intro index member
    have described := synced.declared index member
    obtain ⟨built, stored, same⟩ := Option.map_eq_some_iff.mp described
    rw [stored, Option.map_some, same]

/-- A connection at a higher version leaves a store with every declared index for every record
type. A store that was there keeps its primary key. -/
theorem connect_brings_in_line (reachable : storage.Reachable)
    (raised : (storage.database configuration.name).version < configuration.version)
    (connected : connect storage configuration = .ok connection after) :
    (after.database configuration.name).version = configuration.version ∧
    ∀ type ∈ connection.catalog.toList, ∃ store,
      (after.database configuration.name).stores.get? type.storeName = some store ∧
      (∀ index ∈ type.indexes,
        (store.indexes.get? index.name).map (·.descriptor) = some index) ∧
      (∀ old, (storage.database configuration.name).stores.get? type.storeName = some old →
        store.primaryKey = old.primaryKey ∧ store.records = old.records ∧
        store.generator = old.generator) ∧
      (store.primaryKey = type.primaryKey ↔
        ∀ old, (storage.database configuration.name).stores.get? type.storeName = some old →
          old.primaryKey = type.primaryKey) := by
  obtain ⟨version, made⟩ := synced_of_connect reachable raised connected
  refine ⟨version, ?_⟩
  intro type declared
  obtain ⟨store, held, synced⟩ := made type declared
  refine ⟨store, held, synced.declared, ?_, ?_⟩
  · intro old found
    have data := synced.data
    rw [found] at data
    exact ⟨data.primaryKey, data.records, data.generator⟩
  · have data := synced.data
    cases found : (storage.database configuration.name).stores.get? type.storeName with
    | none =>
        rw [found] at data
        simp [data.primaryKey]
    | some old =>
        rw [found] at data
        simp [data.primaryKey]

/-- An index is built anew on another field, over the records that there are, and a
store is added. -/
theorem connect_brings_in_line_rebuilding :
    let people : RecordType := { storeName := "people" }
    let first : Configuration :=
      ⟨"main", 1, [{ people with indexes := [⟨"by_name", false, .single "name"⟩] }]⟩
    let second : Configuration :=
      ⟨"main", 2, [{ people with indexes := [⟨"by_name", true, .single "alias"⟩] },
        { storeName := "places" }]⟩
    let storage := (({} : Storage).after (.connect first)).after
      (.insertOne ⟨"main", 1, .empty⟩ people (.object [("alias", .string "a")]))
    storage.Reachable ∧ (storage.database "main").version < 2 ∧
      ∃ connection after, connect storage second = .ok connection after ∧
        connection.catalog.toList.map (·.storeName) = ["people", "places"] ∧
        ∀ type ∈ connection.catalog.toList, ∃ store,
          (after.database "main").stores.get? type.storeName = some store ∧
          (∀ index ∈ type.indexes,
            (store.indexes.get? index.name).map (·.descriptor) = some index) ∧
          store.primaryKey = type.primaryKey := by
  intro people first second storage
  have reachable : storage.Reachable := (Storage.Reachable.empty.after _).after _
  have raised : (storage.database second.name).version < second.version := by decide +kernel
  have settled : (match connect storage second with
      | .error _ _ => false
      | .ok connection _ =>
          connection.catalog.toList.map (·.storeName) = ["people", "places"] &&
          connection.catalog.toList.all fun type =>
            ((storage.database "main").stores.get? type.storeName).all fun old =>
              old.primaryKey = type.primaryKey) = true := by
    decide +kernel
  clear_value storage
  refine ⟨reachable, raised, ?_⟩
  cases connected : connect storage second with
  | error error after =>
      rw [connected] at settled
      contradiction
  | ok connection after =>
      simp only [connected, Bool.and_eq_true, decide_eq_true_eq, List.all_eq_true] at settled
      obtain ⟨names, unchanged⟩ := settled
      refine ⟨connection, after, rfl, names, ?_⟩
      intro type declared
      obtain ⟨store, held, indexed, _, primaryKey⟩ :=
        (connect_brings_in_line reachable raised connected).2 type declared
      refine ⟨store, held, indexed, primaryKey.mpr ?_⟩
      intro old found
      have same := unchanged type declared
      change (storage.database "main").stores.get? type.storeName = some old at found
      rw [found] at same
      simpa using same

/-- A store whose record type comes with another primary key is left with the one
that it had, and the connection is made all the same. -/
theorem connect_leaves_primary_key :
    let declaring (primaryKey : PrimaryKey) (version : Nat) : Configuration :=
      ⟨"main", version, [{ storeName := "s", primaryKey }]⟩
    let storage := ({} : Storage).after (.connect (declaring { field := "id" } 1))
    storage.Reachable ∧ (storage.database "main").version < 2 ∧
      ∃ connection after,
        connect storage (declaring { field := "key" } 2) = .ok connection after ∧
        ∃ type ∈ connection.catalog.toList, ∀ store,
          (after.database "main").stores.get? type.storeName = some store →
            store.primaryKey ≠ type.primaryKey := by
  intro declaring storage
  refine ⟨Storage.Reachable.empty.after _, by decide +kernel, ?_⟩
  have differs : (match connect storage (declaring { field := "key" } 2) with
      | .error _ _ => false
      | .ok connection after =>
          connection.catalog.toList.any fun type =>
            ((after.database "main").stores.get? type.storeName).all fun store =>
              store.primaryKey ≠ type.primaryKey) = true := by
    decide +kernel
  cases connected : connect storage (declaring { field := "key" } 2) with
  | error error after =>
      rw [connected] at differs
      contradiction
  | ok connection after =>
      simp only [connected, List.any_eq_true] at differs
      obtain ⟨type, declared, other⟩ := differs
      refine ⟨connection, after, rfl, type, declared, ?_⟩
      intro store held
      rw [held] at other
      simpa using other

end Connection

end RecordBase
