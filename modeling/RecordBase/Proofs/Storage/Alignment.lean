import RecordBase.Proofs.Connection.Reachability
import RecordBase.Proofs.Storage.Synchronization
import RecordBase.Proofs.Store.Identity
import RecordBase.Proofs.Store.Refusal

/-!
# When synchronization fails and what it leaves alone

Bringing a database in line with a catalog fails exactly if some unique index that
has to be built over a store that is there finds two records with one index key.
If it succeeds, every declared index holds the index keys of the records, and
whatever is not declared is as it was before. A database that is in line stays as
it is.
-/

namespace RecordBase

open RecordBase.Action

namespace Store

variable {store changed : Store} {index : IndexDescriptor} {key : Key} {storeName : String}

/-- A store has no index as declared: none of the name, or one of another uniqueness or
another key path. -/
def Lacks (store : Store) (index : IndexDescriptor) : Prop :=
  ∀ held, store.descriptor? index.name = some held →
    held.unique ≠ index.unique ∨ held.keyPath ≠ index.keyPath

theorem SameData.duplicate_iff (data : store.SameData changed) :
    changed.Duplicate index key ↔ store.Duplicate index key := by
  unfold Duplicate get?
  rw [data.records]

/-- Dropping an index leaves none of its name. -/
theorem descriptor?_deleteIndex {name : String}
    (deleted : store.deleteIndex storeName name = .ok changed) :
    changed.descriptor? name = none := by
  obtain ⟨_, rfl⟩ := deleteIndex_eq_ok_iff.mp deleted
  rw [descriptor?, SortedMap.get?_erase_self, Option.map_none]

/-- Where no index has the name, only records with one index key keep an index from being
built. -/
theorem duplicate_of_createIndex {error : StorageError}
    (absent : store.descriptor? index.name = none)
    (failed : store.createIndex storeName index = .error error) :
    index.unique = true ∧ ∃ key, store.Duplicate index key ∧
      error = .constraint (.indexUnbuildable index.name key) := by
  cases unindexable_of_createIndex failed with
  | indexExists found =>
      rw [descriptor?, found] at absent
      contradiction
  | duplicate unique duplicate => exact ⟨unique, _, duplicate, rfl⟩

/-- No two records of a consistent store share a key of a unique index. -/
theorem Consistent.not_duplicate (consistent : store.Consistent)
    (declared : store.descriptor? index.name = some index) (unique : index.unique = true) :
    ¬ store.Duplicate index key := by
  obtain ⟨built, found, rfl⟩ := Option.map_eq_some_iff.mp declared
  exact not_duplicate_of_mirrors (consistent.mirrors found) unique

/-- An index that is missing or different and unique, which two records keep from being
built. -/
structure Blocked (store : Store) (index : IndexDescriptor) (key : Key) : Prop where
  unique : index.unique = true
  lacks : store.Lacks index
  duplicate : store.Duplicate index key

end Store

namespace Database

variable {database between after : Database} {name : String} {store changed : Store}
  {index : IndexDescriptor} {present : List IndexDescriptor} {type : RecordType}
  {error : StorageError}

/-! ## Failures -/

theorem blocked_of_createIndex (found : database.stores.get? name = some store)
    (absent : store.descriptor? index.name = none)
    (failed : createIndex name index database = .error error after) :
    ∃ key, store.Blocked index key ∧ error = .constraint (.indexUnbuildable index.name key) := by
  have outcome := map_unit_eq_error_iff.mp (changeStore_error found failed)
  obtain ⟨unique, key, duplicate, rfl⟩ := Store.duplicate_of_createIndex absent outcome
  refine ⟨key, ⟨unique, ?_, duplicate⟩, rfl⟩
  intro held described
  rw [absent] at described
  contradiction

/-- Bringing an index in line fails only if it is blocked. -/
theorem blocked_of_syncIndex (found : database.stores.get? name = some store)
    (listed : present.find? (·.name == index.name) = store.descriptor? index.name)
    (failed : syncIndex name present index database = .error error after) :
    ∃ key, store.Blocked index key ∧ error = .constraint (.indexUnbuildable index.name key) := by
  unfold syncIndex at failed
  cases met : present.find? (·.name == index.name) with
  | none =>
      simp only [met] at failed
      exact blocked_of_createIndex found (listed.symm.trans met) failed
  | some held =>
      have described : store.descriptor? index.name = some held := listed.symm.trans met
      simp only [met] at failed
      split at failed
      · contradiction
      · rename_i differs
        rcases bind_eq_error_iff.mp failed with dropping | ⟨_, between, dropped, building⟩
        · have outcome := map_unit_eq_error_iff.mp (changeStore_error found dropping)
          obtain ⟨indexed, stored, _⟩ := Option.map_eq_some_iff.mp described
          simp [Store.deleteIndex, SortedMap.contains, stored] at outcome
        · obtain ⟨other, cleared, stored, outcome, rfl⟩ := changeStore_ok dropped
          obtain rfl : store = other := Option.some.inj (found.symm.trans stored)
          have deleted := map_unit_eq_ok_iff.mp outcome
          have data := (Store.deleteIndex_ok deleted).1
          obtain ⟨key, blocked, rfl⟩ := blocked_of_createIndex (SortedMap.get?_insert_self _ _ _)
            (Store.descriptor?_deleteIndex deleted) building
          refine ⟨key, ⟨blocked.unique, ?_, data.duplicate_iff.mp blocked.duplicate⟩, rfl⟩
          intro again same
          rw [described] at same
          cases same
          exact Decidable.not_and_iff_or_not.mp differs

/-- Bringing the indexes of a store in line fails only if one of them is blocked. Those in
front of it have left its declaration as it was. -/
theorem blocked_of_forM_syncIndex {indexes : List IndexDescriptor}
    (distinct : (indexes.map (·.name)).Nodup)
    (found : database.stores.get? name = some store)
    (listed : ∀ index ∈ indexes,
      present.find? (·.name == index.name) = store.descriptor? index.name)
    (failed : indexes.forM (syncIndex name present) database = .error error after) :
    ∃ index ∈ indexes, ∃ key, store.Blocked index key ∧
      error = .constraint (.indexUnbuildable index.name key) := by
  obtain ⟨front, index, back, between, rfl, passed, stopped⟩ := exists_of_forM_eq_error failed
  rw [List.map_append, List.map_cons, List.nodup_append] at distinct
  obtain ⟨frontDistinct, _, apart⟩ := distinct
  obtain ⟨middle, reindexed, _, kept⟩ := forM_syncIndex_ok frontDistinct found
    (fun other member => listed other (List.mem_append_left _ member)) passed
  have member : index ∈ front ++ index :: back := by simp
  have described : middle.descriptor? index.name = store.descriptor? index.name := by
    apply kept
    intro again
    exact apart _ again _ List.mem_cons_self rfl
  obtain ⟨key, blocked, rfl⟩ :=
    blocked_of_syncIndex reindexed.left ((listed index member).trans described.symm) stopped
  refine ⟨index, member, key,
    ⟨blocked.unique, ?_, reindexed.data.duplicate_iff.mp blocked.duplicate⟩, rfl⟩
  intro held same
  exact blocked.lacks held (described.trans same)

/-- Bringing a store in line fails only if it is there and one of its indexes is blocked:
there are no records in a new one. -/
theorem blocked_of_syncStore {names : List String} (distinct : (type.indexes.map (·.name)).Nodup)
    (known : names.contains type.storeName = database.stores.contains type.storeName)
    (sound : database.All Store.Reachable)
    (failed : syncStore names type database = .error error after) :
    ∃ store, database.stores.get? type.storeName = some store ∧
      ∃ index ∈ type.indexes, ∃ key, store.Blocked index key ∧
        error = .constraint (.indexUnbuildable index.name key) := by
  cases found : database.stores.get? type.storeName with
  | some store =>
      rw [syncStore_of_found known found] at failed
      have consistent := (sound _ store found).consistent
      exact ⟨store, rfl, blocked_of_forM_syncIndex distinct found
        (fun index _ => consistent.find?_descriptors index.name) failed⟩
  | none =>
      rw [syncStore_of_missing known found] at failed
      obtain ⟨index, _, key, blocked, _⟩ := blocked_of_forM_syncIndex distinct
        (SortedMap.get?_insert_self _ _ _) (fun _ _ => rfl) failed
      obtain ⟨first, _, _, _, _, stored, _⟩ := blocked.duplicate
      contradiction

variable {catalog : Catalog}

/-- Synchronization fails only if an index of a store that is there is blocked. The stores
in front of it have left it as it was. -/
theorem blocked_of_synchronize (keyed : catalog.Keyed) (sound : database.All Store.Reachable)
    (failed : synchronize catalog database = .error error after) :
    ∃ type ∈ catalog.toList, ∃ store, database.stores.get? type.storeName = some store ∧
      ∃ index ∈ type.indexes, ∃ key, store.Blocked index key ∧
        error = .constraint (.indexUnbuildable index.name key) := by
  obtain ⟨front, type, back, between, listed, passed, stopped⟩ := exists_of_forM_eq_error failed
  have members : ∀ other ∈ front, other ∈ catalog.toList := by
    intro other member
    rw [listed]
    exact List.mem_append_left _ member
  have member : type ∈ catalog.toList := by
    rw [listed]
    simp
  have distinct := keyed.nodup_storeNames
  rw [listed, List.map_append, List.map_cons, List.nodup_append] at distinct
  obtain ⟨frontDistinct, _, apart⟩ := distinct
  obtain ⟨_, others⟩ := forM_syncStore_ok frontDistinct
    (fun other front => keyed.nodup_indexNames (members other front))
    (fun other _ => contains_storeNames database other.storeName) sound passed
  have same : between.stores.get? type.storeName = database.stores.get? type.storeName := by
    apply others
    intro again
    exact apart _ again _ List.mem_cons_self rfl
  have known : database.storeNames.contains type.storeName =
      between.stores.contains type.storeName := by
    rw [contains_storeNames, SortedMap.contains, SortedMap.contains, same]
  have stillSound := (Keeps.forM (keeps_syncStore database.storeNames) front).of_ok sound passed
  obtain ⟨store, found, blocked⟩ :=
    blocked_of_syncStore (keyed.nodup_indexNames member) known stillSound stopped
  exact ⟨type, member, store, same.symm.trans found, blocked⟩

/-- Synchronization does not succeed where an index is blocked. -/
theorem not_blocked_of_synchronize (keyed : catalog.Keyed) (sound : database.All Store.Reachable)
    (synced : synchronize catalog database = .ok () after) (member : type ∈ catalog.toList)
    (found : database.stores.get? type.storeName = some store) (declared : index ∈ type.indexes)
    {key : Key} : ¬ store.Blocked index key := by
  intro blocked
  obtain ⟨made, _⟩ := synchronize_ok keyed sound synced
  obtain ⟨changed, held, syncedFrom⟩ := made type member
  rw [found] at syncedFrom
  have consistent := ((keeps_synchronize catalog).of_ok sound synced _ changed held).consistent
  have duplicate : changed.Duplicate index key :=
    syncedFrom.data.duplicate_iff.mpr blocked.duplicate
  exact consistent.not_duplicate (syncedFrom.declared index declared) blocked.unique duplicate

/-! ## Databases in line -/

/-- A store that has every declared index is left as it is. -/
theorem syncStore_of_declared {names : List String}
    (known : names.contains type.storeName = database.stores.contains type.storeName)
    (found : database.stores.get? type.storeName = some store) (consistent : store.Consistent)
    (declared : ∀ index ∈ type.indexes, store.descriptor? index.name = some index) :
    syncStore names type database = .ok () database := by
  rw [syncStore_of_found known found]
  apply forM_eq_ok_of_forall
  intro index member
  have met := (consistent.find?_descriptors index.name).trans (declared index member)
  simp only [syncIndex, met, and_self, if_true]
  rfl

/-- Synchronizing again changes nothing. -/
theorem synchronize_again (keyed : catalog.Keyed) (sound : database.All Store.Reachable)
    (synced : synchronize catalog database = .ok () after) :
    synchronize catalog after = .ok () after := by
  obtain ⟨made, _⟩ := synchronize_ok keyed sound synced
  apply forM_eq_ok_of_forall
  intro type member
  obtain ⟨store, held, syncedFrom⟩ := made type member
  have consistent := ((keeps_synchronize catalog).of_ok sound synced _ store held).consistent
  exact syncStore_of_declared (contains_storeNames after type.storeName) held consistent
    syncedFrom.declared

/-- Indexes that are not declared are left as they were. -/
theorem SyncedFrom.get?_indexes_eq {old : Option Store} (syncedFrom : SyncedFrom type old store)
    (consistent : store.Consistent)
    (oldConsistent : ∀ before, old = some before → before.Consistent)
    (undeclared : name ∉ type.indexes.map (·.name)) :
    store.indexes.get? name =
      (old.getD { primaryKey := type.primaryKey }).indexes.get? name := by
  have before : (old.getD { primaryKey := type.primaryKey }).Consistent := by
    cases old with
    | none => exact Store.consistent_empty type.primaryKey
    | some before => exact oldConsistent before rfl
  have records : ∀ key,
      store.get? key = (old.getD { primaryKey := type.primaryKey }).get? key := by
    intro key
    rw [Store.get?, Store.get?, syncedFrom.data.records]
  apply consistent.get?_indexes_eq before records
  refine (syncedFrom.undeclared name undeclared).trans ?_
  cases old <;> rfl

/-- Synchronization fails exactly where two records collide in a declared unique index. Otherwise
it gives every record type its indexes, keeps all else, and has nothing left to do. -/
theorem synchronize_brings_in_line (keyed : catalog.Keyed)
    (sound : database.All Store.Reachable) :
    ((∃ error after, synchronize catalog database = .error error after) ↔
      ∃ type ∈ catalog.toList, ∃ store, database.stores.get? type.storeName = some store ∧
        ∃ index ∈ type.indexes, ∃ key, store.Blocked index key) ∧
    (∀ error after, synchronize catalog database = .error error after →
      ∃ type ∈ catalog.toList, ∃ store, database.stores.get? type.storeName = some store ∧
        ∃ index ∈ type.indexes, ∃ key, store.Blocked index key ∧
          error = .constraint (.indexUnbuildable index.name key)) ∧
    ∀ after, synchronize catalog database = .ok () after →
      (∀ type ∈ catalog.toList, ∃ store, after.stores.get? type.storeName = some store ∧
        let old := (database.stores.get? type.storeName).getD { primaryKey := type.primaryKey }
        (store.primaryKey = old.primaryKey ∧ store.records = old.records ∧
          store.generator = old.generator) ∧
        (∀ index ∈ type.indexes, ∃ built, store.indexes.get? index.name = some built ∧
          built.descriptor = index ∧
          ∀ key primary, (key, primary) ∈ built.tree.entries ↔
            ∃ record, store.get? primary = some record ∧
              Key.ofRecord? record index.keyPath = some key) ∧
        ∀ name, name ∉ type.indexes.map (·.name) →
          store.indexes.get? name = old.indexes.get? name) ∧
      (∀ name, catalog.get? name = none →
        after.stores.get? name = database.stores.get? name) ∧
      synchronize catalog after = .ok () after := by
  refine ⟨⟨?_, ?_⟩, fun error after => blocked_of_synchronize keyed sound, ?_⟩
  · rintro ⟨error, after, failed⟩
    obtain ⟨type, member, store, found, index, declared, key, blocked, _⟩ :=
      blocked_of_synchronize keyed sound failed
    exact ⟨type, member, store, found, index, declared, key, blocked⟩
  · rintro ⟨type, member, store, found, index, declared, key, blocked⟩
    cases synced : synchronize catalog database with
    | error error after => exact ⟨error, after, rfl⟩
    | ok nothing after =>
        exact absurd blocked (not_blocked_of_synchronize keyed sound synced member found declared)
  · intro after synced
    obtain ⟨made, others⟩ := synchronize_ok keyed sound synced
    refine ⟨?_, others, synchronize_again keyed sound synced⟩
    intro type member
    obtain ⟨store, held, syncedFrom⟩ := made type member
    have consistent := ((keeps_synchronize catalog).of_ok sound synced _ store held).consistent
    refine ⟨store, held, ⟨syncedFrom.data.primaryKey, syncedFrom.data.records,
      syncedFrom.data.generator⟩, ?_, ?_⟩
    · intro index declared
      obtain ⟨built, stored, rfl⟩ := Option.map_eq_some_iff.mp (syncedFrom.declared index declared)
      exact ⟨built, stored, rfl, fun key primary => (consistent.mirrors stored).mem_entries_iff⟩
    · intro name undeclared
      exact syncedFrom.get?_indexes_eq consistent
        (fun before found => (sound _ before found).consistent) undeclared

/-- Over two people of one name an index of names is built if it need not be unique, and
refused if it has to be. -/
theorem synchronize_brings_in_line_over_duplicates :
    let people : RecordType := { storeName := "people" }
    let declaring (unique : Bool) : Configuration :=
      ⟨"main", 2, [{ people with indexes := [⟨"by_name", unique, .single "name"⟩] },
        { storeName := "places" }]⟩
    let person : Value := .object [("name", .string "a")]
    let storage := (({} : Storage).after (.connect ⟨"main", 1, [people]⟩)).after
      (.insert ⟨"main", 1, .empty⟩ people [person, person])
    let database := storage.database "main"
    database.All Store.Reachable ∧
      (∃ catalog, (declaring true).catalog = .ok catalog ∧
        ∃ error after, synchronize catalog database = .error error after ∧
          error.isConstraint = true) ∧
      ∃ catalog, (declaring false).catalog = .ok catalog ∧
        ∃ after, synchronize catalog database = .ok () after ∧
          synchronize catalog after = .ok () after := by
  intro people declaring person storage database
  have sound : database.All Store.Reachable :=
    ((Storage.Reachable.empty.after _).after _).all.found "main"
  have refused : (declaring true).catalog.toOption.any
      (fun catalog => (failure? (synchronize catalog database)).isSome) = true := by
    decide +kernel
  have accepted : (declaring false).catalog.toOption.any
      (fun catalog => (failure? (synchronize catalog database)).isNone) = true := by
    decide +kernel
  clear_value database declaring
  refine ⟨sound, ?_, ?_⟩
  · cases declared : (declaring true).catalog with
    | error error => simp [declared, Except.toOption] at refused
    | ok catalog =>
        cases outcome : synchronize catalog database with
        | ok nothing after => simp [declared, outcome, Except.toOption, failure?] at refused
        | error error after =>
            have keyed := Catalog.keyed_of_configuration declared
            obtain ⟨_, violated, _⟩ := synchronize_brings_in_line keyed sound
            obtain ⟨_, _, _, _, _, _, _, _, rfl⟩ := violated error after outcome
            exact ⟨catalog, rfl, _, after, outcome, rfl⟩
  · cases declared : (declaring false).catalog with
    | error error => simp [declared, Except.toOption] at accepted
    | ok catalog =>
        cases outcome : synchronize catalog database with
        | error error after => simp [declared, outcome, Except.toOption, failure?] at accepted
        | ok nothing after =>
            have keyed := Catalog.keyed_of_configuration declared
            obtain ⟨_, _, inLine⟩ := synchronize_brings_in_line keyed sound
            exact ⟨catalog, rfl, after, outcome, (inLine after outcome).2.2⟩

end Database

end RecordBase
