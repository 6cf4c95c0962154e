import RecordBase.Proofs.Schema.Catalog
import RecordBase.Proofs.Storage.Stores

/-!
# What synchronization does

Bringing a database in line with a catalog changes indexes only. A store that is
declared and missing is made as it is declared; one that is there keeps its
records, its generator and its primary key. Either way it has every declared
index afterwards, with the declared uniqueness and key path, whatever stood under
that name before.
-/

namespace RecordBase

open RecordBase.Action

namespace Store

/-- The declaration of the index of a name. -/
def descriptor? (store : Store) (name : String) : Option IndexDescriptor :=
  (store.indexes.get? name).map (·.descriptor)

/-- A store has all of another but its indexes. -/
structure SameData (store changed : Store) : Prop where
  primaryKey : changed.primaryKey = store.primaryKey
  records : changed.records = store.records
  generator : changed.generator = store.generator

theorem SameData.refl (store : Store) : SameData store store :=
  ⟨rfl, rfl, rfl⟩

theorem SameData.trans {first second third : Store} (before : SameData first second)
    (after : SameData second third) : SameData first third :=
  ⟨after.primaryKey.trans before.primaryKey, after.records.trans before.records,
    after.generator.trans before.generator⟩

variable {store changed : Store} {descriptor : IndexDescriptor} {storeName : String}

/-- Building an index adds its declaration. -/
theorem createIndex_ok (created : store.createIndex storeName descriptor = .ok changed) :
    SameData store changed ∧ changed.descriptor? descriptor.name = some descriptor ∧
      ∀ other, other ≠ descriptor.name → changed.descriptor? other = store.descriptor? other := by
  obtain ⟨_, built, entered, rfl⟩ := createIndex_eq_ok_iff.mp created
  have described := (mirrors_of_build entered).1
  refine ⟨⟨rfl, rfl, rfl⟩, ?_, ?_⟩
  · rw [descriptor?, SortedMap.get?_insert_self, Option.map_some, described]
  · intro other different
    rw [descriptor?, SortedMap.get?_insert_of_ne _ _ different.symm]
    rfl

/-- Dropping an index takes its declaration away. -/
theorem deleteIndex_ok {name : String} (deleted : store.deleteIndex storeName name = .ok changed) :
    SameData store changed ∧
      ∀ other, other ≠ name → changed.descriptor? other = store.descriptor? other := by
  obtain ⟨_, rfl⟩ := deleteIndex_eq_ok_iff.mp deleted
  refine ⟨⟨rfl, rfl, rfl⟩, ?_⟩
  intro other different
  rw [descriptor?, SortedMap.get?_erase_of_ne _ different.symm]
  rfl

/-- The declarations of a consistent store are found by their names. -/
theorem Consistent.find?_descriptors (consistent : store.Consistent) (name : String) :
    store.descriptors.find? (·.name == name) = store.descriptor? name := by
  unfold descriptors descriptor?
  cases found : store.indexes.get? name with
  | none =>
      rw [Option.map_none, List.find?_eq_none]
      intro descriptor member
      obtain ⟨index, held, rfl⟩ := List.mem_map.mp member
      obtain ⟨other, stored⟩ := SortedMap.mem_values_iff.mp held
      rw [consistent.named stored, beq_iff_eq]
      rintro rfl
      rw [stored] at found
      contradiction
  | some index =>
      have listed : index.descriptor ∈ store.indexes.values.map (·.descriptor) :=
        List.mem_map_of_mem (SortedMap.mem_values_iff.mpr ⟨name, found⟩)
      have met : (store.indexes.values.map (·.descriptor)).find? (·.name == name) ≠ none := by
        intro missed
        have different := List.find?_eq_none.mp missed index.descriptor listed
        rw [consistent.named found, beq_self_eq_true] at different
        exact different rfl
      obtain ⟨descriptor, first⟩ := Option.ne_none_iff_exists'.mp met
      rw [first, Option.map_some]
      have named : descriptor.name = name := by simpa using List.find?_some first
      obtain ⟨other, held, rfl⟩ := List.mem_map.mp (List.mem_of_find?_eq_some first)
      obtain ⟨key, stored⟩ := SortedMap.mem_values_iff.mp held
      have same : key = name := (consistent.named stored).symm.trans named
      rw [same, found] at stored
      rw [Option.some.inj stored]

end Store

namespace Database

variable {database between after : Database} {name : String} {store changed : Store}
  {index : IndexDescriptor} {present : List IndexDescriptor}

/-- One store of a database differs in its indexes alone, and no other store does. -/
structure Reindexed (name : String) (store changed : Store) (database after : Database) :
    Prop where
  found : database.stores.get? name = some store
  left : after.stores.get? name = some changed
  others : ∀ other, other ≠ name → after.stores.get? other = database.stores.get? other
  data : store.SameData changed

theorem Reindexed.refl (found : database.stores.get? name = some store) :
    Reindexed name store store database database :=
  ⟨found, found, fun _ _ => rfl, .refl store⟩

theorem Reindexed.trans {last : Store} (before : Reindexed name store changed database between)
    (next : Reindexed name changed last between after) :
    Reindexed name store last database after :=
  ⟨before.found, next.left,
    fun other different => (next.others other different).trans (before.others other different),
    before.data.trans next.data⟩

/-! ## Single steps -/

theorem changeStore_ok {α : Type} {change : Store → Except StorageError (α × Store)} {result : α}
    (succeeded : changeStore name change database = .ok result after) :
    ∃ store changed, database.stores.get? name = some store ∧
      change store = .ok (result, changed) ∧
      after = { database with stores := database.stores.insert name changed } := by
  unfold changeStore at succeeded
  cases found : database.stores.get? name with
  | none => simp [found] at succeeded
  | some store =>
      cases outcome : change store with
      | error error => simp [found, outcome] at succeeded
      | ok written =>
          obtain ⟨given, changed⟩ := written
          simp only [found, outcome] at succeeded
          cases succeeded
          exact ⟨store, changed, rfl, outcome, rfl⟩

theorem changeStore_error {α : Type} {change : Store → Except StorageError (α × Store)}
    {error : StorageError} (found : database.stores.get? name = some store)
    (failed : changeStore name change database = .error error after) :
    change store = .error error := by
  unfold changeStore at failed
  simp only [found] at failed
  split at failed
  · rename_i outcome
    cases failed
    exact outcome
  · contradiction

/-- The indexes of a store that is there are listed without changing it. -/
theorem indexes_eq (found : database.stores.get? name = some store) :
    indexes name database = .ok store.descriptors database := by
  simp only [indexes, changeStore, found, SortedMap.insert_of_get? found]

theorem reindexed_insert (found : database.stores.get? name = some store)
    (data : store.SameData changed) :
    Reindexed name store changed database
      { database with stores := database.stores.insert name changed } where
  found := found
  left := SortedMap.get?_insert_self _ _ _
  others := fun _ different => SortedMap.get?_insert_of_ne _ _ different.symm
  data := data

theorem createIndex_ok (found : database.stores.get? name = some store)
    (created : createIndex name index database = .ok () after) :
    ∃ changed, Reindexed name store changed database after ∧
      changed.descriptor? index.name = some index ∧
      ∀ other, other ≠ index.name → changed.descriptor? other = store.descriptor? other := by
  obtain ⟨held, changed, stored, outcome, rfl⟩ := changeStore_ok created
  obtain rfl : store = held := Option.some.inj (found.symm.trans stored)
  obtain ⟨data, declared, kept⟩ := Store.createIndex_ok (map_unit_eq_ok_iff.mp outcome)
  exact ⟨changed, reindexed_insert found data, declared, kept⟩

theorem deleteIndex_ok {dropped : String} (found : database.stores.get? name = some store)
    (deleted : deleteIndex name dropped database = .ok () after) :
    ∃ changed, Reindexed name store changed database after ∧
      ∀ other, other ≠ dropped → changed.descriptor? other = store.descriptor? other := by
  obtain ⟨held, changed, stored, outcome, rfl⟩ := changeStore_ok deleted
  obtain rfl : store = held := Option.some.inj (found.symm.trans stored)
  obtain ⟨data, kept⟩ := Store.deleteIndex_ok (map_unit_eq_ok_iff.mp outcome)
  exact ⟨changed, reindexed_insert found data, kept⟩

/-- An index is as declared once it was brought in line. -/
theorem syncIndex_ok (found : database.stores.get? name = some store)
    (listed : present.find? (·.name == index.name) = store.descriptor? index.name)
    (synced : syncIndex name present index database = .ok () after) :
    ∃ changed, Reindexed name store changed database after ∧
      changed.descriptor? index.name = some index ∧
      ∀ other, other ≠ index.name → changed.descriptor? other = store.descriptor? other := by
  unfold syncIndex at synced
  cases met : present.find? (·.name == index.name) with
  | none =>
      simp only [met] at synced
      exact createIndex_ok found synced
  | some held =>
      have named : held.name = index.name := by simpa using List.find?_some met
      simp only [met] at synced
      by_cases agrees : held.unique = index.unique ∧ held.keyPath = index.keyPath
      · rw [if_pos agrees] at synced
        cases synced
        have same : held = index := by
          cases held
          cases index
          simp_all
        exact ⟨store, .refl found, by rw [← listed, met, same], fun _ _ => rfl⟩
      · rw [if_neg agrees] at synced
        obtain ⟨_, between, dropped, built⟩ := bind_eq_ok_iff.mp synced
        obtain ⟨cleared, before, kept⟩ := deleteIndex_ok found dropped
        obtain ⟨changed, next, declared, stays⟩ := createIndex_ok before.left built
        refine ⟨changed, before.trans next, declared, ?_⟩
        intro other different
        exact (stays other different).trans (kept other different)

/-! ## All indexes of a store -/

/-- The indexes of a store are brought in line one by one. What was listed of them
before stays true of those that are still to come, as their names differ. -/
theorem forM_syncIndex_ok {indexes : List IndexDescriptor}
    (distinct : (indexes.map (·.name)).Nodup)
    (found : database.stores.get? name = some store)
    (listed : ∀ index ∈ indexes,
      present.find? (·.name == index.name) = store.descriptor? index.name)
    (synced : indexes.forM (syncIndex name present) database = .ok () after) :
    ∃ changed, Reindexed name store changed database after ∧
      (∀ index ∈ indexes, changed.descriptor? index.name = some index) ∧
      ∀ other, other ∉ indexes.map (·.name) →
        changed.descriptor? other = store.descriptor? other := by
  induction indexes generalizing database store with
  | nil =>
      cases synced
      exact ⟨store, .refl found, nofun, fun _ _ => rfl⟩
  | cons index rest inductionHypothesis =>
      obtain ⟨_, between, first, later⟩ := bind_eq_ok_iff.mp synced
      rw [List.map_cons, List.nodup_cons] at distinct
      obtain ⟨new, distinct⟩ := distinct
      obtain ⟨middle, before, declared, kept⟩ :=
        syncIndex_ok found (listed index List.mem_cons_self) first
      have stillListed : ∀ other ∈ rest,
          present.find? (·.name == other.name) = middle.descriptor? other.name := by
        intro other member
        rw [listed other (List.mem_cons_of_mem _ member), kept other.name]
        intro same
        exact new (same ▸ List.mem_map_of_mem member)
      obtain ⟨changed, next, restDeclared, stays⟩ :=
        inductionHypothesis distinct before.left stillListed later
      refine ⟨changed, before.trans next, ?_, ?_⟩
      · intro other member
        rcases List.mem_cons.mp member with rfl | member
        · rw [stays _ new, declared]
        · exact restDeclared other member
      · intro other absent
        rw [List.map_cons, List.mem_cons, not_or] at absent
        rw [stays other absent.2, kept other absent.1]

/-! ## All stores -/

/-- A store is what synchronization makes, for a record type, of the one that was
there or else of a new one. -/
structure SyncedFrom (type : RecordType) (old : Option Store) (store : Store) : Prop where
  data : (old.getD { primaryKey := type.primaryKey }).SameData store
  declared : ∀ index ∈ type.indexes, store.descriptor? index.name = some index
  undeclared : ∀ name, name ∉ type.indexes.map (·.name) →
    store.descriptor? name = (old.bind (·.descriptor? name))

/-- Bringing a store in line that is there is bringing its indexes in line. -/
theorem syncStore_of_found {names : List String} {type : RecordType}
    (known : names.contains type.storeName = database.stores.contains type.storeName)
    (found : database.stores.get? type.storeName = some store) :
    syncStore names type database =
      type.indexes.forM (syncIndex type.storeName store.descriptors) database := by
  have there : names.contains type.storeName = true := by
    rw [known, SortedMap.contains, found]
    rfl
  rw [syncStore, there]
  exact bind_of_ok (indexes_eq found)

/-- A store that is missing is made first. -/
theorem syncStore_of_missing {names : List String} {type : RecordType}
    (known : names.contains type.storeName = database.stores.contains type.storeName)
    (missing : database.stores.get? type.storeName = none) :
    syncStore names type database =
      type.indexes.forM (syncIndex type.storeName []) { database with
        stores := database.stores.insert type.storeName { primaryKey := type.primaryKey } } := by
  have absent : database.stores.contains type.storeName = false := by
    rw [SortedMap.contains, missing]
    rfl
  let made : Database :=
    { database with
      stores := database.stores.insert type.storeName { primaryKey := type.primaryKey } }
  have created : createStore type.storeName type.primaryKey database = .ok () made := by
    rw [createStore, absent]
    rfl
  have held : made.stores.get? type.storeName = some { primaryKey := type.primaryKey } :=
    SortedMap.get?_insert_self _ _ _
  rw [syncStore, known, absent]
  exact (bind_of_ok created).trans (bind_of_ok (indexes_eq held))

theorem syncStore_ok {names : List String} {type : RecordType}
    (distinct : (type.indexes.map (·.name)).Nodup)
    (known : names.contains type.storeName = database.stores.contains type.storeName)
    (sound : database.All Store.Reachable)
    (synced : syncStore names type database = .ok () after) :
    (∃ store, after.stores.get? type.storeName = some store ∧
      SyncedFrom type (database.stores.get? type.storeName) store) ∧
    ∀ other, other ≠ type.storeName →
      after.stores.get? other = database.stores.get? other := by
  cases found : database.stores.get? type.storeName with
  | some store =>
      rw [syncStore_of_found known found] at synced
      have consistent := (sound _ store found).consistent
      obtain ⟨changed, reindexed, declared, kept⟩ := forM_syncIndex_ok distinct found
        (fun index _ => consistent.find?_descriptors index.name) synced
      exact ⟨⟨changed, reindexed.left, reindexed.data, declared, kept⟩, reindexed.others⟩
  | none =>
      rw [syncStore_of_missing known found] at synced
      obtain ⟨changed, reindexed, declared, kept⟩ := forM_syncIndex_ok distinct
        (SortedMap.get?_insert_self _ _ _) (fun _ _ => rfl) synced
      refine ⟨⟨changed, reindexed.left, reindexed.data, declared, kept⟩, ?_⟩
      intro other different
      exact (reindexed.others other different).trans
        (SortedMap.get?_insert_of_ne _ _ different.symm)

/-- The stores are brought in line one by one. Their names differ, so that the
names listed at the start still tell which of those to come are there. -/
theorem forM_syncStore_ok {present : List String} {types : List RecordType}
    (distinct : (types.map (·.storeName)).Nodup)
    (indexed : ∀ type ∈ types, (type.indexes.map (·.name)).Nodup)
    (known : ∀ type ∈ types,
      present.contains type.storeName = database.stores.contains type.storeName)
    (sound : database.All Store.Reachable)
    (synced : types.forM (syncStore present) database = .ok () after) :
    (∀ type ∈ types, ∃ store, after.stores.get? type.storeName = some store ∧
      SyncedFrom type (database.stores.get? type.storeName) store) ∧
    ∀ other, other ∉ types.map (·.storeName) →
      after.stores.get? other = database.stores.get? other := by
  induction types generalizing database with
  | nil =>
      cases synced
      exact ⟨nofun, fun _ _ => rfl⟩
  | cons type rest inductionHypothesis =>
      obtain ⟨_, between, first, later⟩ := bind_eq_ok_iff.mp synced
      rw [List.map_cons, List.nodup_cons] at distinct
      obtain ⟨new, distinct⟩ := distinct
      obtain ⟨⟨store, held, made⟩, others⟩ := syncStore_ok (indexed type List.mem_cons_self)
        (known type List.mem_cons_self) sound first
      have apart : ∀ other ∈ rest, other.storeName ≠ type.storeName := by
        intro other member same
        exact new (same ▸ List.mem_map_of_mem member)
      have stillKnown : ∀ other ∈ rest,
          present.contains other.storeName = between.stores.contains other.storeName := by
        intro other member
        rw [known other (List.mem_cons_of_mem _ member), SortedMap.contains, SortedMap.contains,
          others _ (apart other member)]
      obtain ⟨restMade, stays⟩ := inductionHypothesis distinct
        (fun other member => indexed other (List.mem_cons_of_mem _ member)) stillKnown
        ((keeps_syncStore present type).of_ok sound first) later
      constructor
      · intro other member
        rcases List.mem_cons.mp member with rfl | member
        · exact ⟨store, (stays _ new).trans held, made⟩
        · obtain ⟨otherStore, otherHeld, otherMade⟩ := restMade other member
          rw [others _ (apart other member)] at otherMade
          exact ⟨otherStore, otherHeld, otherMade⟩
      · intro other absent
        rw [List.map_cons, List.mem_cons, not_or] at absent
        exact (stays other absent.2).trans (others other absent.1)

theorem contains_storeNames (database : Database) (name : String) :
    database.storeNames.contains name = database.stores.contains name := by
  rw [Bool.eq_iff_iff, List.contains_iff_mem, SortedMap.contains_iff_mem_keys]
  rfl

/-- Synchronization that succeeds leaves, for each record type of the catalog, the
store that it makes of the one before, and all other stores as they were. -/
theorem synchronize_ok {catalog : Catalog} (keyed : catalog.Keyed)
    (sound : database.All Store.Reachable)
    (synced : synchronize catalog database = .ok () after) :
    (∀ type ∈ catalog.toList, ∃ store, after.stores.get? type.storeName = some store ∧
      SyncedFrom type (database.stores.get? type.storeName) store) ∧
    ∀ other, catalog.get? other = none →
      after.stores.get? other = database.stores.get? other := by
  obtain ⟨made, others⟩ := forM_syncStore_ok keyed.nodup_storeNames
    (fun type member => keyed.nodup_indexNames member)
    (fun type _ => contains_storeNames database type.storeName) sound synced
  refine ⟨made, ?_⟩
  intro other undeclared
  apply others
  intro member
  obtain ⟨type, listed, rfl⟩ := List.mem_map.mp member
  rw [keyed.get?_of_mem listed] at undeclared
  contradiction

end Database

end RecordBase
