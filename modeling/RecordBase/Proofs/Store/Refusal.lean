import RecordBase.Proofs.Store.Consistency

/-!
# Why a store refuses

What a call on a store fails of, told from the record and the records that are
stored. In a consistent store a unique index refuses a record exactly if it has
the index key of another one, and a unique index cannot be built exactly if two
records share an index key.
-/

namespace RecordBase

namespace Store

variable {store : Store} {record : Record} {overwrite : Bool} {error : StorageError}
  {descriptor : IndexDescriptor} {storeName : String}

/-! ## Refused records -/

/-- Why a record has no primary key. -/
inductive Unkeyed (store : Store) (record : Record) : StorageError → Prop
  | invalidKey {value : Value} (held : record.get? store.primaryKey.field = some value)
      (keyless : Key.ofValue? value = none) :
      Unkeyed store record (.data (.invalidKey value store.primaryKey.field))
  | missingKey (absent : record.get? store.primaryKey.field = none)
      (given : store.primaryKey.autoIncrement = false) :
      Unkeyed store record (.data (.missingKey store.primaryKey.field))
  | generatorExhausted (absent : record.get? store.primaryKey.field = none)
      (generated : store.primaryKey.autoIncrement = true)
      (exhausted : lastGenerated < store.generator) :
      Unkeyed store record (.constraint (.generatorExhausted store.primaryKey.field))

/-- Why a record is not written: it has no primary key, its key is in use and may
not be written over, or another record has its key in some unique index. -/
inductive Rejects (store : Store) (record : Record) (overwrite : Bool) : StorageError → Prop
  | unkeyed {error : StorageError} (unkeyed : store.Unkeyed record error) :
      Rejects store record overwrite error
  | keyExists {key : Key} {full held : Record}
      (resolved : store.resolveKey record = .ok (key, full)) (single : overwrite = false)
      (stored : store.get? key = some held) :
      Rejects store record overwrite (.constraint (.keyExists key))
  | indexTaken {key other indexKey : Key} {full held : Record} {name : String}
      {descriptor : IndexDescriptor} (resolved : store.resolveKey record = .ok (key, full))
      (declared : (store.indexes.get? name).map (·.descriptor) = some descriptor)
      (unique : descriptor.unique = true) (different : other ≠ key)
      (stored : store.get? other = some held)
      (keyed : Key.ofRecord? full descriptor.keyPath = some indexKey)
      (shared : Key.ofRecord? held descriptor.keyPath = some indexKey) :
      Rejects store record overwrite (.constraint (.indexTaken name indexKey))

theorem resolveKey_eq_error_iff :
    store.resolveKey record = .error error ↔ store.Unkeyed record error := by
  unfold resolveKey
  constructor
  · intro failed
    cases held : record.get? store.primaryKey.field with
    | some value =>
        simp only [held] at failed
        cases keyless : Key.ofValue? value with
        | some key => simp [keyless] at failed
        | none =>
            simp only [keyless] at failed
            cases failed
            exact .invalidKey held keyless
    | none =>
        simp only [held] at failed
        split at failed
        · rename_i given
          cases failed
          exact .missingKey held (by simpa using given)
        · rename_i generated
          split at failed
          · rename_i exhausted
            cases failed
            exact .generatorExhausted held (by simpa using generated) exhausted
          · contradiction
  · intro unkeyed
    cases unkeyed with
    | invalidKey held keyless => simp only [held, keyless]
    | missingKey absent given => simp [absent, given]
    | generatorExhausted absent generated exhausted => simp [absent, generated, exhausted]

/-- A write fails only for a reason. -/
theorem Consistent.rejects_of_write (consistent : store.Consistent)
    (failed : store.write record overwrite = .error error) :
    store.Rejects record overwrite error := by
  cases resolved : store.resolveKey record with
  | error cause =>
      rw [write_of_resolveKey_eq_error resolved] at failed
      cases failed
      exact .unkeyed (resolveKey_eq_error_iff.mp resolved)
  | ok resolution =>
      obtain ⟨key, full⟩ := resolution
      by_cases allowed : overwrite = true ∨ store.get? key = none
      · rw [write_of_resolveKey resolved allowed] at failed
        cases collision : store.collision? full key with
        | none => simp [collision] at failed
        | some fault =>
            simp only [collision] at failed
            cases failed
            obtain ⟨name, descriptor, indexKey, other, held, declared, unique, rfl, different,
              stored, keyed, shared⟩ := consistent.exists_of_collision? collision
            exact .indexTaken resolved declared unique different stored keyed shared
      · obtain ⟨single, taken⟩ := not_or.mp allowed
        obtain rfl : overwrite = false := by simpa using single
        obtain ⟨held, stored⟩ := Option.ne_none_iff_exists'.mp taken
        rw [write_of_taken resolved taken] at failed
        cases failed
        exact .keyExists resolved rfl stored

/-- A record that shares a key of a unique index with another one collides. -/
theorem Consistent.collision?_ne_none (consistent : store.Consistent) {name : String}
    {key other indexKey : Key} {held : Record}
    (declared : (store.indexes.get? name).map (·.descriptor) = some descriptor)
    (unique : descriptor.unique = true) (different : other ≠ key)
    (stored : store.get? other = some held)
    (keyed : Key.ofRecord? record descriptor.keyPath = some indexKey)
    (shared : Key.ofRecord? held descriptor.keyPath = some indexKey) :
    store.collision? record key ≠ none := by
  intro free
  obtain ⟨index, found, rfl⟩ := Option.map_eq_some_iff.mp declared
  have indexFree := collision?_eq_none_iff.mp free name index found
  have single := StoreIndex.collision?_eq_none_iff.mp indexFree
  have entered := (consistent.mirrors found).mem_entries_iff.mpr ⟨held, stored, shared⟩
  exact different (single unique indexKey other keyed entered)

/-- Where there is a reason against a record, its write fails. -/
theorem Consistent.write_of_rejects (consistent : store.Consistent)
    (rejects : store.Rejects record overwrite error) :
    ∃ other, store.write record overwrite = .error other := by
  cases outcome : store.write record overwrite with
  | error other => exact ⟨other, rfl⟩
  | ok written =>
      obtain ⟨value, changed⟩ := written
      obtain ⟨key, full, resolved, allowed, free, _⟩ := write_eq_ok_iff.mp outcome
      cases rejects with
      | unkeyed unkeyed =>
          rw [resolveKey_eq_error_iff.mpr unkeyed] at resolved
          contradiction
      | keyExists again single stored =>
          obtain ⟨rfl, rfl⟩ := Prod.mk.inj (Except.ok.inj (again.symm.trans resolved))
          rcases allowed with many | absent
          · rw [single] at many
            contradiction
          · rw [stored] at absent
            contradiction
      | indexTaken again declared unique different stored keyed shared =>
          obtain ⟨rfl, rfl⟩ := Prod.mk.inj (Except.ok.inj (again.symm.trans resolved))
          exact absurd free
            (consistent.collision?_ne_none declared unique different stored keyed shared)

/-! ## Indexes that cannot be built -/

/-- Two records have an index key in common. -/
def Duplicate (store : Store) (descriptor : IndexDescriptor) (key : Key) : Prop :=
  ∃ first second firstRecord secondRecord, first ≠ second ∧
    store.get? first = some firstRecord ∧ store.get? second = some secondRecord ∧
    Key.ofRecord? firstRecord descriptor.keyPath = some key ∧
    Key.ofRecord? secondRecord descriptor.keyPath = some key

/-- No two records share a key of a unique index that mirrors them. -/
theorem not_duplicate_of_mirrors {built : StoreIndex} {key : Key}
    (mirrors : built.Mirrors fun key record => store.get? key = some record)
    (unique : built.descriptor.unique = true) : ¬ store.Duplicate built.descriptor key := by
  rintro ⟨first, second, firstRecord, secondRecord, different, firstStored, secondStored,
    firstKey, secondKey⟩
  have firstEntry := mirrors.mem_entries_iff.mpr ⟨firstRecord, firstStored, firstKey⟩
  have secondEntry := mirrors.mem_entries_iff.mpr ⟨secondRecord, secondStored, secondKey⟩
  exact different (mirrors.unique unique firstEntry secondEntry)

/-- Why an index is not built: its name is in use, or it is unique and two records
share a key. -/
inductive Unindexable (store : Store) (storeName : String) (descriptor : IndexDescriptor) :
    StorageError → Prop
  | indexExists {index : StoreIndex} (found : store.indexes.get? descriptor.name = some index) :
      Unindexable store storeName descriptor (.indexExists storeName descriptor.name)
  | duplicate {key : Key} (unique : descriptor.unique = true)
      (duplicate : store.Duplicate descriptor key) :
      Unindexable store storeName descriptor
        (.constraint (.indexUnbuildable descriptor.name key))

/-- Why an index is not dropped: there is none of its name. -/
def Unindexed (store : Store) (storeName index : String) (error : StorageError) : Prop :=
  store.indexes.get? index = none ∧ error = .indexNotFound storeName index

/-- Records are entered until the key of one is taken by another, be it one that was
entered before or one that the index had. -/
theorem exists_of_enterAll_eq_error {rows : List (Key × Record)} {index : StoreIndex}
    {stored : Key → Record → Prop} (mirrors : index.Mirrors stored)
    (failed : enterAll index rows = .error error) :
    index.descriptor.unique = true ∧
      ∃ key first second firstRecord secondRecord, first ≠ second ∧
        ((first, firstRecord) ∈ rows ∨ stored first firstRecord) ∧
        (second, secondRecord) ∈ rows ∧
        index.key? firstRecord = some key ∧ index.key? secondRecord = some key ∧
        error = .constraint (.indexUnbuildable index.descriptor.name key) := by
  induction rows generalizing index stored with
  | nil => contradiction
  | cons row rest inductionHypothesis =>
      obtain ⟨primary, record⟩ := row
      rw [enterAll] at failed
      split at failed
      · rename_i key taken
        cases failed
        unfold StoreIndex.collision? at taken
        split at taken
        · rename_i unique
          obtain ⟨keyed, takenByOther⟩ := Option.filter_eq_some_iff.mp taken
          obtain ⟨other, different, entered⟩ := IndexTree.isTakenByOther_iff.mp takenByOther
          obtain ⟨held, member, heldKey⟩ := mirrors.mem_entries_iff.mp entered
          exact ⟨unique, key, other, primary, held, record, different, .inr member,
            List.mem_cons_self, heldKey, keyed, rfl⟩
        · contradiction
      · rename_i free
        obtain ⟨unique, key, first, second, firstRecord, secondRecord, different, firstEntered,
          secondMember, firstKey, secondKey, rfl⟩ :=
          inductionHypothesis (mirrors.insert free) failed
        rw [StoreIndex.descriptor_insert] at unique ⊢
        rw [StoreIndex.key?_insert] at firstKey secondKey
        refine ⟨unique, key, first, second, firstRecord, secondRecord, different, ?_,
          List.mem_cons_of_mem _ secondMember, firstKey, secondKey, rfl⟩
        rcases firstEntered with member | ⟨rfl, rfl⟩ | held
        · exact .inl (List.mem_cons_of_mem _ member)
        · exact .inl List.mem_cons_self
        · exact .inr held

/-- An index is not built only for a reason. -/
theorem unindexable_of_createIndex
    (failed : store.createIndex storeName descriptor = .error error) :
    store.Unindexable storeName descriptor error := by
  unfold createIndex SortedMap.contains at failed
  cases found : store.indexes.get? descriptor.name with
  | some index =>
      simp only [found, Option.isSome_some, if_true] at failed
      cases failed
      exact .indexExists found
  | none =>
      simp only [found, Option.isSome_none, Bool.false_eq_true, if_false] at failed
      cases entered : enterAll ⟨descriptor, .empty⟩ store.records.toList with
      | ok built => simp [entered] at failed
      | error cause =>
          simp only [entered] at failed
          cases failed
          have nothing : StoreIndex.Mirrors ⟨descriptor, .empty⟩ fun _ _ => False :=
            .empty descriptor fun _ _ => id
          obtain ⟨unique, key, first, second, firstRecord, secondRecord, different, firstEntered,
            secondMember, firstKey, secondKey, rfl⟩ := exists_of_enterAll_eq_error nothing entered
          exact .duplicate unique ⟨first, second, firstRecord, secondRecord, different,
            SortedMap.get?_eq_some_iff.mpr (firstEntered.resolve_right id),
            SortedMap.get?_eq_some_iff.mpr secondMember, firstKey, secondKey⟩

/-- Where there is a reason against an index, it is not built. -/
theorem createIndex_of_unindexable (unindexable : store.Unindexable storeName descriptor error) :
    ∃ other, store.createIndex storeName descriptor = .error other := by
  cases outcome : store.createIndex storeName descriptor with
  | error other => exact ⟨other, rfl⟩
  | ok changed =>
      obtain ⟨absent, built, entered, rfl⟩ := createIndex_eq_ok_iff.mp outcome
      cases unindexable with
      | indexExists found =>
          rw [found] at absent
          contradiction
      | duplicate unique duplicate =>
          obtain ⟨rfl, mirrors⟩ := mirrors_of_build entered
          exact absurd duplicate (not_duplicate_of_mirrors mirrors unique)

/-! ## Failing for a reason -/

/-- A change of stores that fails for the stores that have a cause, and for no
others. -/
structure FailsFor {β : Type} (cause : Store → StorageError → Prop)
    (change : Store → Except StorageError β) : Prop where
  caused : ∀ {store error}, store.Reachable → change store = .error error → cause store error
  fails : ∀ {store error}, store.Reachable → cause store error →
    ∃ other, change store = .error other

section

variable {α β : Type} {cause : Store → StorageError → Prop}

theorem failsFor_ok (result : Store → β) : FailsFor (fun _ _ => False) fun store =>
    .ok (result store) where
  caused := nofun
  fails := nofun

theorem FailsFor.map {change : Store → Except StorageError α} (failsFor : FailsFor cause change)
    (project : α → β) : FailsFor cause fun store => (change store).map project where
  caused := by
    intro store error reachable failed
    cases outcome : change store with
    | ok result => simp [outcome, Except.map] at failed
    | error other =>
        simp only [outcome, Except.map] at failed
        cases failed
        exact failsFor.caused reachable outcome
  fails := by
    intro store error reachable caused
    obtain ⟨other, failed⟩ := failsFor.fails reachable caused
    exact ⟨other, by rw [failed, Except.map]⟩

end

theorem failsFor_write (record : Record) (overwrite : Bool) :
    FailsFor (·.Rejects record overwrite) (·.write record overwrite) where
  caused := fun reachable failed => reachable.consistent.rejects_of_write failed
  fails := fun reachable rejects => reachable.consistent.write_of_rejects rejects

theorem failsFor_createIndex (storeName : String) (descriptor : IndexDescriptor) :
    FailsFor (·.Unindexable storeName descriptor) (·.createIndex storeName descriptor) where
  caused := fun _ failed => unindexable_of_createIndex failed
  fails := fun _ unindexable => createIndex_of_unindexable unindexable

theorem failsFor_deleteIndex (storeName index : String) :
    FailsFor (·.Unindexed storeName index) (·.deleteIndex storeName index) where
  caused := by
    intro store error _ failed
    unfold deleteIndex SortedMap.contains at failed
    cases found : store.indexes.get? index with
    | some held => simp [found] at failed
    | none =>
        simp only [found, Option.isSome_none, Bool.false_eq_true, if_false] at failed
        cases failed
        exact ⟨found, rfl⟩
  fails := by
    rintro store error _ ⟨absent, rfl⟩
    refine ⟨.indexNotFound storeName index, ?_⟩
    simp [deleteIndex, SortedMap.contains, absent]

end Store

end RecordBase
