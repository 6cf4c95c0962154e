import RecordBase.Proofs.Key.Encoding
import RecordBase.Proofs.Store.Mirror

/-!
# Writing to a store

What a store holds after a write, looked up key by key and index by index. A
write succeeds exactly if the record resolves to a key that may be written and
collides with no other record, and then it places the record under that key.
-/

namespace RecordBase

namespace Store

variable {store : Store} {key : Key} {record : Record}

/-! ## Keys -/

theorem generatorPast_ge (generator : Nat) (key : Key) :
    generator ≤ generatorPast generator key := by
  unfold generatorPast
  split
  · exact Nat.le_max_left _ _
  · exact Nat.le_refl _

/-- A generator that has passed a key stays past it. -/
theorem generatorPast_eq_of_le {lower upper : Nat} (settled : generatorPast lower key = lower)
    (notAbove : lower ≤ upper) : generatorPast upper key = upper := by
  unfold generatorPast at settled ⊢
  cases found : key.toDouble? with
  | some number =>
      simp only [found] at settled
      change max upper _ = upper
      omega
  | none => rfl

theorem generatorPast_idem (generator : Nat) (key : Key) :
    generatorPast (generatorPast generator key) key = generatorPast generator key := by
  unfold generatorPast
  cases key.toDouble? with
  | some number => exact Nat.max_eq_left (Nat.le_max_right _ _)
  | none => rfl

/-- A record resolves to the key that it has, as it is, or else to a generated key, which
it is given. -/
theorem resolveKey_eq_ok_iff {full : Record} :
    store.resolveKey record = .ok (key, full) ↔
      (∃ value, record.get? store.primaryKey.field = some value ∧
        Key.ofValue? value = some key ∧ full = record) ∨
      record.get? store.primaryKey.field = none ∧ store.primaryKey.autoIncrement = true ∧
        store.generator ≤ lastGenerated ∧ key = .ofInt store.generator ∧
        full = record.insert store.primaryKey.field (.ofInt store.generator) := by
  unfold resolveKey
  cases held : record.get? store.primaryKey.field with
  | some value =>
      cases found : Key.ofValue? value with
      | some own => simp [held, found, eq_comm (a := own), eq_comm (a := record)]
      | none => simp [held, found]
  | none =>
      cases store.primaryKey.autoIncrement with
      | false => simp [held]
      | true =>
          by_cases available : store.generator ≤ lastGenerated
          · simp [held, available, Nat.not_lt.mpr available, eq_comm (b := key),
              eq_comm (b := full)]
          · simp [held, available, Nat.not_le.mp available]

/-- A record that has a key resolves to it, as it is. -/
theorem resolveKey_of_ofField? (own : Key.ofField? record store.primaryKey.field = some key) :
    store.resolveKey record = .ok (key, record) := by
  rcases Option.bind_eq_some_iff.mp own with ⟨value, held, found⟩
  exact resolveKey_eq_ok_iff.mpr (.inl ⟨value, held, found, rfl⟩)

/-- The record that is written holds the key that it is written under. -/
theorem ofField?_of_resolveKey {full : Record}
    (resolved : store.resolveKey record = .ok (key, full)) :
    Key.ofField? full store.primaryKey.field = some key := by
  rcases resolveKey_eq_ok_iff.mp resolved with
    ⟨value, held, found, rfl⟩ | ⟨_, _, available, rfl, rfl⟩
  · rw [Key.ofField?, held, Option.bind_some, found]
  · have fits : -2 ^ 63 ≤ (store.generator : Int) ∧ (store.generator : Int) < 2 ^ 64 := by
      simp only [lastGenerated] at available
      omega
    rw [Key.ofField?, SortedMap.get?_insert_self, Option.bind_some, Key.ofValue?_ofInt fits]

/-- The record that is written is the given one, with its key where it lacked one. -/
theorem get?_of_resolveKey {full : Record}
    (resolved : store.resolveKey record = .ok (key, full)) (field : String) :
    full.get? field = (record.get? field).or
      (if field = store.primaryKey.field then full.get? store.primaryKey.field else none) := by
  by_cases primary : field = store.primaryKey.field
  · subst primary
    rw [if_pos rfl]
    rcases resolveKey_eq_ok_iff.mp resolved with ⟨_, held, _, rfl⟩ | ⟨absent, _, _, _, rfl⟩
    · rw [held, Option.some_or]
    · rw [absent, Option.none_or]
  · rw [if_neg primary, Option.or_none]
    rcases resolveKey_eq_ok_iff.mp resolved with ⟨_, _, _, rfl⟩ | ⟨_, _, _, _, rfl⟩
    · rfl
    · exact SortedMap.get?_insert_of_ne record _ (Ne.symm primary)

/-! ## Removal -/

@[simp]
theorem primaryKey_delete (store : Store) (key : Key) :
    (store.delete key).2.primaryKey = store.primaryKey := by
  unfold delete
  split <;> rfl

@[simp]
theorem generator_delete (store : Store) (key : Key) :
    (store.delete key).2.generator = store.generator := by
  unfold delete
  split <;> rfl

theorem get?_delete (store : Store) (key other : Key) :
    (store.delete key).2.get? other = if key = other then none else store.get? other := by
  unfold delete get?
  split
  · rename_i absent
    by_cases same : key = other
    · simp [← same, absent]
    · simp [same]
  · by_cases same : key = other
    · simp [← same]
    · simp [same, SortedMap.get?_erase_of_ne _ same]

/-- What deleting does to an index: the record deleted is taken out. -/
theorem get?_indexes_delete (store : Store) (key : Key) (name : String) :
    (store.delete key).2.indexes.get? name =
      (store.indexes.get? name).map fun index =>
        match store.get? key with
        | some record => index.remove record key
        | none => index := by
  unfold delete get?
  cases store.records.get? key with
  | none => simp
  | some record => exact SortedMap.get?_mapValues _ _ _

/-! ## Placement -/

@[simp]
theorem primaryKey_place (store : Store) (key : Key) (record : Record) :
    (store.place key record).primaryKey = store.primaryKey := by
  simp [place]

theorem generator_place (store : Store) (key : Key) (record : Record) :
    (store.place key record).generator =
      if store.primaryKey.autoIncrement then generatorPast store.generator key
      else store.generator :=
  rfl

theorem get?_place (store : Store) (key : Key) (record : Record) (other : Key) :
    (store.place key record).get? other =
      if key = other then some record else store.get? other := by
  change (((store.delete key).2.records).insert key record).get? other = _
  by_cases same : key = other
  · simp [← same]
  · rw [SortedMap.get?_insert_of_ne _ _ same, if_neg same]
    exact (get?_delete store key other).trans (if_neg same)

/-- What placing does to an index: the old record of the key is taken out and
the new one entered. -/
theorem get?_indexes_place (store : Store) (key : Key) (record : Record) (name : String) :
    (store.place key record).indexes.get? name =
      ((store.delete key).2.indexes.get? name).map fun index => index.insert record key :=
  SortedMap.get?_mapValues _ _ _

/-! ## Writes -/

/-- A record may be placed if it collides in no index. -/
theorem collision?_eq_none_iff :
    store.collision? record key = none ↔
      ∀ name index, store.indexes.get? name = some index → index.collision? record key = none := by
  unfold collision?
  rw [List.findSome?_eq_none_iff]
  simp only [SortedMap.mem_values_iff, Option.map_eq_none_iff, forall_exists_index]
  constructor
  · intro free name index found
    exact free index name found
  · intro free index name found
    exact free name index found

/-- A write succeeds exactly if its key is allowed and its record collides with
no other, and it places the record under its key. -/
theorem write_eq_ok_iff {overwrite : Bool} {value : Value} {changed : Store} :
    store.write record overwrite = .ok (value, changed) ↔
      ∃ key full, store.resolveKey record = .ok (key, full) ∧
        (overwrite = true ∨ store.get? key = none) ∧ store.collision? full key = none ∧
        value = (full.get? store.primaryKey.field).getD key.toValue ∧
        changed = store.place key full := by
  unfold write
  cases resolved : store.resolveKey record with
  | error error => simp [bind, Except.bind]
  | ok resolution =>
      obtain ⟨key, full⟩ := resolution
      simp only [Except.ok.injEq, Prod.mk.injEq, and_assoc, exists_and_left, exists_eq_left']
      by_cases refused : (!overwrite && store.records.contains key) = true
      · have taken : ¬ (overwrite = true ∨ store.get? key = none) := by
          simpa [get?, SortedMap.contains, Option.isSome_iff_ne_none] using refused
        simp [refused, taken, bind, Except.bind]
      · have allowed : overwrite = true ∨ store.get? key = none := by
          simpa [get?, SortedMap.contains, Classical.or_iff_not_imp_left] using refused
        cases collision : store.collision? full key with
        | some fault => simp [refused, collision, bind, Except.bind]
        | none =>
            simp [refused, allowed, collision, bind, Except.bind, pure, Except.pure,
              eq_comm (a := value), eq_comm (a := changed)]

theorem write_of_resolveKey_eq_error {overwrite : Bool} {error : StorageError}
    (failed : store.resolveKey record = .error error) :
    store.write record overwrite = .error error := by
  simp only [write, failed, bind, Except.bind]

theorem write_of_taken {full : Record} (resolved : store.resolveKey record = .ok (key, full))
    (taken : store.get? key ≠ none) :
    store.write record false = .error (.constraint (.keyExists key)) := by
  have present : store.records.contains key = true := by
    simpa [SortedMap.contains, get?, Option.isSome_iff_ne_none] using taken
  simp only [write, resolved, bind, Except.bind, present]
  rfl

/-- A write whose key is allowed is decided by the unique indexes alone. -/
theorem write_of_resolveKey {overwrite : Bool} {full : Record}
    (resolved : store.resolveKey record = .ok (key, full))
    (allowed : overwrite = true ∨ store.get? key = none) :
    store.write record overwrite =
      match store.collision? full key with
      | some fault => .error (.constraint fault)
      | none =>
          .ok ((full.get? store.primaryKey.field).getD key.toValue, store.place key full) := by
  have unrefused : (!overwrite && store.records.contains key) = false := by
    rcases allowed with rfl | unused
    · rfl
    · have absent : store.records.contains key = false := by
        simpa [SortedMap.contains, get?] using unused
      rw [absent, Bool.and_false]
  simp only [write, resolved, bind, Except.bind, unrefused]
  cases store.collision? full key <;> rfl

/-- A record that has a key is put under it, unless it collides with another. -/
theorem put_of_ofField? (own : Key.ofField? record store.primaryKey.field = some key) :
    store.put record =
      match store.collision? record key with
      | some fault => .error (.constraint fault)
      | none =>
          .ok ((record.get? store.primaryKey.field).getD key.toValue, store.place key record) :=
  write_of_resolveKey (resolveKey_of_ofField? own) (.inl rfl)

/-- A record that has a key is written in the place of the record of that key alone. -/
theorem get?_of_write {overwrite : Bool} {value : Value} {changed : Store}
    (own : Key.ofField? record store.primaryKey.field = some key)
    (written : store.write record overwrite = .ok (value, changed)) (other : Key) :
    changed.get? other = if key = other then some record else store.get? other := by
  obtain ⟨_, _, resolved, _, _, _, rfl⟩ := write_eq_ok_iff.mp written
  rw [resolveKey_of_ofField? own] at resolved
  cases resolved
  exact get?_place store key record other

theorem write_of_map {result : Except StorageError (Value × Store)} {changed : Store}
    (succeeded : result.map Prod.snd = .ok changed) : ∃ value, result = .ok (value, changed) := by
  cases result with
  | error error => contradiction
  | ok written =>
      cases succeeded
      exact ⟨written.1, rfl⟩

/-! ## Index changes -/

/-- An index is built under a new name, over all records. -/
theorem createIndex_eq_ok_iff {name : String} {descriptor : IndexDescriptor} {changed : Store} :
    store.createIndex name descriptor = .ok changed ↔
      store.indexes.get? descriptor.name = none ∧
        ∃ index, enterAll ⟨descriptor, .empty⟩ store.records.toList = .ok index ∧
          changed = { store with indexes := store.indexes.insert descriptor.name index } := by
  unfold createIndex
  by_cases taken : store.indexes.contains descriptor.name = true
  · have present : store.indexes.get? descriptor.name ≠ none := by
      simpa [SortedMap.contains, Option.isSome_iff_ne_none] using taken
    simp [taken, present]
  · have absent : store.indexes.get? descriptor.name = none := by
      simpa [SortedMap.contains] using taken
    rw [if_neg taken]
    cases enterAll ⟨descriptor, .empty⟩ store.records.toList with
    | error error => simp
    | ok index => simp [absent, eq_comm (a := changed)]

/-- An index is dropped if it is there. -/
theorem deleteIndex_eq_ok_iff {name index : String} {changed : Store} :
    store.deleteIndex name index = .ok changed ↔
      (store.indexes.get? index).isSome = true ∧
        changed = { store with indexes := store.indexes.erase index } := by
  unfold deleteIndex SortedMap.contains
  split
  · rename_i present
    simp [present, eq_comm (a := changed)]
  · rename_i absent
    simp [absent]

end Store

end RecordBase
