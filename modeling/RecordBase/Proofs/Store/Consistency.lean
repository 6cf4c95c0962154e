import RecordBase.Proofs.Store.Write

/-!
# Consistent stores

A store is consistent if every record stands under the key that it holds, every
index mirrors the records, and the generator of keys has passed all keys in use.
The empty store is consistent, and every call keeps a store consistent, so every
store that calls lead to is consistent, whichever of the calls failed.
-/

namespace RecordBase

namespace Store

/-! ## Calls -/

/-- A call that changes a store, if it succeeds. -/
inductive Change where
  | add (record : Record)
  | put (record : Record)
  | delete (key : Key)
  | createIndex (storeName : String) (descriptor : IndexDescriptor)
  | deleteIndex (storeName index : String)

/-- The store that a call leads to, or the error that it fails of. -/
def Change.run (store : Store) : Change → Except StorageError Store
  | add record => (store.add record).map Prod.snd
  | put record => (store.put record).map Prod.snd
  | delete key => .ok (store.delete key).2
  | createIndex storeName descriptor => store.createIndex storeName descriptor
  | deleteIndex storeName index => store.deleteIndex storeName index

/-- The store after a call. A call that fails leaves it as it was. -/
def after (store : Store) (change : Change) : Store :=
  match change.run store with
  | .ok changed => changed
  | .error _ => store

theorem after_of_run {store changed : Store} {change : Change}
    (succeeded : change.run store = .ok changed) : store.after change = changed := by
  rw [after, succeeded]

theorem run_add {store changed : Store} {record : Record} {value : Value}
    (added : store.add record = .ok (value, changed)) :
    (Change.add record).run store = .ok changed := by
  rw [Change.run, added]
  rfl

theorem run_put {store changed : Store} {record : Record} {value : Value}
    (written : store.put record = .ok (value, changed)) :
    (Change.put record).run store = .ok changed := by
  rw [Change.run, written]
  rfl

/-- The stores that calls lead to from an empty store. -/
inductive Reachable : Store → Prop
  | empty (primaryKey : PrimaryKey) : Reachable { primaryKey }
  | after {store : Store} (reachable : Reachable store) (change : Change) :
      Reachable (store.after change)

/-- The store that a list of calls makes of an empty one. -/
def ofHistory (primaryKey : PrimaryKey) (history : List Change) : Store :=
  history.foldl Store.after { primaryKey }

theorem reachable_foldl {store : Store} (reachable : Reachable store) (history : List Change) :
    Reachable (history.foldl Store.after store) := by
  induction history generalizing store with
  | nil => exact reachable
  | cons change rest inductionHypothesis => exact inductionHypothesis (reachable.after change)

theorem reachable_ofHistory (primaryKey : PrimaryKey) (history : List Change) :
    Reachable (ofHistory primaryKey history) :=
  reachable_foldl (.empty primaryKey) history

/-- A call that succeeds on a reachable store makes another. -/
theorem Reachable.of_run {store changed : Store} (reachable : Reachable store) {change : Change}
    (succeeded : change.run store = .ok changed) : Reachable changed :=
  after_of_run succeeded ▸ reachable.after change

/-! ## Consistency -/

/-- Records, indexes and the generator of a store agree. -/
structure Consistent (store : Store) : Prop where
  ownKey : ∀ {key record}, store.get? key = some record →
    Key.ofField? record store.primaryKey.field = some key
  named : ∀ {name index}, store.indexes.get? name = some index → index.descriptor.name = name
  mirrors : ∀ {name index}, store.indexes.get? name = some index →
    index.Mirrors fun key record => store.get? key = some record
  settled : store.primaryKey.autoIncrement = true → ∀ {key record},
    store.get? key = some record → generatorPast store.generator key = store.generator

theorem consistent_empty (primaryKey : PrimaryKey) : Consistent { primaryKey } where
  ownKey := by
    intro key record found
    cases found
  named := by
    intro name index found
    cases found
  mirrors := by
    intro name index found
    cases found
  settled := by
    intro _ key record found
    cases found

namespace Consistent

variable {store : Store} {key : Key} {record : Record}

/-- Deleting keeps a store consistent. -/
theorem delete (consistent : store.Consistent) (key : Key) : (store.delete key).2.Consistent where
  ownKey := by
    intro other held found
    rw [get?_delete] at found
    split at found
    · contradiction
    · rw [primaryKey_delete]
      exact consistent.ownKey found
  named := by
    intro name index found
    rw [get?_indexes_delete] at found
    obtain ⟨before, indexed, rfl⟩ := Option.map_eq_some_iff.mp found
    split
    · rw [StoreIndex.descriptor_remove]
      exact consistent.named indexed
    · exact consistent.named indexed
  mirrors := by
    intro name index found
    rw [get?_indexes_delete] at found
    obtain ⟨before, indexed, rfl⟩ := Option.map_eq_some_iff.mp found
    have mirrors := consistent.mirrors indexed
    split
    · rename_i record present
      have only : ∀ held, store.get? key = some held → held = record := by
        intro held own
        exact Option.some.inj (own.symm.trans present)
      apply (mirrors.remove only).congr
      intro other held
      simp only [get?_delete]
      by_cases same : key = other
      · simp [same]
      · simp [same, Ne.symm same]
    · rename_i absent
      apply mirrors.congr
      intro other held
      simp only [get?_delete]
      by_cases same : key = other
      · simp [← same, absent]
      · simp [same]
  settled := by
    rw [primaryKey_delete, generator_delete]
    intro generated other held found
    rw [get?_delete] at found
    split at found
    · contradiction
    · exact consistent.settled generated found

/-- Placing a record under its key keeps a store consistent, if the record
collides with no other. -/
theorem place (consistent : store.Consistent)
    (own : Key.ofField? record store.primaryKey.field = some key)
    (free : store.collision? record key = none) : (store.place key record).Consistent where
  ownKey := by
    intro other held found
    rw [primaryKey_place]
    rw [get?_place] at found
    split at found
    · rename_i same
      cases found
      exact same ▸ own
    · exact consistent.ownKey found
  named := by
    intro name index found
    rw [get?_indexes_place] at found
    obtain ⟨cleared, indexed, rfl⟩ := Option.map_eq_some_iff.mp found
    rw [StoreIndex.descriptor_insert]
    exact (consistent.delete key).named indexed
  mirrors := by
    intro name index found
    rw [get?_indexes_place] at found
    obtain ⟨cleared, indexed, rfl⟩ := Option.map_eq_some_iff.mp found
    have mirrors := (consistent.delete key).mirrors indexed
    have clearedFree : cleared.collision? record key = none := by
      rw [get?_indexes_delete] at indexed
      obtain ⟨before, stored, rfl⟩ := Option.map_eq_some_iff.mp indexed
      have beforeFree := collision?_eq_none_iff.mp free name before stored
      split
      · exact StoreIndex.collision?_remove beforeFree
      · exact beforeFree
    apply (mirrors.insert clearedFree).congr
    intro other held
    simp only [get?_delete, get?_place]
    by_cases same : key = other
    · simp [same, eq_comm]
    · simp [same, Ne.symm same]
  settled := by
    intro generated other held found
    rw [primaryKey_place] at generated
    rw [generator_place, if_pos generated]
    rw [get?_place] at found
    split at found
    · rename_i same
      subst same
      exact generatorPast_idem store.generator key
    · exact generatorPast_eq_of_le (consistent.settled generated found)
        (generatorPast_ge store.generator key)

/-- A record collides with a stored one that has its key in a unique index, and
the fault names that index and that key. -/
theorem exists_of_collision? (consistent : store.Consistent) {fault : ConstraintFault}
    (collision : store.collision? record key = some fault) :
    ∃ name descriptor indexKey other held,
      (store.indexes.get? name).map (·.descriptor) = some descriptor ∧
      descriptor.unique = true ∧ fault = .indexTaken name indexKey ∧ other ≠ key ∧
      store.get? other = some held ∧ Key.ofRecord? record descriptor.keyPath = some indexKey ∧
      Key.ofRecord? held descriptor.keyPath = some indexKey := by
  obtain ⟨index, member, faulty⟩ := List.exists_of_findSome?_eq_some collision
  obtain ⟨name, found⟩ := SortedMap.mem_values_iff.mp member
  obtain ⟨indexKey, taken, rfl⟩ := Option.map_eq_some_iff.mp faulty
  unfold StoreIndex.collision? at taken
  split at taken
  · rename_i unique
    obtain ⟨keyed, takenByOther⟩ := Option.filter_eq_some_iff.mp taken
    obtain ⟨other, different, entered⟩ := IndexTree.isTakenByOther_iff.mp takenByOther
    obtain ⟨held, stored, heldKey⟩ := (consistent.mirrors found).mem_entries_iff.mp entered
    refine ⟨name, index.descriptor, indexKey, other, held, by rw [found]; rfl, unique, ?_,
      different, stored, keyed, heldKey⟩
    rw [consistent.named found]
  · contradiction

/-- Writing keeps a store consistent. -/
theorem write (consistent : store.Consistent) {overwrite : Bool} {value : Value} {changed : Store}
    (written : store.write record overwrite = .ok (value, changed)) : changed.Consistent := by
  obtain ⟨key, full, resolved, _, free, _, rfl⟩ := write_eq_ok_iff.mp written
  exact consistent.place (ofField?_of_resolveKey resolved) free

/-- Building an index keeps a store consistent. -/
theorem createIndex (consistent : store.Consistent) {storeName : String}
    {descriptor : IndexDescriptor} {changed : Store}
    (created : store.createIndex storeName descriptor = .ok changed) : changed.Consistent := by
  obtain ⟨_, built, entered, rfl⟩ := createIndex_eq_ok_iff.mp created
  obtain ⟨described, mirrors⟩ := mirrors_of_build entered
  have lookup : ∀ {name index},
      (store.indexes.insert descriptor.name built).get? name = some index →
        descriptor.name = name ∧ index = built ∨ store.indexes.get? name = some index := by
    intro name index found
    rw [SortedMap.get?_insert] at found
    split at found
    · rename_i same
      exact .inl ⟨Std.LawfulEqOrd.eq_of_compare same, (Option.some.inj found).symm⟩
    · exact .inr found
  constructor
  · exact consistent.ownKey
  · intro name index found
    rcases lookup found with ⟨same, rfl⟩ | old
    · rw [described]
      exact same
    · exact consistent.named old
  · intro name index found
    rcases lookup found with ⟨_, rfl⟩ | old
    · exact mirrors
    · exact consistent.mirrors old
  · exact consistent.settled

/-- Dropping an index keeps a store consistent. -/
theorem deleteIndex (consistent : store.Consistent) {storeName name : String} {changed : Store}
    (deleted : store.deleteIndex storeName name = .ok changed) : changed.Consistent := by
  obtain ⟨_, rfl⟩ := deleteIndex_eq_ok_iff.mp deleted
  have kept : ∀ {other index}, (store.indexes.erase name).get? other = some index →
      store.indexes.get? other = some index := by
    intro other index found
    rw [SortedMap.get?_erase] at found
    split at found
    · contradiction
    · exact found
  exact ⟨consistent.ownKey, fun found => consistent.named (kept found),
    fun found => consistent.mirrors (kept found), consistent.settled⟩

/-- Every call keeps a store consistent. -/
theorem run (consistent : store.Consistent) {change : Change} {changed : Store}
    (succeeded : change.run store = .ok changed) : changed.Consistent := by
  cases change with
  | add record =>
      obtain ⟨value, written⟩ := write_of_map succeeded
      exact consistent.write written
  | put record =>
      obtain ⟨value, written⟩ := write_of_map succeeded
      exact consistent.write written
  | delete key =>
      cases succeeded
      exact consistent.delete key
  | createIndex storeName descriptor => exact consistent.createIndex succeeded
  | deleteIndex storeName index => exact consistent.deleteIndex succeeded

/-- A call leaves a consistent store, also if it fails. -/
theorem after (consistent : store.Consistent) (change : Change) :
    (store.after change).Consistent := by
  unfold Store.after
  split
  · rename_i changed succeeded
    exact consistent.run succeeded
  · exact consistent

end Consistent

/-- Every store that calls lead to is consistent. -/
theorem Reachable.consistent {store : Store} (reachable : store.Reachable) : store.Consistent := by
  induction reachable with
  | empty primaryKey => exact consistent_empty primaryKey
  | after reachable change inductionHypothesis => exact inductionHypothesis.after change

/-- Placing a record that collides with no other leads to a store that calls lead
to. -/
theorem Reachable.place {store : Store} (reachable : store.Reachable) {key : Key} {record : Record}
    (own : Key.ofField? record store.primaryKey.field = some key)
    (free : store.collision? record key = none) : (store.place key record).Reachable := by
  have written := put_of_ofField? own
  rw [free] at written
  exact reachable.of_run (run_put written)

/-- In every store that calls lead to, records stand under their keys, indexes hold just the
index keys of the records, and unique indexes hold each once. -/
theorem invariant_of_reachable {store : Store} (reachable : store.Reachable) :
    (∀ key record, store.get? key = some record →
      Key.ofField? record store.primaryKey.field = some key) ∧
    ∀ name index, store.indexes.get? name = some index →
      (∀ key primary, (key, primary) ∈ index.tree.entries ↔
        ∃ record, store.get? primary = some record ∧
          Key.ofRecord? record index.descriptor.keyPath = some key) ∧
      (∀ key held, index.tree.primaries.get? key = some held → held ≠ .empty) ∧
      (index.descriptor.unique = true → ∀ key first second firstRecord secondRecord,
        store.get? first = some firstRecord → store.get? second = some secondRecord →
        Key.ofRecord? firstRecord index.descriptor.keyPath = some key →
        Key.ofRecord? secondRecord index.descriptor.keyPath = some key → first = second) := by
  have consistent := reachable.consistent
  constructor
  · intro key record stored
    exact consistent.ownKey stored
  · intro name index found
    have mirrors := consistent.mirrors found
    constructor
    · intro key primary
      exact mirrors.mem_entries_iff
    · constructor
      · rintro key held kept rfl
        have filled := mirrors.tight key .empty kept
        contradiction
      · intro unique key first second firstRecord secondRecord firstStored secondStored firstKey
          secondKey
        have firstEntry := mirrors.mem_entries_iff.mpr ⟨firstRecord, firstStored, firstKey⟩
        have secondEntry := mirrors.mem_entries_iff.mpr ⟨secondRecord, secondStored, secondKey⟩
        exact mirrors.unique unique firstEntry secondEntry

/-- A record that is refused and one that loses its index key leave no entry
behind. -/
theorem invariant_after_refusal_and_loss :
    let store := ofHistory {}
      [ .createIndex "users" ⟨"by_email", true, .single "email"⟩
      , .add (.ofList [("email", .string "a")])
      , .add (.ofList [("email", .string "a")])
      , .add (.ofList [("email", .string "b")])
      , .put (.ofList [("_id", .ofInt 1), ("email", .null)]) ]
    store.Reachable ∧ store.records.keys = [Key.ofInt 1, Key.ofInt 2] ∧
      ∃ index, store.indexes.get? "by_email" = some index ∧
        ∀ key, (key, Key.ofInt 1) ∉ index.tree.entries := by
  intro store
  have reachable : store.Reachable := reachable_ofHistory _ _
  have indexed : (store.indexes.get? "by_email").isSome = true := by decide +kernel
  obtain ⟨index, found⟩ := Option.isSome_iff_exists.mp indexed
  refine ⟨reachable, by decide +kernel, index, found, ?_⟩
  intro key member
  obtain ⟨entries, _, _⟩ := (invariant_of_reachable reachable).2 "by_email" index found
  obtain ⟨record, stored, keyed⟩ := (entries key (Key.ofInt 1)).mp member
  have keyless : ((store.get? (Key.ofInt 1)).bind fun record =>
      (store.indexes.get? "by_email").bind fun index => index.key? record) = none := by
    decide +kernel
  rw [stored, found] at keyless
  exact Option.some_ne_none key (keyed.symm.trans keyless)

end Store

end RecordBase
