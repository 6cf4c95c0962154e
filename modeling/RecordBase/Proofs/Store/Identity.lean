import RecordBase.Proofs.Store.Consistency

/-!
# Stores known by their records

An index tree that keeps no index key without a record is known by its entries.
In a consistent store these are the index keys of the records, so the store is
known by its declarations, its records and its generator: whichever calls led to
it, its indexes are the same.
-/

namespace RecordBase

namespace IndexTree

variable {left right : IndexTree}

/-- The primary keys held under an index key are known by the entries. -/
theorem keys_eq_of_entries (same : ∀ entry, entry ∈ left.entries ↔ entry ∈ right.entries)
    {key : Key} {leftHeld rightHeld : KeySet} (leftFound : left.primaries.get? key = some leftHeld)
    (rightFound : right.primaries.get? key = some rightHeld) : leftHeld = rightHeld := by
  have entered (primary : Key) : primary ∈ leftHeld.keys ↔ primary ∈ rightHeld.keys := by
    have entry := same (key, primary)
    rw [mem_entries_iff, mem_entries_iff, leftFound, rightFound] at entry
    simpa using entry
  apply SortedMap.ext_get?
  intro primary
  cases held : leftHeld.get? primary with
  | none =>
      symm
      rw [SortedMap.get?_eq_none_iff, ← entered, ← SortedMap.get?_eq_none_iff]
      exact held
  | some mark =>
      obtain ⟨other, otherHeld⟩ := SortedMap.mem_keys_iff.mp
        ((entered primary).mp (SortedMap.mem_keys_iff.mpr ⟨mark, held⟩))
      exact otherHeld.symm

/-- An index key of one tree is an index key of every tree with the same
entries. -/
theorem exists_held_of_entries (tight : left.Tight)
    (same : ∀ entry, entry ∈ left.entries ↔ entry ∈ right.entries) {key : Key} {held : KeySet}
    (found : left.primaries.get? key = some held) :
    ∃ other, right.primaries.get? key = some other := by
  obtain ⟨primary, member⟩ := SortedMap.isEmpty_eq_false_iff.mp (tight key held found)
  obtain ⟨other, otherFound, _⟩ :=
    mem_entries_iff.mp ((same (key, primary)).mp (mem_entries_iff.mpr ⟨held, found, member⟩))
  exact ⟨other, otherFound⟩

/-- Trees without idle index keys are equal if they have the same entries. -/
theorem Tight.eq_of_entries (leftTight : left.Tight) (rightTight : right.Tight)
    (same : ∀ entry, entry ∈ left.entries ↔ entry ∈ right.entries) : left = right := by
  have primaries : left.primaries = right.primaries := by
    apply SortedMap.ext_get?
    intro key
    cases leftFound : left.primaries.get? key with
    | some held =>
        obtain ⟨other, rightFound⟩ := exists_held_of_entries leftTight same leftFound
        rw [rightFound, keys_eq_of_entries same leftFound rightFound]
    | none =>
        cases rightFound : right.primaries.get? key with
        | none => rfl
        | some held =>
            have reversed := fun entry => (same entry).symm
            obtain ⟨other, found⟩ := exists_held_of_entries rightTight reversed rightFound
            rw [leftFound] at found
            contradiction
  cases left
  cases right
  exact congrArg mk primaries

end IndexTree

/-- Indexes of one declaration that mirror the same records are equal. -/
theorem StoreIndex.Mirrors.eq {left right : StoreIndex} {stored : Key → Record → Prop}
    (leftMirrors : left.Mirrors stored) (rightMirrors : right.Mirrors stored)
    (declared : left.descriptor = right.descriptor) : left = right := by
  have trees : left.tree = right.tree := by
    apply leftMirrors.tight.eq_of_entries rightMirrors.tight
    rintro ⟨key, primary⟩
    rw [leftMirrors.mem_entries_iff, rightMirrors.mem_entries_iff]
    simp only [StoreIndex.key?, declared]
  cases left
  cases right
  dsimp only at declared trees
  rw [declared, trees]

/-- Consistent stores with the same records have the same index under a name if its
declaration is the same. -/
theorem Store.Consistent.get?_indexes_eq {left right : Store} (leftConsistent : left.Consistent)
    (rightConsistent : right.Consistent) (records : ∀ key, left.get? key = right.get? key)
    {name : String} (declared : (left.indexes.get? name).map (·.descriptor) =
      (right.indexes.get? name).map (·.descriptor)) :
    left.indexes.get? name = right.indexes.get? name := by
  cases leftFound : left.indexes.get? name with
  | none =>
      rw [leftFound, Option.map_none, eq_comm, Option.map_eq_none_iff] at declared
      exact declared.symm
  | some leftIndex =>
      rw [leftFound, Option.map_some, eq_comm, Option.map_eq_some_iff] at declared
      obtain ⟨rightIndex, rightFound, same⟩ := declared
      have leftMirrors := leftConsistent.mirrors leftFound
      have rightMirrors : rightIndex.Mirrors fun key record => left.get? key = some record :=
        (rightConsistent.mirrors rightFound).congr fun key record => by rw [records key]
      rw [rightFound, leftMirrors.eq rightMirrors same.symm]

/-- Consistent stores are equal if they have the same primary key, the same
declarations of indexes, the same records and the same generator. -/
theorem Store.Consistent.ext {left right : Store} (leftConsistent : left.Consistent)
    (rightConsistent : right.Consistent) (primaryKey : left.primaryKey = right.primaryKey)
    (described : ∀ name, (left.indexes.get? name).map (·.descriptor) =
      (right.indexes.get? name).map (·.descriptor))
    (records : ∀ key, left.get? key = right.get? key)
    (generator : left.generator = right.generator) : left = right := by
  have sameRecords : left.records = right.records := SortedMap.ext_get? records
  have sameIndexes : left.indexes = right.indexes :=
    SortedMap.ext_get? fun name =>
      leftConsistent.get?_indexes_eq rightConsistent records (described name)
  cases left
  cases right
  dsimp only at primaryKey sameRecords sameIndexes generator
  rw [primaryKey, sameRecords, sameIndexes, generator]

end RecordBase
