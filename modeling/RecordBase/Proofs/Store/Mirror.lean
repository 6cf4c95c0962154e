import RecordBase.Proofs.Index.Entries
import RecordBase.Storage.Store

/-!
# Indexes that mirror records

An index mirrors the records of a store if its entries are the index keys of
these records with their primary keys, and nothing else. Entering a record and
taking one out keep this, and so does building an index from the records one by
one. The records are given as a relation, so that the records entered so far
need not be the records of a store.
-/

namespace RecordBase

namespace StoreIndex

variable {index : StoreIndex} {record : Record} {primary : Key}

@[simp]
theorem descriptor_insert (index : StoreIndex) (record : Record) (primary : Key) :
    (index.insert record primary).descriptor = index.descriptor := by
  unfold insert
  split <;> rfl

@[simp]
theorem descriptor_remove (index : StoreIndex) (record : Record) (primary : Key) :
    (index.remove record primary).descriptor = index.descriptor := by
  unfold remove
  split <;> rfl

@[simp]
theorem key?_insert (index : StoreIndex) (record : Record) (primary : Key) (other : Record) :
    (index.insert record primary).key? other = index.key? other := by
  simp [key?]

@[simp]
theorem key?_remove (index : StoreIndex) (record : Record) (primary : Key) (other : Record) :
    (index.remove record primary).key? other = index.key? other := by
  simp [key?]

/-- Entering a record adds its entry, if it has an index key. -/
theorem mem_entries_insert {entry : Key × Key} :
    entry ∈ (index.insert record primary).tree.entries ↔
      index.key? record = some entry.1 ∧ entry.2 = primary ∨ entry ∈ index.tree.entries := by
  unfold insert
  split
  · rename_i key found
    simp only [IndexTree.mem_entries_insert, found, Prod.ext_iff, Option.some.injEq,
      eq_comm (a := key)]
  · rename_i absent
    simp [absent]

/-- Taking a record out drops its entry, if it has an index key. -/
theorem mem_entries_remove {entry : Key × Key} :
    entry ∈ (index.remove record primary).tree.entries ↔
      entry ∈ index.tree.entries ∧ ¬ (index.key? record = some entry.1 ∧ entry.2 = primary) := by
  unfold remove
  split
  · rename_i key found
    simp only [IndexTree.mem_entries_remove, found, ne_eq, Prod.ext_iff, Option.some.injEq,
      eq_comm (a := key)]
  · rename_i absent
    simp [absent]

theorem tight_insert (tight : index.tree.Tight) : (index.insert record primary).tree.Tight := by
  unfold insert
  split
  · exact tight.insert _ _
  · exact tight

theorem tight_remove (tight : index.tree.Tight) : (index.remove record primary).tree.Tight := by
  unfold remove
  split
  · exact tight.remove _ _
  · exact tight

/-- A record may stand in an index if the index is not unique or holds its key
for no other record. -/
theorem collision?_eq_none_iff :
    index.collision? record primary = none ↔
      (index.descriptor.unique = true → ∀ key other, index.key? record = some key →
        (key, other) ∈ index.tree.entries → other = primary) := by
  unfold collision?
  by_cases unique : index.descriptor.unique = true
  · rw [if_pos unique, Option.filter_eq_none_iff]
    simp only [IndexTree.isTakenByOther_iff, unique, forall_const, not_exists, not_and]
    constructor
    · intro free key other found member
      exact Decidable.byContradiction fun different => free key found other different member
    · intro free key found other different member
      exact different (free key other found member)
  · simp [unique]

/-- The entries are the index keys of the stored records, none is kept without an entry, and a
unique index holds each for one record. -/
structure Mirrors (index : StoreIndex) (stored : Key → Record → Prop) : Prop where
  tight : index.tree.Tight
  mem_entries_iff : ∀ {key primary}, (key, primary) ∈ index.tree.entries ↔
    ∃ record, stored primary record ∧ index.key? record = some key
  unique : index.descriptor.unique = true → ∀ {key first second},
    (key, first) ∈ index.tree.entries → (key, second) ∈ index.tree.entries → first = second

namespace Mirrors

variable {stored extended : Key → Record → Prop}

/-- The index without entries mirrors no record. -/
theorem empty (descriptor : IndexDescriptor) (none' : ∀ primary record, ¬ stored primary record) :
    Mirrors ⟨descriptor, .empty⟩ stored where
  tight := IndexTree.tight_empty
  mem_entries_iff := by simp [none']
  unique := by simp

theorem congr (mirrors : index.Mirrors stored)
    (same : ∀ primary record, extended primary record ↔ stored primary record) :
    index.Mirrors extended := by
  have equal : extended = stored := by
    funext primary record
    exact propext (same primary record)
  exact equal ▸ mirrors

/-- A record without collision can be entered. -/
theorem insert (mirrors : index.Mirrors stored) (free : index.collision? record primary = none) :
    (index.insert record primary).Mirrors fun other held =>
      other = primary ∧ held = record ∨ stored other held where
  tight := tight_insert mirrors.tight
  mem_entries_iff := by
    intro key other
    rw [mem_entries_insert, mirrors.mem_entries_iff]
    simp only [key?_insert]
    constructor
    · rintro (⟨found, same⟩ | ⟨held, member, found⟩)
      · exact ⟨record, .inl ⟨same, rfl⟩, found⟩
      · exact ⟨held, .inr member, found⟩
    · rintro ⟨held, ⟨same, rfl⟩ | member, found⟩
      · exact .inl ⟨found, same⟩
      · exact .inr ⟨held, member, found⟩
  unique := by
    rw [descriptor_insert]
    intro unique key first second
    rw [mem_entries_insert, mem_entries_insert]
    have free := collision?_eq_none_iff.mp free unique
    rintro (⟨found, same⟩ | firstMember) (⟨other, equal⟩ | secondMember)
    · exact same.trans equal.symm
    · exact same.trans (free key second found secondMember).symm
    · exact (free key first other firstMember).trans equal.symm
    · exact mirrors.unique unique firstMember secondMember

/-- A record can be taken out if it is the one under its primary key. -/
theorem remove (mirrors : index.Mirrors stored)
    (own : ∀ held, stored primary held → held = record) :
    (index.remove record primary).Mirrors fun other held =>
      other ≠ primary ∧ stored other held where
  tight := tight_remove mirrors.tight
  mem_entries_iff := by
    intro key other
    rw [mem_entries_remove, mirrors.mem_entries_iff]
    simp only [key?_remove]
    constructor
    · rintro ⟨⟨held, member, found⟩, kept⟩
      refine ⟨held, ⟨?_, member⟩, found⟩
      rintro rfl
      exact kept ⟨own held member ▸ found, rfl⟩
    · rintro ⟨held, ⟨different, member⟩, found⟩
      exact ⟨⟨held, member, found⟩, fun removed => different removed.2⟩
  unique := by
    rw [descriptor_remove]
    intro unique key first second firstMember secondMember
    exact mirrors.unique unique (mem_entries_remove.mp firstMember).1
      (mem_entries_remove.mp secondMember).1

end Mirrors

/-- Taking a record out causes no collision. -/
theorem collision?_remove {taken : Record} {other : Key}
    (free : index.collision? record primary = none) :
    (index.remove taken other).collision? record primary = none := by
  rw [collision?_eq_none_iff] at free ⊢
  rw [descriptor_remove]
  intro unique key second found member
  rw [key?_remove] at found
  exact free unique key second found (mem_entries_remove.mp member).1

end StoreIndex

/-- An index that is built record by record mirrors all records entered. -/
theorem Store.mirrors_of_enterAll {rows : List (Key × Record)} {index built : StoreIndex}
    {stored : Key → Record → Prop} (mirrors : index.Mirrors stored)
    (entered : enterAll index rows = .ok built) :
    built.descriptor = index.descriptor ∧
      built.Mirrors fun primary record => (primary, record) ∈ rows ∨ stored primary record := by
  induction rows generalizing index stored with
  | nil =>
      cases entered
      exact ⟨rfl, mirrors.congr (by simp)⟩
  | cons row rest inductionHypothesis =>
      obtain ⟨primary, record⟩ := row
      rw [enterAll] at entered
      split at entered
      · contradiction
      · rename_i free
        obtain ⟨descriptor, mirrored⟩ := inductionHypothesis (mirrors.insert free) entered
        refine ⟨by rw [descriptor, StoreIndex.descriptor_insert], mirrored.congr ?_⟩
        intro other held
        rw [List.mem_cons, Prod.mk.injEq, or_assoc, or_left_comm]

/-- An index that is built over a store mirrors its records. -/
theorem Store.mirrors_of_build {store : Store} {descriptor : IndexDescriptor} {built : StoreIndex}
    (entered : enterAll ⟨descriptor, .empty⟩ store.records.toList = .ok built) :
    built.descriptor = descriptor ∧
      built.Mirrors fun key record => store.get? key = some record := by
  have nothing : StoreIndex.Mirrors ⟨descriptor, .empty⟩ fun _ _ => False :=
    .empty descriptor fun _ _ => id
  obtain ⟨described, mirrors⟩ := mirrors_of_enterAll nothing entered
  refine ⟨described, mirrors.congr ?_⟩
  intro key record
  rw [get?, SortedMap.get?_eq_some_iff, or_false]

end RecordBase
