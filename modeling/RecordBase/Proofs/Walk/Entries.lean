import RecordBase.Key.ScanSource
import RecordBase.Proofs.Store.Consistency

/-!
# The entries of a scan source

What a scan of a store meets: entries of a key that is walked along and a
primary key. In a consistent store the entries of a source are the records that
the source covers, each once. A change of one record leaves all other entries
where they are.
-/

namespace RecordBase

namespace ScanSource

variable {source : ScanSource} {store : Store}

/-- The range of keys that are walked along. -/
def range (source : ScanSource) : KeyRange :=
  source.range?.getD .unbounded

/-- The key under which a walk meets a record: its index key, or its primary
key where no index is walked. -/
def key? (source : ScanSource) (store : Store) (primary : Key) (record : Record) : Option Key :=
  match source with
  | index name _ => (store.indexes.get? name).bind (·.key? record)
  | _ => some primary

/-- All entries along the keys of a source, in ascending order. -/
def order (source : ScanSource) (store : Store) : List (Key × Key) :=
  match source with
  | index name _ =>
      match store.indexes.get? name with
      | some held => held.tree.entries
      | none => []
  | _ => store.records.keys.map fun key => (key, key)

/-- The entries in the range of a source, in ascending order. -/
def entries (source : ScanSource) (store : Store) : List (Key × Key) :=
  (source.order store).filter fun entry => source.range.contains entry.1

theorem pairwise_order (source : ScanSource) (store : Store) :
    (source.order store).Pairwise Direction.forward.Precedes := by
  have alongKeys :
      (store.records.keys.map fun key => (key, key)).Pairwise Direction.forward.Precedes := by
    rw [List.pairwise_map, SortedMap.keys, List.pairwise_map]
    exact store.records.ascending.imp .inl
  cases source with
  | full => exact alongKeys
  | primary range => exact alongKeys
  | index name range =>
      simp only [order]
      split
      · exact IndexTree.pairwise_entries _
      · exact .nil

theorem pairwise_entries (source : ScanSource) (store : Store) :
    (source.entries store).Pairwise Direction.forward.Precedes :=
  (source.pairwise_order store).filter _

/-- The entries of a source are the keys of the stored records. -/
theorem mem_order_iff (consistent : store.Consistent) {entry : Key × Key} :
    entry ∈ source.order store ↔
      ∃ record, store.get? entry.2 = some record ∧
        source.key? store entry.2 record = some entry.1 := by
  have alongKeys : (entry ∈ store.records.keys.map fun key => (key, key)) ↔
      ∃ record, store.get? entry.2 = some record ∧ some entry.2 = some entry.1 := by
    simp only [List.mem_map, SortedMap.mem_keys_iff]
    constructor
    · rintro ⟨key, ⟨record, stored⟩, rfl⟩
      exact ⟨record, stored, rfl⟩
    · rintro ⟨record, stored, same⟩
      exact ⟨entry.2, ⟨record, stored⟩, Prod.ext (Option.some.inj same) rfl⟩
  cases source with
  | full => exact alongKeys
  | primary range => exact alongKeys
  | index name range =>
      simp only [order, key?]
      cases found : store.indexes.get? name with
      | none => simp
      | some index => exact (consistent.mirrors found).mem_entries_iff

theorem mem_entries_iff (consistent : store.Consistent) {entry : Key × Key} :
    entry ∈ source.entries store ↔
      source.range.contains entry.1 = true ∧ ∃ record, store.get? entry.2 = some record ∧
        source.key? store entry.2 record = some entry.1 := by
  rw [entries, List.mem_filter, mem_order_iff consistent, and_comm]

/-- No record has two entries. -/
theorem eq_of_mem_entries (consistent : store.Consistent) {first second : Key × Key}
    (firstMember : first ∈ source.entries store) (secondMember : second ∈ source.entries store)
    (same : first.2 = second.2) : first = second := by
  obtain ⟨_, firstRecord, firstStored, firstKey⟩ := (mem_entries_iff consistent).mp firstMember
  obtain ⟨_, secondRecord, secondStored, secondKey⟩ :=
    (mem_entries_iff consistent).mp secondMember
  rw [same, secondStored] at firstStored
  cases firstStored
  rw [same, secondKey] at firstKey
  exact Prod.ext (Option.some.inj firstKey).symm same

theorem pairwise_primaries (consistent : store.Consistent) :
    (source.entries store).Pairwise fun first second => first.2 ≠ second.2 := by
  apply (source.pairwise_entries store).imp_of_mem
  intro first second firstMember secondMember before same
  have equal := eq_of_mem_entries consistent firstMember secondMember same
  exact Direction.precedes_irrefl second (equal ▸ before)

theorem pairwise_arrange_primaries (consistent : store.Consistent) {direction : Direction} :
    (direction.arrange (source.entries store)).Pairwise
      fun first second => first.2 ≠ second.2 :=
  (Direction.arrange_perm _).symm.pairwise (pairwise_primaries consistent) Ne.symm

/-- There are no more entries than records. -/
theorem length_entries_le (consistent : store.Consistent) :
    (source.entries store).length ≤ store.records.size := by
  have distinct : ((source.entries store).map Prod.snd).Nodup :=
    List.pairwise_map.mpr (pairwise_primaries consistent)
  have stored : (source.entries store).map Prod.snd ⊆ store.records.keys := by
    intro primary member
    obtain ⟨entry, entryMember, rfl⟩ := List.mem_map.mp member
    obtain ⟨_, record, found, _⟩ := (mem_entries_iff consistent).mp entryMember
    exact SortedMap.mem_keys_iff.mpr ⟨record, found⟩
  have bound := distinct.length_le_of_subset stored
  simpa [SortedMap.keys, SortedMap.size] using bound

end ScanSource

/-! ## Records met -/

/-- The record of an entry with its primary key. -/
def Store.row? (store : Store) (entry : Key × Key) : Option (Key × Record) :=
  (store.get? entry.2).map (entry.2, ·)

theorem Store.row?_eq_some_iff {store : Store} {entry : Key × Key} {row : Key × Record} :
    store.row? entry = some row ↔ row.1 = entry.2 ∧ store.get? entry.2 = some row.2 := by
  simp only [row?, Option.map_eq_some_iff, Prod.ext_iff]
  constructor
  · rintro ⟨record, stored, same, rfl⟩
    exact ⟨same.symm, stored⟩
  · rintro ⟨same, stored⟩
    exact ⟨row.2, stored, same.symm, rfl⟩

/-- The records that a source covers, in the order in which they are met. -/
def ScanSource.rows (source : ScanSource) (store : Store) (direction : Direction) :
    List (Key × Record) :=
  (direction.arrange (source.entries store)).filterMap store.row?

namespace ScanSource

variable {source : ScanSource} {store : Store} {direction : Direction}

theorem mem_rows_iff (consistent : store.Consistent) {row : Key × Record} :
    row ∈ source.rows store direction ↔
      store.get? row.1 = some row.2 ∧
        ∃ key, source.key? store row.1 row.2 = some key ∧ source.range.contains key = true := by
  simp only [rows, List.mem_filterMap, Direction.mem_arrange, Store.row?_eq_some_iff,
    mem_entries_iff consistent]
  constructor
  · rintro ⟨⟨key, primary⟩, ⟨inside, record, stored, keyed⟩, same, found⟩
    dsimp only at same stored keyed found
    subst same
    rw [stored] at found
    cases found
    exact ⟨stored, key, keyed, inside⟩
  · rintro ⟨stored, key, keyed, inside⟩
    exact ⟨(key, row.1), ⟨inside, row.2, stored, keyed⟩, rfl, stored⟩

/-- The records of a source are met in one order or the other way round. -/
theorem rows_eq_arrange (source : ScanSource) (store : Store) (direction : Direction) :
    source.rows store direction = direction.arrange (source.rows store .forward) :=
  (Direction.arrange_filterMap _ _).symm

theorem length_rows_le (source : ScanSource) (store : Store) (direction : Direction) :
    (source.rows store direction).length ≤ (source.entries store).length := by
  have met := List.length_filterMap_le store.row? (direction.arrange (source.entries store))
  rw [Direction.length_arrange] at met
  exact met

/-- No record is met twice. -/
theorem nodup_keys_rows (consistent : store.Consistent) :
    ((source.rows store direction).map Prod.fst).Nodup := by
  apply List.pairwise_map.mpr
  apply List.Pairwise.filterMap _ _ (pairwise_arrange_primaries consistent)
  intro first second different firstRow firstFound secondRow secondFound
  rw [(Store.row?_eq_some_iff.mp firstFound).1, (Store.row?_eq_some_iff.mp secondFound).1]
  exact different

theorem nodup_rows (consistent : store.Consistent) : (source.rows store direction).Nodup :=
  (List.pairwise_map.mp (nodup_keys_rows consistent)).imp
    fun different same => different (congrArg Prod.fst same)

end ScanSource

/-! ## Changes of one record -/

/-- Two stores differ at most in the record of one key. -/
structure Store.DiffersAt (key : Key) (before after : Store) : Prop where
  primaryKey : after.primaryKey = before.primaryKey
  described : ∀ name, (after.indexes.get? name).map (·.descriptor) =
    (before.indexes.get? name).map (·.descriptor)
  elsewhere : ∀ {other}, other ≠ key → after.get? other = before.get? other

namespace Store

variable {before after : Store} {key : Key}

theorem differsAt_refl (key : Key) (store : Store) : DiffersAt key store store :=
  ⟨rfl, fun _ => rfl, fun _ => rfl⟩

theorem differsAt_delete (key : Key) (store : Store) :
    DiffersAt key store (store.delete key).2 where
  primaryKey := primaryKey_delete store key
  described := by
    intro name
    rw [get?_indexes_delete, Option.map_map]
    apply congrArg (Option.map · _)
    funext index
    dsimp only [Function.comp]
    split
    · exact StoreIndex.descriptor_remove _ _ _
    · rfl
  elsewhere := by
    intro other different
    rw [get?_delete, if_neg different.symm]

theorem differsAt_place (key : Key) (record : Record) (store : Store) :
    DiffersAt key store (store.place key record) where
  primaryKey := primaryKey_place store key record
  described := by
    intro name
    rw [← (differsAt_delete key store).described, get?_indexes_place, Option.map_map]
    apply congrArg (Option.map · _)
    funext index
    exact StoreIndex.descriptor_insert _ _ _
  elsewhere := by
    intro other different
    rw [get?_place, if_neg different.symm]

/-- A record is met under the same key before and after a change of another. -/
theorem DiffersAt.key?_eq (differs : DiffersAt key before after) (source : ScanSource)
    (primary : Key) (record : Record) :
    source.key? after primary record = source.key? before primary record := by
  cases source with
  | full => rfl
  | primary range => rfl
  | index name range =>
      have described := differs.described name
      simp only [ScanSource.key?]
      cases found : before.indexes.get? name with
      | none =>
          simp only [found, Option.map_none, Option.map_eq_none_iff] at described
          rw [described]
      | some index =>
          simp only [found, Option.map_some, Option.map_eq_some_iff] at described
          obtain ⟨changed, changedFound, same⟩ := described
          simp only [changedFound, Option.bind_some, StoreIndex.key?, same]

/-- The entries of all other records stay where they are. -/
theorem DiffersAt.entries_filter (differs : DiffersAt key before after)
    (beforeConsistent : before.Consistent) (afterConsistent : after.Consistent)
    (source : ScanSource) :
    ((source.entries after).filter fun entry => entry.2 ≠ key) =
      (source.entries before).filter fun entry => entry.2 ≠ key := by
  apply eq_of_pairwise_of_mem_iff ((source.pairwise_entries after).filter _)
    ((source.pairwise_entries before).filter _) Direction.Precedes.asymm
  intro entry
  simp only [List.mem_filter, decide_eq_true_eq, ScanSource.mem_entries_iff beforeConsistent,
    ScanSource.mem_entries_iff afterConsistent, differs.key?_eq]
  apply and_congr_left
  intro different
  rw [differs.elsewhere different]

end Store

end RecordBase
