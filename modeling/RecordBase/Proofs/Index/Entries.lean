import RecordBase.Index.Tree
import RecordBase.Proofs.SortedMap.Seek

/-!
# Entries of an index

An index tree is known by its entries: inserting adds one entry, removing takes
one out, and an index key is taken by another record if it has an entry with
another primary key. The entries stand in one strict order, and a walk goes on
at the first of them that is in its range and past its position.
-/

namespace RecordBase

namespace SortedMap

variable {α β : Type} [Ord α]

@[simp]
theorem keys_empty : (empty : SortedMap α β).keys = [] :=
  rfl

/-- A map with a key is not empty. -/
theorem isEmpty_eq_false_iff {map : SortedMap α β} :
    map.isEmpty = false ↔ ∃ key, key ∈ map.keys := by
  rw [isEmpty, List.isEmpty_eq_false_iff_exists_mem]
  constructor
  · rintro ⟨entry, member⟩
    exact ⟨entry.1, List.mem_map_of_mem member⟩
  · rintro ⟨key, member⟩
    obtain ⟨entry, entryMember, _⟩ := List.mem_map.mp member
    exact ⟨entry, entryMember⟩

variable [Std.LawfulEqOrd α]

theorem mem_keys_erase {map : SortedMap α β} {key other : α} :
    other ∈ (map.erase key).keys ↔ other ∈ map.keys ∧ other ≠ key := by
  rw [mem_keys_iff, mem_keys_iff]
  by_cases same : other = key
  · subst same
    simp
  · rw [get?_erase_of_ne map (Ne.symm same)]
    simp [same]

theorem mem_keys_insert [Std.TransOrd α] {map : SortedMap α β} {key other : α} {value : β} :
    other ∈ (map.insert key value).keys ↔ other = key ∨ other ∈ map.keys := by
  rw [mem_keys_iff, mem_keys_iff]
  by_cases same : other = key
  · subst same
    simp
  · rw [get?_insert_of_ne map value (Ne.symm same)]
    simp [same]

end SortedMap

namespace IndexTree

variable {tree : IndexTree}

theorem mem_entries_iff {entry : Key × Key} :
    entry ∈ tree.entries ↔
      ∃ held, tree.primaries.get? entry.1 = some held ∧ entry.2 ∈ held.keys := by
  simp only [entries, List.mem_flatMap, List.mem_map]
  constructor
  · rintro ⟨held, member, primary, primaryMember, rfl⟩
    exact ⟨held.2, SortedMap.get?_eq_some_iff.mpr member, primaryMember⟩
  · rintro ⟨held, found, member⟩
    exact ⟨(entry.1, held), SortedMap.get?_eq_some_iff.mp found, entry.2, member, rfl⟩

@[simp]
theorem entries_empty : empty.entries = [] :=
  rfl

/-- Inserting adds one entry. -/
theorem mem_entries_insert {key primary : Key} {entry : Key × Key} :
    entry ∈ (tree.insert key primary).entries ↔
      entry = (key, primary) ∨ entry ∈ tree.entries := by
  rw [mem_entries_iff, mem_entries_iff, insert]
  by_cases same : entry.1 = key
  · have present : entry = (key, primary) ↔ entry.2 = primary := by
      simp [Prod.ext_iff, same]
    rw [present, same]
    cases found : tree.primaries.get? key with
    | none => simp [SortedMap.mem_keys_insert]
    | some held => simp [SortedMap.mem_keys_insert]
  · rw [SortedMap.get?_insert_of_ne _ _ (Ne.symm same)]
    have absent : entry ≠ (key, primary) := fun equal => same (congrArg Prod.fst equal)
    simp [absent]

/-- What is held under an index key that was removed from: nothing, where that
was the last primary key. -/
theorem get?_primaries_remove_self (tree : IndexTree) (key primary : Key) :
    (tree.remove key primary).primaries.get? key =
      ((tree.primaries.get? key).map (·.erase primary)).filter (!·.isEmpty) := by
  unfold remove
  cases found : tree.primaries.get? key with
  | none => simp [found]
  | some held =>
      by_cases last : (held.erase primary).isEmpty = true
      · simp [last, Option.filter_some]
      · simp [last, Option.filter_some]

theorem get?_primaries_remove_of_ne (tree : IndexTree) {key other : Key} (primary : Key)
    (different : key ≠ other) :
    (tree.remove key primary).primaries.get? other = tree.primaries.get? other := by
  unfold remove
  cases tree.primaries.get? key with
  | none => rfl
  | some held =>
      by_cases last : (held.erase primary).isEmpty = true
      · simp [last, SortedMap.get?_erase_of_ne _ different]
      · simp [last, SortedMap.get?_insert_of_ne _ _ different]

/-- Removing takes one entry out. -/
theorem mem_entries_remove {key primary : Key} {entry : Key × Key} :
    entry ∈ (tree.remove key primary).entries ↔
      entry ∈ tree.entries ∧ entry ≠ (key, primary) := by
  rw [mem_entries_iff, mem_entries_iff]
  by_cases same : entry.1 = key
  · have different : entry ≠ (key, primary) ↔ entry.2 ≠ primary := by
      simp [Prod.ext_iff, same]
    rw [different, same, get?_primaries_remove_self]
    constructor
    · rintro ⟨rest, kept, member⟩
      obtain ⟨kept, _⟩ := Option.filter_eq_some_iff.mp kept
      obtain ⟨held, found, rfl⟩ := Option.map_eq_some_iff.mp kept
      obtain ⟨member, other⟩ := SortedMap.mem_keys_erase.mp member
      exact ⟨⟨held, found, member⟩, other⟩
    · rintro ⟨⟨held, found, member⟩, other⟩
      have member : entry.2 ∈ (held.erase primary).keys :=
        SortedMap.mem_keys_erase.mpr ⟨member, other⟩
      have filled : (held.erase primary).isEmpty = false :=
        SortedMap.isEmpty_eq_false_iff.mpr ⟨entry.2, member⟩
      exact ⟨held.erase primary, by simp [found, filled], member⟩
  · have different : entry ≠ (key, primary) := fun equal => same (congrArg Prod.fst equal)
    rw [get?_primaries_remove_of_ne _ _ (Ne.symm same)]
    simp [different]

theorem isTakenByOther_iff {key primary : Key} :
    tree.isTakenByOther key primary = true ↔
      ∃ other, other ≠ primary ∧ (key, other) ∈ tree.entries := by
  simp only [mem_entries_iff, isTakenByOther]
  cases tree.primaries.get? key with
  | none => simp
  | some held => simp [and_comm]

/-! ## Index keys without a record -/

/-- No index key is kept without a primary key. -/
def Tight (tree : IndexTree) : Prop :=
  ∀ key held, tree.primaries.get? key = some held → held.isEmpty = false

theorem tight_empty : empty.Tight := by
  intro key held found
  cases found

theorem Tight.insert (tight : tree.Tight) (key primary : Key) :
    (tree.insert key primary).Tight := by
  intro other held found
  rw [IndexTree.insert, SortedMap.get?_insert] at found
  split at found
  · cases found
    exact SortedMap.isEmpty_eq_false_iff.mpr ⟨primary, SortedMap.mem_keys_insert.mpr (.inl rfl)⟩
  · exact tight other held found

theorem Tight.remove (tight : tree.Tight) (key primary : Key) :
    (tree.remove key primary).Tight := by
  intro other rest kept
  by_cases same : key = other
  · subst same
    rw [get?_primaries_remove_self] at kept
    simpa using (Option.filter_eq_some_iff.mp kept).2
  · rw [get?_primaries_remove_of_ne _ _ same] at kept
    exact tight other rest kept

/-! ## Walks -/

/-- The entries stand in one strict order. -/
theorem pairwise_entries (tree : IndexTree) :
    tree.entries.Pairwise Direction.forward.Precedes := by
  rw [entries, List.pairwise_flatMap]
  constructor
  · intro held _
    apply List.pairwise_map.mpr
    rw [SortedMap.keys, List.pairwise_map]
    exact held.2.ascending.imp fun before => .inr ⟨rfl, before⟩
  · apply tree.primaries.ascending.imp
    intro first second before entry member other otherMember
    obtain ⟨_, _, rfl⟩ := List.mem_map.mp member
    obtain ⟨_, _, rfl⟩ := List.mem_map.mp otherMember
    exact .inl before

end IndexTree

/-- An entry that a walk has not met when it stands at a position. -/
def Direction.Past (direction : Direction) (position : Option (Key × Key))
    (entry : Key × Key) : Prop :=
  ∀ reached ∈ position, direction.Precedes reached entry

instance (direction : Direction) (position : Option (Key × Key)) (entry : Key × Key) :
    Decidable (direction.Past position entry) :=
  match position with
  | none => .isTrue fun _ member => nomatch member
  | some reached =>
      decidable_of_iff (direction.Precedes reached entry) (by simp [Direction.Past])

namespace Direction

variable {direction : Direction}

theorem past_none (entry : Key × Key) : direction.Past none entry := by
  simp [Past]

theorem past_some_iff {reached entry : Key × Key} :
    direction.Past (some reached) entry ↔ direction.Precedes reached entry := by
  simp [Past]

/-- Past the first of the entries that are past a position are the others. -/
theorem filter_past_of_cons {entries : List (Key × Key)}
    (sorted : entries.Pairwise direction.Precedes) {position : Option (Key × Key)}
    {entry : Key × Key} {rest : List (Key × Key)}
    (going : (entries.filter fun other => direction.Past position other) = entry :: rest) :
    (entries.filter fun other => direction.Past (some entry) other) = rest := by
  have aheadSorted := sorted.filter fun other => decide (direction.Past position other)
  rw [going] at aheadSorted
  obtain ⟨first, restSorted⟩ := List.pairwise_cons.mp aheadSorted
  have ahead {other : Key × Key} :
      other ∈ entry :: rest ↔ other ∈ entries ∧ direction.Past position other := by
    rw [← going, List.mem_filter, decide_eq_true_eq]
  apply eq_of_pairwise_of_mem_iff (sorted.filter _) restSorted Precedes.asymm
  intro other
  rw [List.mem_filter, decide_eq_true_eq, past_some_iff]
  constructor
  · rintro ⟨member, before⟩
    have past := (ahead.mp List.mem_cons_self).2
    have beyond : direction.Past position other :=
      fun reached atReached => (past reached atReached).trans before
    rcases List.mem_cons.mp (ahead.mpr ⟨member, beyond⟩) with same | later
    · exact absurd (same ▸ before) (precedes_irrefl entry)
    · exact later
  · intro later
    exact ⟨(ahead.mp (List.mem_cons_of_mem _ later)).1, first other later⟩

end Direction

end RecordBase
