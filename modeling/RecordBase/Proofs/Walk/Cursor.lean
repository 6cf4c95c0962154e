import RecordBase.Proofs.Index.Successor
import RecordBase.Proofs.Walk.Entries
import RecordBase.Storage.Cursor

/-!
# Walks of a cursor

The entries ahead of a cursor are those of its source that are past its
position. An advance goes to the first of them, and the others stay ahead. So a
walk through a store that does not change meets the records of its source, each
once and in order, within the steps that it is given.
-/

namespace RecordBase

namespace Direction

variable {direction : Direction}

theorem past_self_iff {position key : Key} :
    direction.Past (some (position, position)) (key, key) ↔ direction.Before position key := by
  constructor
  · intro past
    rcases past (position, position) rfl with before | ⟨_, before⟩
    · exact before
    · exact before
  · rintro before _ ⟨⟩
    exact .inl before

end Direction

/-- The next primary key is the first one that is in the range and past the
position. -/
theorem Store.nextPrimary_eq_find? {store : Store} {range : KeyRange} {direction : Direction}
    {position : Option (Key × Key)}
    (inside : ∀ reached ∈ position, range.contains reached.1 = true)
    (own : ∀ reached ∈ position, reached.1 = reached.2) :
    ((store.nextPrimary range (position.map Prod.fst) direction).map fun key => (key, key)) =
      (direction.arrange (store.records.keys.map fun key => (key, key))).find? fun entry =>
        range.contains entry.1 && direction.Past position entry := by
  rw [Direction.arrange_map, SortedMap.keys, Direction.arrange_map, List.find?_map, List.find?_map,
    nextPrimary]
  have keyInside : ∀ reached ∈ position.map Prod.fst, range.contains reached = true := by
    simpa using inside
  rw [SortedMap.seek_eq_find?_of_contains keyInside]
  refine congrArg (Option.map fun key => (key, key)) (congrArg (Option.map Prod.fst) ?_)
  apply congrArg (List.find? · _)
  funext entry
  cases position with
  | none => simp [Direction.Past]
  | some reached =>
      obtain ⟨at', _⟩ := reached
      cases own _ rfl
      simp [Direction.past_self_iff]

theorem ScanSource.key?_of_isPrimaryOrder {source : ScanSource} {store : Store}
    (primaryOrder : source.isPrimaryOrder = true) (primary : Key) (record : Record) :
    source.key? store primary record = some primary := by
  cases source with
  | full => rfl
  | primary range => rfl
  | index name range => contradiction

/-- The index that a source walks exists. -/
def ScanSource.Present (source : ScanSource) (store : Store) : Prop :=
  ∀ name ∈ source.indexName?, store.indexes.contains name = true

/-- A change of one record drops no index. -/
theorem ScanSource.Present.of_differsAt {source : ScanSource} {before after : Store} {key : Key}
    (present : source.Present before) (differs : Store.DiffersAt key before after) :
    source.Present after := by
  intro name walked
  have described := congrArg Option.isSome (differs.described name)
  simp only [Option.isSome_map] at described
  rw [SortedMap.contains, described]
  exact present name walked

namespace Cursor

variable {cursor : Cursor}

/-- The entries that a cursor has not met, in the order in which it would meet
them. -/
def ahead (cursor : Cursor) : List (Key × Key) :=
  (cursor.direction.arrange (cursor.source.entries cursor.transaction.store)).filter fun entry =>
    cursor.direction.Past cursor.position entry

/-- A cursor on its way through a consistent store. -/
structure Sound (cursor : Cursor) : Prop where
  consistent : cursor.transaction.store.Consistent
  present : cursor.source.Present cursor.transaction.store
  inside : ∀ reached ∈ cursor.position, cursor.source.range.contains reached.1 = true
  own : cursor.source.isPrimaryOrder = true → ∀ reached ∈ cursor.position, reached.1 = reached.2
  going : cursor.done = false

/-- The cursor at a further entry. -/
def moved (cursor : Cursor) (entry : Key × Key) : Cursor :=
  { cursor with position := some entry, current := some entry.2 }

theorem mem_ahead_iff {entry : Key × Key} :
    entry ∈ cursor.ahead ↔ entry ∈ cursor.source.entries cursor.transaction.store ∧
      cursor.direction.Past cursor.position entry := by
  simp [ahead]

/-- The entries of a cursor are those along the whole source that are in its
range and past its position. -/
theorem ahead_eq_filter_order (cursor : Cursor) :
    cursor.ahead =
      (cursor.direction.arrange (cursor.source.order cursor.transaction.store)).filter fun entry =>
        cursor.source.range.contains entry.1 && cursor.direction.Past cursor.position entry := by
  rw [ahead, ScanSource.entries, Direction.arrange_filter, List.filter_filter]
  simp only [Bool.and_comm]

/-- The next position is the first entry ahead. -/
theorem nextPosition_eq (sound : cursor.Sound) : cursor.nextPosition = .ok cursor.ahead.head? := by
  rw [ahead_eq_filter_order, List.head?_filter]
  obtain ⟨transaction, source, direction, position, current, done⟩ := cursor
  cases source with
  | full => exact congrArg Except.ok (Store.nextPrimary_eq_find? sound.inside (sound.own rfl))
  | primary range =>
      exact congrArg Except.ok (Store.nextPrimary_eq_find? sound.inside (sound.own rfl))
  | index name range =>
      obtain ⟨index, found⟩ := Option.isSome_iff_exists.mp (sound.present name rfl)
      have tight := (sound.consistent.mirrors found).tight
      simp only [nextPosition, ScanSource.order, found]
      exact congrArg Except.ok (IndexTree.nextEntry_eq_find? tight sound.inside)

theorem advance_of_ahead_nil (sound : cursor.Sound) (ended : cursor.ahead = []) :
    advance cursor = .ok none { cursor with done := true, current := none } := by
  have next := nextPosition_eq sound
  rw [ended] at next
  simp [advance, sound.going, next]

/-- An advance meets the record of the first entry ahead. -/
theorem advance_of_ahead_cons (sound : cursor.Sound) {entry : Key × Key}
    {rest : List (Key × Key)} (going : cursor.ahead = entry :: rest) :
    ∃ record, cursor.transaction.store.get? entry.2 = some record ∧
      advance cursor = .ok (some (entry.2, record)) (cursor.moved entry) := by
  have member : entry ∈ cursor.ahead := going ▸ List.mem_cons_self
  obtain ⟨_, record, stored, _⟩ :=
    (ScanSource.mem_entries_iff sound.consistent).mp (mem_ahead_iff.mp member).1
  have next := nextPosition_eq sound
  rw [going] at next
  refine ⟨record, stored, ?_⟩
  simp [advance, sound.going, next, Transaction.get?, stored, moved]

/-- After an advance the other entries are ahead. -/
theorem ahead_moved {entry : Key × Key} {rest : List (Key × Key)}
    (going : cursor.ahead = entry :: rest) : (cursor.moved entry).ahead = rest :=
  Direction.filter_past_of_cons (Direction.pairwise_arrange (cursor.source.pairwise_entries _))
    going

theorem Sound.moved (sound : cursor.Sound) {entry : Key × Key} (member : entry ∈ cursor.ahead) :
    (cursor.moved entry).Sound where
  consistent := sound.consistent
  present := sound.present
  inside := by
    rintro _ ⟨⟩
    exact ((ScanSource.mem_entries_iff sound.consistent).mp (mem_ahead_iff.mp member).1).1
  own := by
    rintro primaryOrder _ ⟨⟩
    obtain ⟨_, record, _, keyed⟩ :=
      (ScanSource.mem_entries_iff sound.consistent).mp (mem_ahead_iff.mp member).1
    have own : cursor.source.key? cursor.transaction.store entry.2 record = some entry.2 :=
      ScanSource.key?_of_isPrimaryOrder primaryOrder _ _
    exact Option.some.inj (keyed.symm.trans own)
  going := sound.going

/-- A cursor is still on its way after a change of one record. -/
theorem Sound.of_differsAt {transaction : Transaction} {key : Key} (sound : cursor.Sound)
    (differs : Store.DiffersAt key cursor.transaction.store transaction.store)
    (consistent : transaction.store.Consistent) (current : Option Key) :
    Sound { cursor with transaction, current } where
  consistent := consistent
  present := sound.present.of_differsAt differs
  inside := sound.inside
  own := sound.own
  going := sound.going

/-- A change of one record leaves all other entries ahead. -/
theorem ahead_filter_of_differsAt {transaction : Transaction} {key : Key} (current : Option Key)
    (differs : Store.DiffersAt key cursor.transaction.store transaction.store)
    (consistent : cursor.transaction.store.Consistent)
    (afterConsistent : transaction.store.Consistent) :
    (ahead { cursor with transaction, current }).filter (fun entry => entry.2 ≠ key) =
      cursor.ahead.filter fun entry => entry.2 ≠ key := by
  have inner (store : Store) :
      (((cursor.direction.arrange (cursor.source.entries store)).filter fun entry =>
          cursor.direction.Past cursor.position entry).filter fun entry => entry.2 ≠ key) =
        (cursor.direction.arrange ((cursor.source.entries store).filter fun entry =>
          entry.2 ≠ key)).filter fun entry => cursor.direction.Past cursor.position entry := by
    rw [Direction.arrange_filter, List.filter_filter, List.filter_filter]
    exact congrArg (List.filter · _) (funext fun entry => Bool.and_comm _ _)
  have same := differs.entries_filter consistent afterConsistent cursor.source
  exact (inner _).trans ((congrArg _ (congrArg _ same)).trans (inner _).symm)

/-- No record has two entries ahead. -/
theorem Sound.pairwise_primaries (sound : cursor.Sound) :
    cursor.ahead.Pairwise fun first second => first.2 ≠ second.2 :=
  (ScanSource.pairwise_arrange_primaries sound.consistent).filter _

/-! ## Whole walks -/

/-- A walk through a store that does not change meets the records ahead. -/
theorem rest_eq {steps : Nat} (sound : cursor.Sound) (enough : cursor.ahead.length < steps) :
    ∃ ended : Cursor, ended.transaction = cursor.transaction ∧
      rest steps cursor = .ok (cursor.ahead.filterMap cursor.transaction.store.row?) ended := by
  induction steps generalizing cursor with
  | zero => contradiction
  | succ steps inductionHypothesis =>
      cases going : cursor.ahead with
      | nil =>
          refine ⟨{ cursor with done := true, current := none }, rfl, ?_⟩
          simp only [rest, bind, EStateM.bind, advance_of_ahead_nil sound going]
          rfl
      | cons entry later =>
          obtain ⟨record, stored, advanced⟩ := advance_of_ahead_cons sound going
          have left := ahead_moved going
          have fewer : (cursor.moved entry).ahead.length < steps := by
            rw [going, List.length_cons] at enough
            rw [left]
            omega
          have member : entry ∈ cursor.ahead := going ▸ List.mem_cons_self
          obtain ⟨ended, unchanged, walked⟩ := inductionHypothesis (sound.moved member) fewer
          refine ⟨ended, unchanged, ?_⟩
          have row : cursor.transaction.store.row? entry = some (entry.2, record) :=
            Store.row?_eq_some_iff.mpr ⟨rfl, stored⟩
          rw [left] at walked
          rw [List.filterMap_cons_some row]
          simp only [rest, bind, EStateM.bind, advanced, walked]
          rfl

theorem present_of_start {transaction : Transaction} {source : ScanSource}
    {direction : Direction} (started : start transaction source direction = .ok cursor) :
    source.Present transaction.store ∧ cursor = { transaction, source, direction } := by
  cases source with
  | full => exact ⟨nofun, (Except.ok.inj started).symm⟩
  | primary range => exact ⟨nofun, (Except.ok.inj started).symm⟩
  | index name range =>
      unfold start at started
      split at started
      · rename_i name' range' same
        cases same
        split at started
        · rename_i there
          refine ⟨?_, (Except.ok.inj started).symm⟩
          rintro _ ⟨⟩
          exact there
        · contradiction
      · rename_i other
        exact absurd rfl (other name range)

/-- A walk starts with all entries of its source ahead. -/
theorem start_eq {transaction : Transaction} {source : ScanSource} {direction : Direction}
    (present : source.Present transaction.store) :
    start transaction source direction = .ok { transaction, source, direction } := by
  cases source with
  | full => rfl
  | primary range => rfl
  | index name range => simp [start, present name rfl]

theorem sound_start {transaction : Transaction} {source : ScanSource} {direction : Direction}
    (consistent : transaction.store.Consistent) (present : source.Present transaction.store) :
    Sound { transaction, source, direction } where
  consistent := consistent
  present := present
  inside := by simp
  own := by simp
  going := rfl

theorem ahead_start (transaction : Transaction) (source : ScanSource) (direction : Direction) :
    ahead { transaction, source, direction } =
      direction.arrange (source.entries transaction.store) := by
  simp [ahead, Direction.Past]

end Cursor

/-- A scan gives the records of its source and leaves the store as it is. -/
theorem Transaction.scan_eq {transaction : Transaction} {source : ScanSource}
    {direction : Direction} (consistent : transaction.store.Consistent)
    (present : source.Present transaction.store) :
    scan source direction transaction =
      .ok (source.rows transaction.store direction) transaction := by
  have sound : Cursor.Sound { transaction, source, direction } :=
    Cursor.sound_start consistent present
  have few := source.length_entries_le consistent
  have enough : (Cursor.ahead { transaction, source, direction }).length <
      transaction.store.walkSteps := by
    rw [Cursor.ahead_start, Direction.length_arrange, Store.walkSteps]
    omega
  obtain ⟨ended, unchanged, walked⟩ := Cursor.rest_eq sound enough
  rw [Cursor.ahead_start] at walked
  simp only [scan, withCursor, Cursor.start_eq present, walked, unchanged, ScanSource.rows]

end RecordBase
