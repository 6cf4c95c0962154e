import RecordBase.Proofs.Key.Precedence
import RecordBase.SortedMap.Lemmas

/-!
# Seeking in sorted maps

`SortedMap.firstIn?` gives the binding in a range that a walk meets first, and
`SortedMap.seek` the first one past a position. The position has to be in the
range: seeking replaces the bound behind it.
-/

namespace RecordBase

/-! ## Ranges -/

/-- What is above an admitted key is admitted from below. -/
theorem Bound.admitsAbove_of_lt {bound : Bound} {key other : Key}
    (admitted : bound.admitsAbove key = true) (above : key < other) :
    bound.admitsAbove other = true := by
  cases bound with
  | unbounded => rfl
  | included limit =>
      have notBelow : limit ≤ key := by simpa [admitsAbove] using admitted
      have below : limit < other := by
        rcases Key.le_iff_lt_or_eq.mp notBelow with before | same
        · exact Key.lt_trans before above
        · exact same ▸ above
      simpa [admitsAbove] using Key.le_iff_lt_or_eq.mpr (.inl below)
  | excluded limit =>
      have before : limit < key := by simpa [admitsAbove] using admitted
      simpa [admitsAbove] using Key.lt_trans before above

/-- What is below an admitted key is admitted from above. -/
theorem Bound.admitsBelow_of_lt {bound : Bound} {key other : Key}
    (admitted : bound.admitsBelow key = true) (below : other < key) :
    bound.admitsBelow other = true := by
  cases bound with
  | unbounded => rfl
  | included limit =>
      have notAbove : key ≤ limit := by simpa [admitsBelow] using admitted
      have above : other < limit := by
        rcases Key.le_iff_lt_or_eq.mp notAbove with before | same
        · exact Key.lt_trans below before
        · exact same ▸ below
      simpa [admitsBelow] using Key.le_iff_lt_or_eq.mpr (.inl above)
  | excluded limit =>
      have before : key < limit := by simpa [admitsBelow] using admitted
      simpa [admitsBelow] using Key.lt_trans below before

namespace KeyRange

@[simp]
theorem contains_unbounded (key : Key) : unbounded.contains key = true :=
  rfl

@[simp]
theorem contains_only {key other : Key} : (only key).contains other = true ↔ other = key := by
  have bounds : (only key).contains other = true ↔ key ≤ other ∧ other ≤ key := by
    simp [contains, only, Bound.admitsAbove, Bound.admitsBelow]
  rw [bounds, Key.le_iff_lt_or_eq, Key.le_iff_lt_or_eq]
  constructor
  · rintro ⟨above | same, below | equal⟩
    · exact absurd below (Key.lt_asymm above)
    · exact equal
    · exact same.symm
    · exact equal
  · rintro rfl
    exact ⟨.inr rfl, .inr rfl⟩

/-- Whether a key is not short of the end of a range that a walk meets first. -/
def admitsNear (range : KeyRange) : Direction → Key → Bool
  | .forward => range.lower.admitsAbove
  | .reverse => range.upper.admitsBelow

/-- Whether a key is not beyond the end of a range that a walk meets last. -/
def admitsFar (range : KeyRange) : Direction → Key → Bool
  | .forward => range.upper.admitsBelow
  | .reverse => range.lower.admitsAbove

/-- The keys of a range are those that neither of its ends shuts out. -/
theorem contains_iff {range : KeyRange} {key : Key} (direction : Direction) :
    range.contains key = true ↔
      range.admitsNear direction key = true ∧ range.admitsFar direction key = true := by
  rw [contains, Bool.and_eq_true]
  cases direction with
  | forward => exact Iff.rfl
  | reverse => exact and_comm

/-- A walk that has come to a range stays past its near end. -/
theorem admitsNear_of_before {range : KeyRange} {direction : Direction} {position key : Key}
    (admitted : range.admitsNear direction position = true)
    (past : direction.Before position key) : range.admitsNear direction key = true := by
  cases direction with
  | forward => exact Bound.admitsAbove_of_lt admitted past
  | reverse => exact Bound.admitsBelow_of_lt admitted past

/-- Past a position only the far end of a range shuts keys out. -/
theorem contains_after_iff {range : KeyRange} {position key : Key} {direction : Direction} :
    (range.after position direction).contains key = true ↔
      direction.Before position key ∧ range.admitsFar direction key = true := by
  rw [contains_iff direction]
  cases direction with
  | forward => exact and_congr_left fun _ => decide_eq_true_iff
  | reverse => exact and_congr_left fun _ => decide_eq_true_iff

/-- What is left of a range past one of its keys. -/
theorem contains_after {range : KeyRange} {key other : Key} {direction : Direction}
    (inside : range.contains key = true) :
    (range.after key direction).contains other = true ↔
      range.contains other = true ∧ direction.Before key other := by
  have near := ((contains_iff direction).mp inside).1
  rw [contains_after_iff, contains_iff direction]
  constructor
  · rintro ⟨past, far⟩
    exact ⟨⟨admitsNear_of_before near past, far⟩, past⟩
  · rintro ⟨⟨_, far⟩, past⟩
    exact ⟨past, far⟩

/-! ### Gaps -/

/-- A key in the gap between a position and a range: past the position and short of
the range, without being beyond it. -/
def Gap (range : KeyRange) (direction : Direction) (position : Option Key) (key : Key) : Prop :=
  (∃ reached ∈ position, direction.Before reached key) ∧
    range.admitsNear direction key = false ∧ range.admitsFar direction key = true

instance (range : KeyRange) (direction : Direction) (position : Option Key) (key : Key) :
    Decidable (range.Gap direction position key) :=
  inferInstanceAs (Decidable (_ ∧ _))

/-- There is no gap behind a position in the range. -/
theorem not_gap_of_contains {range : KeyRange} {direction : Direction} {position : Option Key}
    (inside : ∀ reached ∈ position, range.contains reached = true) (key : Key) :
    ¬ range.Gap direction position key := by
  rintro ⟨⟨reached, atReached, past⟩, short, _⟩
  have admitted := ((contains_iff direction).mp (inside reached atReached)).1
  rw [admitsNear_of_before admitted past] at short
  contradiction

/-- Keys in the gap are met before the keys of the range. -/
theorem Gap.before {range : KeyRange} {direction : Direction} {position : Option Key}
    {key other : Key} (gap : range.Gap direction position key)
    (inside : range.contains other = true) : direction.Before key other := by
  obtain ⟨_, short, _⟩ := gap
  have near := ((contains_iff direction).mp inside).1
  rcases direction.before_trichotomy key other with before | rfl | after
  · exact before
  · rw [near] at short
    contradiction
  · rw [admitsNear_of_before near after] at short
    contradiction

/-- Past a position go the keys of the range and those of the gap before it. -/
theorem contains_after_iff_or_gap {range : KeyRange} {position key : Key} {direction : Direction} :
    (range.after position direction).contains key = true ↔
      range.contains key = true ∧ direction.Before position key ∨
        range.Gap direction (some position) key := by
  rw [contains_after_iff, contains_iff direction]
  simp only [Gap, Option.mem_def, Option.some.injEq, exists_eq_left']
  cases range.admitsNear direction key <;> simp [and_comm]

end KeyRange

/-! ## Maps -/

namespace SortedMap

variable {β : Type} {map : SortedMap Key β} {range : KeyRange} {direction : Direction}

/-- The bindings of a map are met in the order of their keys. -/
theorem pairwise_arrange_entries (map : SortedMap Key β) (direction : Direction) :
    (direction.arrange map.entries).Pairwise fun first second =>
      direction.Before first.1 second.1 := by
  cases direction with
  | forward => exact map.ascending
  | reverse => exact List.pairwise_reverse.mpr map.ascending

theorem firstIn?_eq_find? (map : SortedMap Key β) (range : KeyRange) (direction : Direction) :
    map.firstIn? range direction =
      (direction.arrange map.entries).find? fun entry => range.contains entry.1 := by
  cases direction <;> rfl

/-- The first binding in a range is met before all others in it. -/
theorem firstIn?_eq_some_iff {key : Key} {value : β} :
    map.firstIn? range direction = some (key, value) ↔
      map.get? key = some value ∧ range.contains key = true ∧
        ∀ other ∈ map.keys, range.contains other = true →
          other = key ∨ direction.Before key other := by
  rw [firstIn?_eq_find?, find?_eq_some_iff_first (map.pairwise_arrange_entries direction)
    fun before after => Direction.before_irrefl _ (before.trans after)]
  simp only [Direction.mem_arrange]
  rw [get?_eq_some_iff]
  refine and_congr_right fun member => and_congr_right fun _ => ?_
  constructor
  · intro first other otherMember inside
    obtain ⟨entry, entryMember, rfl⟩ := List.mem_map.mp otherMember
    rcases first entry entryMember inside with same | before
    · exact .inl (congrArg Prod.fst same)
    · exact .inr before
  · intro first entry entryMember inside
    rcases first entry.1 (List.mem_map_of_mem entryMember) inside with same | before
    · have found : map.get? key = some entry.2 := get?_eq_some_iff.mpr (same ▸ entryMember)
      rw [get?_eq_some_iff.mpr member] at found
      exact .inl (Prod.ext same (Option.some.inj found).symm)
    · exact .inr before

theorem firstIn?_eq_none_iff :
    map.firstIn? range direction = none ↔ ∀ key ∈ map.keys, range.contains key = false := by
  rw [firstIn?_eq_find?, List.find?_eq_none]
  simp only [Direction.mem_arrange, keys, List.mem_map, Bool.not_eq_true, forall_exists_index,
    and_imp, forall_apply_eq_imp_iff₂]

/-- Seeking gives the first of the bindings whose keys are in the range and past the
position or in the gap between the two. -/
theorem seek_eq_find? (map : SortedMap Key β) (range : KeyRange) (position : Option Key)
    (direction : Direction) :
    map.seek range position direction =
      (direction.arrange map.entries).find? fun entry =>
        (range.contains entry.1 && decide (∀ reached ∈ position, direction.Before reached entry.1))
          || range.Gap direction position entry.1 := by
  cases position with
  | none => simp [seek, firstIn?_eq_find?, KeyRange.Gap]
  | some reached =>
      rw [seek, firstIn?_eq_find?]
      apply congrArg (List.find? · _)
      funext entry
      rw [Bool.eq_iff_iff, KeyRange.contains_after_iff_or_gap]
      simp

/-- From a position in the range seeking gives the first of the bindings whose keys are
in the range and past the position. -/
theorem seek_eq_find?_of_contains {position : Option Key}
    (inside : ∀ reached ∈ position, range.contains reached = true) :
    map.seek range position direction =
      (direction.arrange map.entries).find? fun entry =>
        range.contains entry.1 &&
          decide (∀ reached ∈ position, direction.Before reached entry.1) := by
  simp [seek_eq_find?, KeyRange.not_gap_of_contains inside]

end SortedMap

end RecordBase
