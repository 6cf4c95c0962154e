import RecordBase.Key.Encoding
import RecordBase.Proofs.Index.History
import RecordBase.Proofs.Index.Successor

/-!
# Successors of any position

A walk may be asked to go on from any position, be it an entry or not, and be it
before the range, in it or beyond it. What it gives is the first entry past the
position that is in the range or in the gap before it. So it gives the first entry
of the range past the position, unless an entry lies in the gap. A map is sought
through in the same way.
-/

namespace RecordBase

/-! ## First candidates -/

section First

variable {α : Type} {order : α → α → Prop} {candidate : α → Prop}

/-- An answer is the candidate that comes before all others, or nothing where there is
no candidate. -/
def IsFirst (order : α → α → Prop) (candidate : α → Prop) : Option α → Prop
  | some item => candidate item ∧ ∀ other, candidate other → other = item ∨ order item other
  | none => ∀ item, ¬ candidate item

theorem isFirst_congr {other : α → Prop} (same : ∀ item, candidate item ↔ other item)
    {answer : Option α} : IsFirst order candidate answer ↔ IsFirst order other answer := by
  rw [funext fun item => propext (same item)]

/-- A search through a list in a strict order gives the first hit. -/
theorem isFirst_find? {items : List α} (sorted : items.Pairwise order)
    (asymmetric : ∀ {first second}, order first second → ¬ order second first)
    (test : α → Bool) :
    IsFirst order (fun item => item ∈ items ∧ test item = true) (items.find? test) := by
  cases found : items.find? test with
  | none =>
      rintro item ⟨member, hit⟩
      exact List.find?_eq_none.mp found item member hit
  | some item =>
      obtain ⟨member, hit, first⟩ := (find?_eq_some_iff_first sorted asymmetric).mp found
      constructor
      · exact ⟨member, hit⟩
      · rintro other ⟨otherMember, otherHit⟩
        exact first other otherMember otherHit

/-- Where others would come before every candidate, the first of them all is the first
candidate just if there are no others. -/
theorem isFirst_iff_of_early {early : α → Prop} {answer : Option α}
    (asymmetric : ∀ {first second}, order first second → ¬ order second first)
    (before : ∀ {first second}, early first → candidate second → order first second)
    (whole : IsFirst order (fun item => candidate item ∨ early item) answer) :
    IsFirst order candidate answer ↔ ∀ item, ¬ early item := by
  constructor
  · intro first item isEarly
    cases answer with
    | none => exact whole item (.inr isEarly)
    | some found =>
        have ahead := before isEarly first.1
        rcases whole.2 item (.inr isEarly) with rfl | behind
        · exact asymmetric ahead ahead
        · exact asymmetric ahead behind
  · intro none'
    exact (isFirst_congr fun item => or_iff_left (none' item)).mp whole

end First

/-! ## Successors -/

namespace SortedMap

variable {β : Type}

/-- Seeking gives the first binding of those in the range past the position and those
in the gap. -/
theorem isFirst_seek (map : SortedMap Key β) (range : KeyRange) (position : Option Key)
    (direction : Direction) :
    IsFirst (fun first second => direction.Before first.1 second.1)
      (fun binding =>
        map.get? binding.1 = some binding.2 ∧ range.contains binding.1 = true ∧
            (∀ reached ∈ position, direction.Before reached binding.1) ∨
          map.get? binding.1 = some binding.2 ∧ range.Gap direction position binding.1)
      (map.seek range position direction) := by
  rw [seek_eq_find?]
  apply (isFirst_congr ?_).mp (isFirst_find? (map.pairwise_arrange_entries direction)
    (fun before after => Direction.before_irrefl _ (before.trans after)) _)
  intro binding
  have bound : map.get? binding.1 = some binding.2 ↔ binding ∈ map.entries := get?_eq_some_iff
  rw [Direction.mem_arrange, bound, ← and_or_left]
  simp

end SortedMap

namespace IndexTree

/-- The next entry is the first of those in the range past the position and those in
the gap. -/
theorem isFirst_nextEntry (history : List Change) (range : KeyRange)
    (position : Option (Key × Key)) (direction : Direction) :
    IsFirst direction.Precedes
      (fun entry =>
        Standing history entry ∧ range.contains entry.1 = true ∧ direction.Past position entry ∨
          Standing history entry ∧ range.Gap direction (position.map Prod.fst) entry.1)
      ((ofHistory history).nextEntry range position direction) := by
  rw [nextEntry_eq_find?_or_gap (tight_ofHistory history)]
  apply (isFirst_congr ?_).mp (isFirst_find?
    (Direction.pairwise_arrange (ofHistory history).pairwise_entries) Direction.Precedes.asymm _)
  intro entry
  rw [Direction.mem_arrange, mem_entries_ofHistory, ← and_or_left]
  simp

/-- The next entry is the first past the position of those in the range and in the gap before it,
hence the first in the range if the gap is empty. -/
theorem next_isFirst_iff_no_gap (history : List Change) (range : KeyRange)
    (direction : Direction) :
    (∀ position : Option (Key × Key),
      let next := (ofHistory history).nextEntry range position direction
      let inRange := fun entry =>
        Standing history entry ∧ range.contains entry.1 = true ∧ direction.Past position entry
      let inGap := fun entry =>
        Standing history entry ∧ range.Gap direction (position.map Prod.fst) entry.1
      IsFirst direction.Precedes (fun entry => inRange entry ∨ inGap entry) next ∧
        (IsFirst direction.Precedes inRange next ↔ ∀ entry, ¬ inGap entry)) ∧
    ∀ {β : Type} (map : SortedMap Key β) (position : Option Key),
      let found := map.seek range position direction
      let order := fun first second : Key × β => direction.Before first.1 second.1
      let inRange := fun binding : Key × β =>
        map.get? binding.1 = some binding.2 ∧ range.contains binding.1 = true ∧
          ∀ reached ∈ position, direction.Before reached binding.1
      let inGap := fun binding : Key × β =>
        map.get? binding.1 = some binding.2 ∧ range.Gap direction position binding.1
      IsFirst order (fun binding => inRange binding ∨ inGap binding) found ∧
        (IsFirst order inRange found ↔ ∀ binding, ¬ inGap binding) := by
  constructor
  · intro position next inRange inGap
    have first := isFirst_nextEntry history range position direction
    refine ⟨first, isFirst_iff_of_early Direction.Precedes.asymm ?_ first⟩
    rintro entry other ⟨_, gap⟩ ⟨_, inside, _⟩
    exact .inl (gap.before inside)
  · intro β map position found order inRange inGap
    have first := map.isFirst_seek range position direction
    refine ⟨first, isFirst_iff_of_early ?_ ?_ first⟩
    · intro binding other before after
      exact Direction.before_irrefl _ (before.trans after)
    · rintro binding other ⟨_, gap⟩ ⟨_, inside, _⟩
      exact gap.before inside

/-- A walk over the entries of one key that is asked to go on from a position below
them gives an entry of another key, which lies in the gap. -/
theorem nextEntry_short_of_range :
    let history : List Change :=
      [.insert (.ofInt 1) (.ofInt 10), .insert (.ofInt 2) (.ofInt 20)]
    let range := KeyRange.only (.ofInt 2)
    let position := some (Key.ofInt 0, Key.ofInt 0)
    let next := (ofHistory history).nextEntry range position .forward
    next = some (.ofInt 1, .ofInt 10) ∧
      ¬ IsFirst Direction.forward.Precedes
        (fun entry => Standing history entry ∧ range.contains entry.1 = true ∧
          Direction.forward.Past position entry) next := by
  intro history range position next
  have given : next = some (.ofInt 1, .ofInt 10) := by decide +kernel
  refine ⟨given, ?_⟩
  rw [given]
  rintro ⟨⟨_, inside, _⟩, _⟩
  revert inside
  decide +kernel

end IndexTree

end RecordBase
