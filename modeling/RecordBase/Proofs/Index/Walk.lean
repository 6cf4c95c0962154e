import RecordBase.Proofs.Index.History
import RecordBase.Proofs.Index.Successor

/-!
# Walks over an index

A walk asks for the next entry from the one that it was given last, until there
is none. It ends, and it meets the entries of its range, each once and in order:
backwards in just the reverse of the order forwards.
-/

namespace RecordBase

namespace IndexTree

variable {tree : IndexTree} {range : KeyRange} {direction : Direction}
  {position : Option (Key × Key)} {listed : List (Key × Key)}

/-- What is listed by asking for the next entry from a position, then from the
entry that it is, and so on until there is none. -/
inductive Lists (tree : IndexTree) (range : KeyRange) (direction : Direction) :
    Option (Key × Key) → List (Key × Key) → Prop
  | ended {position : Option (Key × Key)}
      (last : tree.nextEntry range position direction = none) :
      Lists tree range direction position []
  | met {position : Option (Key × Key)} {entry : Key × Key} {later : List (Key × Key)}
      (next : tree.nextEntry range position direction = some entry)
      (rest : Lists tree range direction (some entry) later) :
      Lists tree range direction position (entry :: later)

/-- The entries in a range, in the order of a walk. -/
def within (tree : IndexTree) (range : KeyRange) (direction : Direction) : List (Key × Key) :=
  direction.arrange (tree.entries.filter fun entry => range.contains entry.1)

theorem mem_within_iff {entry : Key × Key} :
    entry ∈ tree.within range direction ↔
      entry ∈ tree.entries ∧ range.contains entry.1 = true := by
  rw [within, Direction.mem_arrange, List.mem_filter]

theorem pairwise_within (tree : IndexTree) (range : KeyRange) (direction : Direction) :
    (tree.within range direction).Pairwise direction.Precedes :=
  Direction.pairwise_arrange (tree.pairwise_entries.filter _)

/-- The next entry is the first of those in the range that are past the position. -/
theorem nextEntry_eq_head? (tight : tree.Tight)
    (inside : ∀ reached ∈ position, range.contains reached.1 = true) :
    tree.nextEntry range position direction =
      ((tree.within range direction).filter fun entry => direction.Past position entry).head? := by
  rw [nextEntry_eq_find? tight inside, within, List.head?_filter, Direction.arrange_filter,
    List.find?_filter]
  simp

/-- From a position in the range a walk lists the entries of the range that are past
the position, and nothing else. -/
theorem lists_iff (tight : tree.Tight)
    (inside : ∀ reached ∈ position, range.contains reached.1 = true) :
    tree.Lists range direction position listed ↔
      listed = (tree.within range direction).filter fun entry => direction.Past position entry := by
  have next := @nextEntry_eq_head? tree range direction position tight inside
  generalize going : ((tree.within range direction).filter fun entry =>
    direction.Past position entry) = coming at next ⊢
  induction coming generalizing position listed with
  | nil =>
      constructor
      · rintro (_ | ⟨met, _⟩)
        · rfl
        · rw [next] at met
          contradiction
      · rintro rfl
        exact .ended next
  | cons entry rest inductionHypothesis =>
      have member : entry ∈ tree.within range direction :=
        (List.mem_filter.mp (going ▸ List.mem_cons_self)).1
      have entryInside : ∀ reached ∈ some entry, range.contains reached.1 = true := by
        rintro _ ⟨⟩
        exact (mem_within_iff.mp member).2
      have left := Direction.filter_past_of_cons (tree.pairwise_within range direction) going
      have following := @nextEntry_eq_head? tree range direction (some entry) tight entryInside
      rw [left] at following
      have onward {later : List (Key × Key)} :=
        @inductionHypothesis (some entry) later entryInside left following
      constructor
      · rintro (ended | ⟨met, later⟩)
        · rw [next] at ended
          contradiction
        · obtain rfl := Option.some.inj (next.symm.trans met)
          rw [onward.mp later]
      · rintro rfl
        exact .met next (onward.mpr rfl)

/-- A walk that has steps enough gives what it lists. -/
theorem Lists.walkFrom_eq {steps : Nat} (lists : tree.Lists range direction position listed)
    (enough : listed.length ≤ steps) :
    tree.walkFrom range direction steps position = listed := by
  induction lists generalizing steps with
  | ended last =>
      cases steps with
      | zero => rfl
      | succ steps => simp only [walkFrom, last]
  | met next rest inductionHypothesis =>
      cases steps with
      | zero => contradiction
      | succ steps =>
          simp only [walkFrom, next]
          rw [inductionHypothesis (Nat.le_of_succ_le_succ enough)]

theorem lists_none_iff (tight : tree.Tight) :
    tree.Lists range direction none listed ↔ listed = tree.within range direction := by
  have whole : ((tree.within range direction).filter fun entry => direction.Past none entry) =
      tree.within range direction :=
    List.filter_eq_self.mpr fun entry _ => decide_eq_true (Direction.past_none entry)
  rw [lists_iff tight (by simp), whole]

/-- A whole walk meets the entries in its range. -/
theorem walk_eq (tight : tree.Tight) :
    tree.walk range direction = tree.within range direction := by
  apply ((lists_none_iff tight).mpr rfl).walkFrom_eq
  rw [within, Direction.length_arrange]
  exact List.length_filter_le _ _

/-- Whatever was inserted and removed before, a walk over a range lists the entries that stand in
it, in its direction, and ends. -/
theorem walk_lists_standing (history : List Change) (range : KeyRange) :
    let tree := ofHistory history
    (∀ direction listed, tree.Lists range direction none listed ↔
      listed = tree.walk range direction) ∧
    (∀ entry, entry ∈ tree.walk range .forward ↔
      Standing history entry ∧ range.contains entry.1 = true) ∧
    (tree.walk range .forward).Pairwise (fun first second =>
      first.1 < second.1 ∨ first.1 = second.1 ∧ first.2 < second.2) ∧
    tree.walk range .reverse = (tree.walk range .forward).reverse ∧
    ∀ key primary, tree.isTakenByOther key primary = true ↔
      ∃ other, Standing history (key, other) ∧ other ≠ primary := by
  intro tree
  have tight : tree.Tight := tight_ofHistory history
  simp only [walk_eq tight]
  refine ⟨fun direction listed => lists_none_iff tight, ?_,
    tree.pairwise_within range .forward, rfl, ?_⟩
  · intro entry
    rw [mem_within_iff, mem_entries_ofHistory]
  · intro key primary
    rw [isTakenByOther_iff]
    simp only [tree, mem_entries_ofHistory, and_comm]

end IndexTree

end RecordBase
