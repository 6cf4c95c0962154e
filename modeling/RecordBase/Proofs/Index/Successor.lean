import RecordBase.Proofs.Index.Entries

/-!
# The step of a walk over an index

`IndexTree.nextEntry` first looks for a further primary key under the index key
of the position and then for the next index key. Both searches together find
the first entry, in the order of the walk, that is in the range and past the
position, or in the gap between the two. From a position in the range there is
no gap.
-/

namespace RecordBase

/-- Two searches one after the other come to one search for the hits of both, where
no hit of the second stands in front of a hit of the first. -/
theorem find?_or_find? {α : Type} {items : List α} {early late : α → Bool}
    (sorted : items.Pairwise fun first second => late first = true → early second = false) :
    (items.find? early).or (items.find? late) =
      items.find? fun item => early item || late item := by
  induction items with
  | nil => rfl
  | cons item rest inductionHypothesis =>
      obtain ⟨after, restSorted⟩ := List.pairwise_cons.mp sorted
      cases hit : early item with
      | true => simp [hit]
      | false =>
          cases lateHit : late item with
          | false => simpa [hit, lateHit] using inductionHypothesis restSorted
          | true =>
              have missed : rest.find? early = none :=
                List.find?_eq_none.mpr fun other member => by simp [after other member lateHit]
              simp [hit, lateHit, missed]

namespace IndexTree

variable {tree : IndexTree} {range : KeyRange} {direction : Direction}

/-- A search through the entries stops at the first hit in the order of the walk. -/
theorem find?_entries_eq_some_iff {test : Key × Key → Bool} {entry : Key × Key} :
    (direction.arrange tree.entries).find? test = some entry ↔
      entry ∈ tree.entries ∧ test entry = true ∧
        ∀ other ∈ tree.entries, test other = true →
          other = entry ∨ direction.Precedes entry other := by
  rw [find?_eq_some_iff_first (Direction.pairwise_arrange tree.pairwise_entries)
    Direction.Precedes.asymm]
  simp only [Direction.mem_arrange]

/-- The next primary key under an index key is the first one past the
position. -/
theorem nextPrimary?_eq_some_iff {position : Key × Key} {primary : Key}
    (inside : range.contains position.1 = true) :
    tree.nextPrimary? range position direction = some primary ↔
      (position.1, primary) ∈ tree.entries ∧ direction.Before position.2 primary ∧
        ∀ other, (position.1, other) ∈ tree.entries → direction.Before position.2 other →
          other = primary ∨ direction.Before primary other := by
  have past {other : Key} :
      (KeyRange.unbounded.after position.2 direction).contains other = true ↔
        direction.Before position.2 other := by
    rw [KeyRange.contains_after (KeyRange.contains_unbounded _)]
    simp
  simp only [nextPrimary?, inside, ↓reduceIte, mem_entries_iff]
  cases found : tree.primaries.get? position.1 with
  | none => simp
  | some held =>
      simp only [Option.bind_some, Option.map_eq_some_iff, Prod.exists, exists_and_right,
        exists_eq_right, SortedMap.seek, SortedMap.firstIn?_eq_some_iff, past,
        Option.some.injEq, exists_eq_left']
      rw [SortedMap.mem_keys_iff]

/-- The next entry under the index key of a position is the first one past the
position, where the range has that index key. -/
theorem nextPrimary?_eq_find? (position : Key × Key) :
    (tree.nextPrimary? range position direction).map (position.1, ·) =
      (direction.arrange tree.entries).find? fun entry =>
        range.contains position.1 && (position.1 == entry.1) &&
          direction.Before position.2 entry.2 := by
  cases inside : range.contains position.1 with
  | false =>
      have missed : (direction.arrange tree.entries).find? (fun _ => false) = none :=
        List.find?_eq_none.mpr fun _ _ => Bool.false_ne_true
      simp [nextPrimary?, inside, missed]
  | true =>
      apply Option.ext
      rintro ⟨key, primary⟩
      rw [find?_entries_eq_some_iff, Option.map_eq_some_iff]
      simp only [nextPrimary?_eq_some_iff inside, Bool.true_and, Bool.and_eq_true, beq_iff_eq,
        decide_eq_true_eq, Prod.mk.injEq]
      constructor
      · rintro ⟨next, ⟨member, past, first⟩, rfl, rfl⟩
        refine ⟨member, ⟨rfl, past⟩, ?_⟩
        rintro ⟨otherKey, other⟩ otherMember ⟨same, otherPast⟩
        dsimp only at same otherPast
        subst same
        rcases first other otherMember otherPast with same | before
        · exact .inl (by rw [same])
        · exact .inr (.inr ⟨rfl, before⟩)
      · rintro ⟨member, ⟨rfl, past⟩, first⟩
        refine ⟨primary, ⟨member, past, ?_⟩, rfl, rfl⟩
        intro other otherMember otherPast
        rcases first (position.1, other) otherMember ⟨rfl, otherPast⟩ with
          same | before | ⟨_, before⟩
        · exact .inl (congrArg Prod.snd same)
        · exact absurd before (Direction.before_irrefl _)
        · exact .inr before

/-- A walk begins at the first entry in the range. -/
theorem nextEntry_none_eq_find? (tight : tree.Tight) :
    tree.nextEntry range none direction =
      (direction.arrange tree.entries).find? fun entry => range.contains entry.1 := by
  simp only [nextEntry, Option.bind_none, Option.map_none, SortedMap.seek]
  cases found : tree.primaries.firstIn? range direction with
  | none =>
      symm
      apply List.find?_eq_none.mpr
      intro entry member
      obtain ⟨held, present, _⟩ := mem_entries_iff.mp (Direction.mem_arrange.mp member)
      have missed := SortedMap.firstIn?_eq_none_iff.mp found entry.1
        (SortedMap.mem_keys_iff.mpr ⟨held, present⟩)
      simp [missed]
  | some binding =>
      obtain ⟨key, held⟩ := binding
      obtain ⟨present, admitted, firstKey⟩ := SortedMap.firstIn?_eq_some_iff.mp found
      obtain ⟨some', someMember⟩ := SortedMap.isEmpty_eq_false_iff.mp (tight key held present)
      cases least : held.firstIn? .unbounded direction with
      | none =>
          have missed := SortedMap.firstIn?_eq_none_iff.mp least some' someMember
          contradiction
      | some binding =>
          obtain ⟨primary, ⟨⟩⟩ := binding
          obtain ⟨member, _, firstPrimary⟩ := SortedMap.firstIn?_eq_some_iff.mp least
          simp only [least, Option.map_some]
          symm
          apply find?_entries_eq_some_iff.mpr
          refine ⟨mem_entries_iff.mpr ⟨held, present, SortedMap.mem_keys_iff.mpr ⟨(), member⟩⟩,
            admitted, ?_⟩
          rintro ⟨otherKey, other⟩ otherMember otherAdmitted
          obtain ⟨otherHeld, otherPresent, otherPrimary⟩ := mem_entries_iff.mp otherMember
          have otherKeyMember : otherKey ∈ tree.primaries.keys :=
            SortedMap.mem_keys_iff.mpr ⟨otherHeld, otherPresent⟩
          rcases firstKey otherKey otherKeyMember otherAdmitted with same | before
          · subst same
            change tree.primaries.get? otherKey = some otherHeld at otherPresent
            rw [present] at otherPresent
            cases otherPresent
            rcases firstPrimary other otherPrimary rfl with same | before
            · exact .inl (by rw [same])
            · exact .inr (.inr ⟨rfl, before⟩)
          · exact .inr (.inl before)

/-- From a position a walk goes on under its index key, and then begins anew in what
is left of the range. -/
theorem nextEntry_some (tree : IndexTree) (range : KeyRange) (position : Key × Key)
    (direction : Direction) :
    tree.nextEntry range (some position) direction =
      ((tree.nextPrimary? range position direction).map (position.1, ·)).or
        (tree.nextEntry (range.after position.1 direction) none direction) := by
  simp only [nextEntry, Option.bind_some, Option.bind_none, Option.map_some, Option.map_none,
    SortedMap.seek]
  cases (tree.nextPrimary? range position direction).map (position.1, ·) <;> rfl

/-- The next entry is the first of those that are in the range and past the position
or in the gap between the two. -/
theorem nextEntry_eq_find?_or_gap (tight : tree.Tight) (position : Option (Key × Key)) :
    tree.nextEntry range position direction =
      (direction.arrange tree.entries).find? fun entry =>
        (range.contains entry.1 && direction.Past position entry)
          || range.Gap direction (position.map Prod.fst) entry.1 := by
  cases position with
  | none => simp [nextEntry_none_eq_find? tight, Direction.Past, KeyRange.Gap]
  | some reached =>
      rw [nextEntry_some, nextPrimary?_eq_find?, nextEntry_none_eq_find? tight, find?_or_find?]
      · apply congrArg (List.find? · _)
        funext entry
        rw [Bool.eq_iff_iff]
        simp only [Bool.or_eq_true, Bool.and_eq_true, beq_iff_eq, decide_eq_true_eq,
          KeyRange.contains_after_iff_or_gap, Direction.past_some_iff, Option.map_some, ← or_assoc]
        apply or_congr_left
        constructor
        · rintro (⟨⟨inside, same⟩, past⟩ | ⟨inside, past⟩)
          · exact ⟨same ▸ inside, .inr ⟨same, past⟩⟩
          · exact ⟨inside, .inl past⟩
        · rintro ⟨inside, past | ⟨same, past⟩⟩
          · exact .inr ⟨inside, past⟩
          · exact .inl ⟨⟨same ▸ inside, same⟩, past⟩
      · apply (Direction.pairwise_arrange tree.pairwise_entries).imp
        intro first second before ahead
        have past := (KeyRange.contains_after_iff.mp ahead).1
        rw [Bool.eq_false_iff]
        intro hit
        simp only [Bool.and_eq_true, beq_iff_eq] at hit
        obtain ⟨⟨_, same⟩, _⟩ := hit
        rw [same] at past
        rcases before with before | ⟨equal, _⟩
        · exact Direction.before_irrefl _ (past.trans before)
        · exact Direction.before_irrefl _ (equal ▸ past)

/-- From a position in the range the next entry is the first one that is in the
range and past the position. -/
theorem nextEntry_eq_find? (tight : tree.Tight) {position : Option (Key × Key)}
    (inside : ∀ reached ∈ position, range.contains reached.1 = true) :
    tree.nextEntry range position direction =
      (direction.arrange tree.entries).find? fun entry =>
        range.contains entry.1 && direction.Past position entry := by
  have keyInside : ∀ reached ∈ position.map Prod.fst, range.contains reached = true := by
    simpa using inside
  simp [nextEntry_eq_find?_or_gap tight, KeyRange.not_gap_of_contains keyInside]

end IndexTree

end RecordBase
