import RecordBase.SortedMap.Basic

/-!
# Lookup in sorted maps

A sorted map is known by its lookups: each operation is described by what
`get?` gives after it, and two maps with the same lookups are equal.
-/

namespace RecordBase

universe u v w

namespace SortedMap

variable {α : Type u} {β : Type v} {γ : Type w} [Ord α]

@[simp]
theorem get?_empty (key : α) : (empty : SortedMap α β).get? key = none :=
  rfl

@[simp]
theorem lookupEntry_nil (key : α) : lookupEntry key ([] : List (α × β)) = none :=
  rfl

theorem lookupEntry_cons (key : α) (entry : α × β) (rest : List (α × β)) :
    lookupEntry key (entry :: rest) =
      if compare entry.1 key = .eq then some entry.2 else lookupEntry key rest := by
  by_cases same : compare entry.1 key = .eq
  · simp [lookupEntry, same]
  · simp [lookupEntry, same]

variable [Std.LawfulEqOrd α]

/-- No key is bound twice. -/
theorem nodup_keys (map : SortedMap α β) : map.keys.Nodup := by
  apply List.pairwise_map.mpr
  apply map.ascending.imp
  intro first second before same
  rw [same, Std.ReflOrd.compare_self] at before
  contradiction

/-- A key in front of all bindings is not bound. -/
theorem lookupEntry_of_front {entries : List (α × β)} {key : α}
    (front : ∀ entry ∈ entries, compare key entry.1 = .lt) : lookupEntry key entries = none := by
  induction entries with
  | nil => rfl
  | cons head rest inductionHypothesis =>
      have different : ¬ compare head.1 key = .eq := by
        intro same
        have before := front head List.mem_cons_self
        rw [Std.LawfulEqOrd.eq_of_compare same, Std.ReflOrd.compare_self] at before
        contradiction
      rw [lookupEntry_cons, if_neg different]
      exact inductionHypothesis fun entry member => front entry (List.mem_cons_of_mem _ member)

/-- A binding is in an ascending list exactly if the lookup finds it. -/
theorem lookupEntry_eq_some_iff {entries : List (α × β)} (ascending : Ascending entries)
    {key : α} {value : β} :
    lookupEntry key entries = some value ↔ (key, value) ∈ entries := by
  induction entries with
  | nil => simp
  | cons head rest inductionHypothesis =>
      have later : ∀ entry ∈ rest, compare head.1 entry.1 = .lt :=
        (List.pairwise_cons.mp ascending).1
      rw [lookupEntry_cons]
      by_cases same : compare head.1 key = .eq
      · have headKey : head.1 = key := Std.LawfulEqOrd.eq_of_compare same
        subst headKey
        rw [if_pos same]
        constructor
        · intro found
          cases found
          exact List.mem_cons_self
        · intro member
          rcases List.mem_cons.mp member with first | member
          · rw [← first]
          · have before := later _ member
            simp [Std.ReflOrd.compare_self] at before
      · rw [if_neg same, inductionHypothesis ascending.of_cons, List.mem_cons]
        constructor
        · exact .inr
        · rintro (first | member)
          · exact absurd (first ▸ Std.ReflOrd.compare_self) same
          · exact member

theorem get?_eq_some_iff {map : SortedMap α β} {key : α} {value : β} :
    map.get? key = some value ↔ (key, value) ∈ map.toList :=
  lookupEntry_eq_some_iff map.ascending

theorem mem_values_iff {map : SortedMap α β} {value : β} :
    value ∈ map.values ↔ ∃ key, map.get? key = some value := by
  simp only [values, List.mem_map, Prod.exists, exists_eq_right, get?_eq_some_iff, toList]

theorem get?_eq_none_iff {map : SortedMap α β} {key : α} :
    map.get? key = none ↔ key ∉ map.keys := by
  rw [Option.eq_none_iff_forall_ne_some]
  simp only [ne_eq, get?_eq_some_iff, keys, toList, List.mem_map, Prod.exists, exists_and_right,
    exists_eq_right, not_exists]

theorem contains_iff_mem_keys {map : SortedMap α β} {key : α} :
    map.contains key = true ↔ key ∈ map.keys := by
  rw [contains, Option.isSome_iff_ne_none, ne_eq, get?_eq_none_iff, Classical.not_not]

theorem mem_keys_iff {map : SortedMap α β} {key : α} :
    key ∈ map.keys ↔ ∃ value, map.get? key = some value := by
  rw [← contains_iff_mem_keys, contains, Option.isSome_iff_exists]

/-! ## Removal -/

theorem lookupEntry_eraseEntry (key : α) (entries : List (α × β)) (other : α) :
    lookupEntry other (eraseEntry key entries) =
      if compare key other = .eq then none else lookupEntry other entries := by
  induction entries with
  | nil => simp [eraseEntry]
  | cons head rest inductionHypothesis =>
      rw [eraseEntry] at inductionHypothesis ⊢
      rw [List.filter_cons]
      split
      · rename_i kept
        rw [lookupEntry_cons, inductionHypothesis, lookupEntry_cons]
        by_cases found : compare key other = .eq
        · have otherKey : key = other := Std.LawfulEqOrd.eq_of_compare found
          subst otherKey
          simp [bne_iff_ne.mp kept]
        · simp [found]
      · rename_i dropped
        have headKey : compare head.1 key = .eq := by simpa using dropped
        rw [inductionHypothesis, lookupEntry_cons, Std.LawfulEqOrd.eq_of_compare headKey]
        by_cases found : compare key other = .eq
        · simp [found]
        · simp [found]

theorem get?_erase (map : SortedMap α β) (key other : α) :
    (map.erase key).get? other = if compare key other = .eq then none else map.get? other :=
  lookupEntry_eraseEntry key map.entries other

@[simp]
theorem get?_erase_self (map : SortedMap α β) (key : α) : (map.erase key).get? key = none := by
  rw [get?_erase, if_pos Std.ReflOrd.compare_self]

theorem get?_erase_of_ne (map : SortedMap α β) {key other : α} (different : key ≠ other) :
    (map.erase key).get? other = map.get? other := by
  rw [get?_erase, if_neg fun same => different (Std.LawfulEqOrd.eq_of_compare same)]

/-! ## Transformed values -/

theorem lookupEntry_map (transform : α → β → γ) (entries : List (α × β)) (key : α) :
    lookupEntry key (entries.map fun entry => (entry.1, transform entry.1 entry.2)) =
      (lookupEntry key entries).map (transform key) := by
  induction entries with
  | nil => rfl
  | cons head rest inductionHypothesis =>
      rw [List.map_cons, lookupEntry_cons, lookupEntry_cons, inductionHypothesis]
      by_cases same : compare head.1 key = .eq
      · have headKey : head.1 = key := Std.LawfulEqOrd.eq_of_compare same
        subst headKey
        simp
      · simp [same]

theorem get?_mapValues (transform : α → β → γ) (map : SortedMap α β) (key : α) :
    (map.mapValues transform).get? key = (map.get? key).map (transform key) :=
  lookupEntry_map transform map.entries key

variable [Std.TransOrd α]

/-! ## Insertion -/

theorem lookupEntry_insertEntry (key : α) (value : β) (entries : List (α × β)) (other : α) :
    lookupEntry other (insertEntry key value entries) =
      if compare key other = .eq then some value else lookupEntry other entries := by
  induction entries with
  | nil => simp [lookupEntry_cons]
  | cons head rest inductionHypothesis =>
      rw [insertEntry]
      split
      · rw [lookupEntry_cons]
      · rename_i same
        have headKey : key = head.1 := Std.LawfulEqOrd.eq_of_compare same
        rw [lookupEntry_cons, lookupEntry_cons]
        by_cases found : compare key other = .eq
        · simp [found]
        · simp [found, ← headKey]
      · rename_i after
        rw [lookupEntry_cons, inductionHypothesis, lookupEntry_cons]
        by_cases found : compare key other = .eq
        · have otherKey : key = other := Std.LawfulEqOrd.eq_of_compare found
          subst otherKey
          have different : compare head.1 key ≠ .eq := by
            intro same
            rw [Std.OrientedCmp.eq_comm.mp same] at after
            contradiction
          simp [different]
        · simp [found]

theorem get?_insert (map : SortedMap α β) (key : α) (value : β) (other : α) :
    (map.insert key value).get? other =
      if compare key other = .eq then some value else map.get? other :=
  lookupEntry_insertEntry key value map.entries other

@[simp]
theorem get?_insert_self (map : SortedMap α β) (key : α) (value : β) :
    (map.insert key value).get? key = some value := by
  rw [get?_insert, if_pos Std.ReflOrd.compare_self]

theorem get?_insert_of_ne (map : SortedMap α β) {key other : α} (value : β)
    (different : key ≠ other) : (map.insert key value).get? other = map.get? other := by
  rw [get?_insert, if_neg fun same => different (Std.LawfulEqOrd.eq_of_compare same)]

/-! ## Extensionality -/

/-- Two ascending lists with the same bindings are equal. -/
theorem entries_eq_of_mem_iff {left right : List (α × β)} (leftAscending : Ascending left)
    (rightAscending : Ascending right)
    (same : ∀ entry : α × β, entry ∈ left ↔ entry ∈ right) : left = right := by
  induction left generalizing right with
  | nil =>
      cases right with
      | nil => rfl
      | cons head _ => exact absurd ((same head).mpr List.mem_cons_self) List.not_mem_nil
  | cons first firsts inductionHypothesis =>
      cases right with
      | nil => exact absurd ((same first).mp List.mem_cons_self) List.not_mem_nil
      | cons second seconds =>
          have afterFirst : ∀ entry ∈ firsts, compare first.1 entry.1 = .lt :=
            (List.pairwise_cons.mp leftAscending).1
          have afterSecond : ∀ entry ∈ seconds, compare second.1 entry.1 = .lt :=
            (List.pairwise_cons.mp rightAscending).1
          have heads : first = second := by
            rcases List.mem_cons.mp ((same first).mp List.mem_cons_self) with equal | later
            · exact equal
            · rcases List.mem_cons.mp ((same second).mpr List.mem_cons_self) with equal | earlier
              · exact equal.symm
              · have contradictory :=
                  Std.TransCmp.lt_trans (afterSecond _ later) (afterFirst _ earlier)
                simp [Std.ReflOrd.compare_self] at contradictory
          subst heads
          refine congrArg (first :: ·) ?_
          apply inductionHypothesis leftAscending.of_cons rightAscending.of_cons
          intro entry
          constructor
          · intro member
            rcases List.mem_cons.mp ((same entry).mp (List.mem_cons_of_mem _ member)) with
              equal | later
            · have before := afterFirst _ member
              simp [equal, Std.ReflOrd.compare_self] at before
            · exact later
          · intro member
            rcases List.mem_cons.mp ((same entry).mpr (List.mem_cons_of_mem _ member)) with
              equal | later
            · have before := afterSecond _ member
              simp [equal, Std.ReflOrd.compare_self] at before
            · exact later

/-- Maps with the same lookups are equal. -/
theorem ext_get? {left right : SortedMap α β}
    (same : ∀ key, left.get? key = right.get? key) : left = right := by
  apply ext
  apply entries_eq_of_mem_iff left.ascending right.ascending
  rintro ⟨key, value⟩
  have leftMember : left.get? key = some value ↔ (key, value) ∈ left.entries := get?_eq_some_iff
  have rightMember : right.get? key = some value ↔ (key, value) ∈ right.entries :=
    get?_eq_some_iff
  rw [← leftMember, ← rightMember, same key]

/-- Binding a key to the value that it has changes nothing. -/
theorem insert_of_get? {map : SortedMap α β} {key : α} {value : β}
    (bound : map.get? key = some value) : map.insert key value = map := by
  apply ext_get?
  intro other
  rw [get?_insert]
  split
  · rename_i same
    rw [← Std.LawfulEqOrd.eq_of_compare same, bound]
  · rfl

/-- Of two values bound to a key one after the other the second stays. -/
theorem insert_insert (map : SortedMap α β) (key : α) (first second : β) :
    (map.insert key first).insert key second = map.insert key second := by
  apply ext_get?
  intro other
  rw [get?_insert, get?_insert, get?_insert]
  split <;> rfl

/-- Unbinding a key that is not bound changes nothing. -/
theorem erase_of_get? {map : SortedMap α β} {key : α} (unbound : map.get? key = none) :
    map.erase key = map := by
  apply ext_get?
  intro other
  rw [get?_erase]
  split
  · rename_i same
    rw [← Std.LawfulEqOrd.eq_of_compare same, unbound]
  · rfl

/-! ## Lists of bindings -/

section Bindings

omit [Std.LawfulEqOrd α]

/-- A binding of the greatest key goes to the end. -/
theorem insertEntry_of_last {key : α} {value : β} {entries : List (α × β)}
    (last : ∀ entry ∈ entries, compare entry.1 key = .lt) :
    insertEntry key value entries = entries ++ [(key, value)] := by
  induction entries with
  | nil => rfl
  | cons head rest inductionHypothesis =>
      have after : compare key head.1 = .gt :=
        Std.OrientedCmp.gt_iff_lt.mpr (last head List.mem_cons_self)
      rw [insertEntry, after]
      exact congrArg (head :: ·)
        (inductionHypothesis fun entry member => last entry (List.mem_cons_of_mem _ member))

/-- Bindings that ascend behind those of a map come to stand behind them. -/
theorem entries_foldl_insert {map : SortedMap α β} {bindings : List (α × β)}
    (ascending : Ascending (map.entries ++ bindings)) :
    (bindings.foldl (fun map binding => map.insert binding.1 binding.2) map).entries =
      map.entries ++ bindings := by
  induction bindings generalizing map with
  | nil => exact (List.append_nil _).symm
  | cons first rest inductionHypothesis =>
      have last : (map.insert first.1 first.2).entries = map.entries ++ [first] :=
        insertEntry_of_last fun entry member =>
          (List.pairwise_append.mp ascending).2.2 entry member first List.mem_cons_self
      rw [List.append_cons, ← last] at ascending
      rw [List.foldl_cons, inductionHypothesis ascending, last, ← List.append_cons]

/-- Ascending bindings make the map that has them. -/
theorem toList_ofList {bindings : List (α × β)} (ascending : Ascending bindings) :
    (ofList bindings).toList = bindings :=
  @entries_foldl_insert α β _ _ empty bindings ascending

theorem ofList_toList (map : SortedMap α β) : ofList map.toList = map :=
  ext (toList_ofList map.ascending)

/-- Binding keys adds no other bindings to a map. -/
theorem mem_of_mem_foldl_insert {map : SortedMap α β} {bindings : List (α × β)} {entry : α × β}
    (member : entry ∈
      (bindings.foldl (fun map binding => map.insert binding.1 binding.2) map).toList) :
    entry ∈ map.toList ∨ entry ∈ bindings := by
  induction bindings generalizing map with
  | nil => exact .inl member
  | cons first rest inductionHypothesis =>
      rcases inductionHypothesis member with early | late
      · rcases mem_of_mem_insertEntry early with new | old
        · exact .inr (new ▸ List.mem_cons_self)
        · exact .inl old
      · exact .inr (List.mem_cons_of_mem _ late)

theorem mem_of_mem_ofList {bindings : List (α × β)} {entry : α × β}
    (member : entry ∈ (ofList bindings).toList) : entry ∈ bindings :=
  (mem_of_mem_foldl_insert member).resolve_left List.not_mem_nil

end Bindings

/-- Of the bindings of a map one at most has a given key. -/
theorem filter_toList_eq [BEq α] [LawfulBEq α] (map : SortedMap α β) (key : α) :
    (map.toList.filter fun entry => entry.1 == key) =
      (map.get? key).toList.map fun value => (key, value) := by
  apply entries_eq_of_mem_iff (map.ascending.filter _)
  · cases map.get? key with
    | none => exact List.Pairwise.nil
    | some value => exact List.pairwise_singleton _ _
  · rintro ⟨other, value⟩
    have bound : map.get? other = some value ↔ (other, value) ∈ map.entries := get?_eq_some_iff
    rw [List.mem_filter, ← bound, List.mem_map]
    simp only [beq_iff_eq, Option.mem_toList, Prod.mk.injEq]
    constructor
    · rintro ⟨held, rfl⟩
      exact ⟨value, held, rfl, rfl⟩
    · rintro ⟨_, held, rfl, rfl⟩
      exact ⟨held, rfl⟩

end SortedMap

end RecordBase
