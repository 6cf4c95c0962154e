import RecordBase.Key.Path
import RecordBase.Record.Update
import RecordBase.SortedMap.Lemmas

/-!
# Merged records

A merged record holds in the primary field what the record holds, and elsewhere
what the patch holds or else what the record holds. A patch is the same for all
records, so it keeps what their keys under one path have in common: two records
of one index key, one of them merged already, still have one index key when both
are.
-/

namespace RecordBase

namespace Record

variable {record patch : Record} {primaryField : String}

theorem get?_foldl_merge {members : List (String × Value)} (ascending : SortedMap.Ascending members)
    (record : Record) (primaryField field : String) :
    (members.foldl
      (fun merged (name, value) =>
        if name = primaryField then merged else merged.insert name value)
      record).get? field =
        if field = primaryField then SortedMap.get? record field
        else (SortedMap.lookupEntry field members).or (SortedMap.get? record field) := by
  induction members generalizing record with
  | nil => simp
  | cons member rest inductionHypothesis =>
      obtain ⟨name, value⟩ := member
      obtain ⟨later, restAscending⟩ := List.pairwise_cons.mp ascending
      rw [List.foldl_cons, inductionHypothesis restAscending, SortedMap.lookupEntry_cons]
      by_cases isPrimary : name = primaryField
      · subst isPrimary
        by_cases own : field = name
        · simp [own]
        · have different : name ≠ field := Ne.symm own
          simp [own, different]
      · simp only [if_neg isPrimary]
        by_cases own : field = primaryField
        · have different : name ≠ field := fun same => isPrimary (same.trans own)
          rw [if_pos own, if_pos own, SortedMap.get?_insert_of_ne _ _ different]
        · rw [if_neg own, if_neg own, SortedMap.get?_insert]
          by_cases same : compare name field = .eq
          · have absent : SortedMap.lookupEntry field rest = none := by
              rw [← Std.LawfulEqOrd.eq_of_compare same]
              exact SortedMap.lookupEntry_of_front later
            rw [if_pos same, if_pos same, absent]
            rfl
          · rw [if_neg same, if_neg same]

/-- A merged record looks fields up in the patch first, but for the primary
field. -/
theorem get?_merge (record patch : Record) (primaryField field : String) :
    (merge record patch primaryField).get? field =
      if field = primaryField then record.get? field
      else (patch.get? field).or (record.get? field) :=
  get?_foldl_merge patch.ascending record primaryField field

/-- A patch changes nothing in a record that it was laid over before. -/
@[simp]
theorem merge_merge (record patch : Record) (primaryField : String) :
    merge (merge record patch primaryField) patch primaryField =
      merge record patch primaryField := by
  apply SortedMap.ext_get?
  intro field
  rw [get?_merge, get?_merge]
  split
  · rfl
  · cases patch.get? field <;> rfl

/-- A patch keeps the primary key. -/
theorem ofField?_merge (record patch : Record) (field : String) :
    Key.ofField? (merge record patch field) field = Key.ofField? record field := by
  rw [Key.ofField?, get?_merge, if_pos rfl, Key.ofField?]

/-- A field of a merged record holds a key that the patch decides alone, or the
key that the record holds. -/
theorem ofField?_merge_eq (patch : Record) (primaryField field : String) :
    (∃ key?, ∀ record, Key.ofField? (merge record patch primaryField) field = key?) ∨
      ∀ record, Key.ofField? (merge record patch primaryField) field =
        Key.ofField? record field := by
  by_cases own : field = primaryField
  · right
    intro record
    rw [Key.ofField?, get?_merge, if_pos own, Key.ofField?]
  · cases held : patch.get? field with
    | some value =>
        left
        refine ⟨Key.ofValue? value, fun record => ?_⟩
        rw [Key.ofField?, get?_merge, if_neg own, held]
        rfl
    | none =>
        right
        intro record
        rw [Key.ofField?, get?_merge, if_neg own, held]
        rfl

/-- A record whose field holds the key of a merged one keeps it when it is merged
itself. -/
theorem ofField?_merge_of_eq {other : Record} {field : String} {key : Key}
    (merged : Key.ofField? (merge record patch primaryField) field = some key)
    (held : Key.ofField? other field = some key) :
    Key.ofField? (merge other patch primaryField) field = some key := by
  rcases ofField?_merge_eq patch primaryField field with ⟨key?, constant⟩ | own
  · rw [constant, ← constant record, merged]
  · rw [own, held]

theorem mapM_ofField?_merge_of_eq {other : Record} {fields : List String} {keys : List Key}
    (merged : fields.mapM (Key.ofField? (merge record patch primaryField)) = some keys)
    (held : fields.mapM (Key.ofField? other) = some keys) :
    fields.mapM (Key.ofField? (merge other patch primaryField)) = some keys := by
  induction fields generalizing keys with
  | nil => exact held
  | cons field rest inductionHypothesis =>
      simp only [List.mapM_cons, Option.bind_eq_bind, Option.bind_eq_some_iff, Option.pure_def,
        Option.some.injEq] at merged held ⊢
      obtain ⟨key, first, later, others, rfl⟩ := merged
      obtain ⟨same, heldFirst, sameLater, heldOthers, equal⟩ := held
      obtain ⟨rfl, rfl⟩ := List.cons.inj equal
      exact ⟨same, ofField?_merge_of_eq first heldFirst, sameLater,
        inductionHypothesis others heldOthers, rfl⟩

/-- A record that has the index key of a merged one keeps it when it is merged
itself. -/
theorem ofRecord?_merge_of_eq {other : Record} {path : KeyPath} {key : Key}
    (merged : Key.ofRecord? (merge record patch primaryField) path = some key)
    (held : Key.ofRecord? other path = some key) :
    Key.ofRecord? (merge other patch primaryField) path = some key := by
  cases path with
  | single field => exact ofField?_merge_of_eq merged held
  | composite fields =>
      obtain ⟨keys, mergedKeys, rfl⟩ := Option.map_eq_some_iff.mp merged
      obtain ⟨same, heldKeys, equal⟩ := Option.map_eq_some_iff.mp held
      obtain rfl := Key.tuple.inj equal
      exact Option.map_eq_some_iff.mpr ⟨same, mapM_ofField?_merge_of_eq mergedKeys heldKeys, rfl⟩

end Record

end RecordBase
