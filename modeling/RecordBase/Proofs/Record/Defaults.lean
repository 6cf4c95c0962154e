import RecordBase.Record.Update
import RecordBase.SortedMap.Lemmas

/-!
# Records with defaults

A record with the defaults of a type holds in every field what it held before, or else
the default that is declared for the field, or else nothing.
-/

namespace RecordBase

/-- What is declared for a field of an inserted record that has no such field. -/
def RecordType.default? (type : RecordType) (field : String) : Option Value :=
  (type.fields.get? field).bind (·.default)

namespace Record

/-- Filling one field after the other looks a field up in the record first, and then among
the declarations. -/
theorem get?_foldl_fill {fill : Record → String × Field → Record}
    (fills : ∀ record entry field, (fill record entry).get? field =
      (record.get? field).or (if entry.1 = field then entry.2.default else none))
    {fields : List (String × Field)} (ascending : SortedMap.Ascending fields) (record : Record)
    (field : String) :
    (fields.foldl fill record).get? field =
      (record.get? field).or ((SortedMap.lookupEntry field fields).bind (·.default)) := by
  induction fields generalizing record with
  | nil => exact Option.or_none.symm
  | cons first rest inductionHypothesis =>
      rcases List.pairwise_cons.mp ascending with ⟨later, restAscending⟩
      rw [List.foldl_cons, inductionHypothesis restAscending, fills, SortedMap.lookupEntry_cons]
      by_cases same : first.1 = field
      · subst same
        rw [if_pos rfl, if_pos Std.ReflOrd.compare_self, SortedMap.lookupEntry_of_front later]
        exact Option.or_none
      · have apart : ¬ compare first.1 field = .eq :=
          fun equal => same (Std.LawfulEqOrd.eq_of_compare equal)
        rw [if_neg same, if_neg apart, Option.or_none]

theorem get?_withDefaults (record : Record) (type : RecordType) (field : String) :
    (record.withDefaults type).get? field = (record.get? field).or (type.default? field) := by
  refine get?_foldl_fill ?_ type.fields.ascending record field
  rintro record ⟨name, declared⟩ field
  cases given : declared.default with
  | none => simp [given]
  | some value =>
      simp only [given]
      by_cases same : name = field
      · subst same
        cases held : record.get? name <;> simp [SortedMap.contains, held]
      · rw [if_neg same, Option.or_none]
        split
        · rfl
        · rw [SortedMap.get?_insert_of_ne _ _ same]

end Record

end RecordBase
