import Mathlib.Data.List.Forall2
import RecordBase.Schema.Validation

/-!
# Valid record types

A record type is valid if there is nothing wrong with any of its parts: its two names
are not blank, no default has the wrong type, and each index is well formed and has a
name that no other has. So an index of a valid record type has at least one field.
-/

namespace RecordBase

/-- A list is read if each of its items is read. -/
theorem mapM_eq_some_iff_forall₂ {α β : Type} {read : α → Option β} {items : List α}
    {results : List β} :
    items.mapM read = some results ↔
      List.Forall₂ (fun item result => read item = some result) items results := by
  induction items generalizing results with
  | nil => simp [eq_comm]
  | cons item rest inductionHypothesis =>
      simp only [List.mapM_cons, Option.bind_eq_bind, Option.bind_eq_some_iff, Option.pure_def,
        Option.some.injEq, List.forall₂_cons_left_iff]
      constructor
      · rintro ⟨first, firstRead, others, othersRead, rfl⟩
        exact ⟨first, others, firstRead, inductionHypothesis.mp othersRead, rfl⟩
      · rintro ⟨first, others, firstRead, othersRead, rfl⟩
        exact ⟨first, firstRead, others, inductionHypothesis.mpr othersRead, rfl⟩

/-- The next name joins those checked in front of it just if it is new, and the rest stay
distinct and apart from it as well. -/
theorem apart_cons_iff {seen rest : List String} {name : String} :
    (name :: rest).Nodup ∧ (∀ earlier ∈ seen, earlier ∉ name :: rest) ↔
      name ∉ seen ∧ rest.Nodup ∧ ∀ earlier ∈ name :: seen, earlier ∉ rest := by
  rw [List.nodup_cons, List.forall_mem_cons]
  simp only [List.mem_cons, not_or]
  constructor
  · rintro ⟨⟨new, distinct⟩, apart⟩
    exact ⟨fun known => (apart name known).1 rfl, distinct, new,
      fun earlier member => (apart earlier member).2⟩
  · rintro ⟨unknown, distinct, new, apart⟩
    refine ⟨⟨new, distinct⟩, fun earlier member => ⟨?_, apart earlier member⟩⟩
    rintro rfl
    exact unknown member

/-- The fields of a key are accepted if they are not blank, and new and distinct. -/
theorem IndexFault.inFields?_eq_none_iff {seen fields : List String} :
    inFields? seen fields = none ↔
      (∀ field ∈ fields, Text.isBlank field = false) ∧ fields.Nodup ∧
        ∀ earlier ∈ seen, earlier ∉ fields := by
  induction fields generalizing seen with
  | nil => simp [inFields?]
  | cons field rest inductionHypothesis =>
      rw [apart_cons_iff, List.forall_mem_cons, inFields?]
      cases Text.isBlank field with
      | true => simp
      | false =>
          by_cases known : field ∈ seen
          · simp [known]
          · simp [known, inductionHypothesis]

/-- Indexes on no fields at all are refused. -/
theorem KeyPath.ne_nil_of_fault? {fields : List String}
    (accepted : (composite fields).fault? = none) : fields ≠ [] := by
  rintro rfl
  contradiction

theorem IndexDescriptor.fault?_eq_none_iff {index : IndexDescriptor} :
    index.fault? = none ↔ Text.isBlank index.name = false ∧ index.keyPath.fault? = none := by
  unfold fault?
  cases Text.isBlank index.name <;> simp

namespace RecordType

/-- Indexes are accepted if each is well formed and their names are new and their
own. -/
theorem indexFault?_eq_none_iff {store : String} {seen : List String}
    {indexes : List IndexDescriptor} :
    indexFault? store seen indexes = none ↔
      (∀ index ∈ indexes, index.fault? = none) ∧ (indexes.map (·.name)).Nodup ∧
        ∀ name ∈ seen, name ∉ indexes.map (·.name) := by
  induction indexes generalizing seen with
  | nil => simp [indexFault?]
  | cons index rest inductionHypothesis =>
      rw [List.map_cons, apart_cons_iff, List.forall_mem_cons, indexFault?]
      cases fault : index.fault? with
      | some fault => simp
      | none =>
          by_cases known : index.name ∈ seen
          · simp [known]
          · simp [known, inductionHypothesis]

/-- Fields are accepted if every default has the type of its field. -/
theorem defaultFault?_eq_none_iff {store : String} {fields : List (String × Field)} :
    defaultFault? store fields = none ↔
      ∀ entry ∈ fields, ∀ value, entry.2.default = some value →
        entry.2.type.accepts value = true := by
  induction fields with
  | nil => simp [defaultFault?]
  | cons entry rest inductionHypothesis =>
      rw [List.forall_mem_cons, ← inductionHypothesis, defaultFault?]
      cases entry.2.default with
      | none => simp
      | some value => cases accepted : entry.2.type.accepts value <;> simp [accepted]

theorem fault?_eq_none_iff {type : RecordType} :
    type.fault? = none ↔
      Text.isBlank type.storeName = false ∧ Text.isBlank type.primaryField = false ∧
        defaultFault? type.storeName type.fields.toList = none ∧
        indexFault? type.storeName [] type.indexes = none := by
  unfold fault?
  cases Text.isBlank type.storeName with
  | true => simp
  | false =>
      cases Text.isBlank type.primaryField with
      | true => simp
      | false => cases defaultFault? type.storeName type.fields.toList <;> simp

/-- A record type is valid if its names, its defaults and its indexes are. -/
theorem validate_eq_ok_iff {type : RecordType} :
    type.validate = .ok () ↔
      Text.isBlank type.storeName = false ∧ Text.isBlank type.primaryField = false ∧
        defaultFault? type.storeName type.fields.toList = none ∧
        indexFault? type.storeName [] type.indexes = none := by
  rw [← fault?_eq_none_iff, validate]
  cases type.fault? <;> simp

/-- No two indexes of an accepted record type share a name. -/
theorem nodup_indexNames {type : RecordType} (accepted : type.fault? = none) :
    (type.indexes.map (·.name)).Nodup := by
  rcases fault?_eq_none_iff.mp accepted with ⟨_, _, _, indexes⟩
  exact (indexFault?_eq_none_iff.mp indexes).2.1

/-- Every index of a valid record type has a field. -/
theorem ne_nil_of_validate {type : RecordType} (valid : type.validate = .ok ())
    {index : IndexDescriptor} (declared : index ∈ type.indexes) {fields : List String}
    (path : index.keyPath = .composite fields) : fields ≠ [] := by
  rcases validate_eq_ok_iff.mp valid with ⟨_, _, _, indexes⟩
  have wellFormed := (indexFault?_eq_none_iff.mp indexes).1 index declared
  rw [IndexDescriptor.fault?_eq_none_iff, path] at wellFormed
  exact KeyPath.ne_nil_of_fault? wellFormed.2

end RecordType

end RecordBase
