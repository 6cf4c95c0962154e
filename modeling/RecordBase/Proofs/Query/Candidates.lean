import Mathlib.Data.List.Forall2
import RecordBase.Proofs.Query.KeyRange
import RecordBase.Proofs.Schema.Validation
import RecordBase.Query.Plan

/-!
# Candidates for a source

A where clause serves the key path of a candidate if it leaves a range of it: for one field a
predicate all of whose values are keys, for several fields a key that each of them must equal.
The plan for a valid record type walks the first candidate that the clause serves, in the
range that the clause leaves of it, where the primary key is tried first, then the unique
indexes and then the others, each as declared. It walks the whole store only if the clause
serves no candidate.
-/

namespace RecordBase

/-! ## Served key paths -/

namespace WhereClause

variable {clause : WhereClause}

/-- A field has to equal one value, which has a key. -/
def Fixes (clause : WhereClause) (field : String) (key : Key) : Prop :=
  ∃ predicate value, clause.get? field = some predicate ∧ predicate.exactValue? = some value ∧
    Key.ofValue? value = some key

/-- A clause serves one field by a predicate whose values are keys, and several fields if it
fixes a key for each of them. -/
def Serves (clause : WhereClause) : KeyPath → Prop
  | .single field => ∃ predicate, clause.get? field = some predicate ∧
      ∀ operand ∈ predicate.operands, ∃ key, Key.ofValue? operand = some key
  | .composite fields => ∀ field ∈ fields, ∃ key, clause.Fixes field key

/-- What a clause leaves of a served path: of one field the key range of its predicate, of
several fields the one tuple of the keys that it fixes, in declared order. -/
def Leaves (clause : WhereClause) : KeyPath → KeyRange → Prop
  | .single field, range => ∃ predicate, clause.get? field = some predicate ∧
      predicate.keyRange? = some range
  | .composite fields, range => ∃ keys, List.Forall₂ clause.Fixes fields keys ∧
      range = .only (.tuple keys)

theorem bind_exactKey?_eq_some_iff {field : String} {key : Key} :
    (clause.get? field).bind Predicate.exactKey? = some key ↔ clause.Fixes field key := by
  simp only [Fixes, Predicate.exactKey?, Option.bind_eq_some_iff, exists_and_left]

theorem mapM_exactKey?_eq_some_iff {fields : List String} {keys : List Key} :
    (fields.mapM fun field => (clause.get? field).bind Predicate.exactKey?) = some keys ↔
      List.Forall₂ clause.Fixes fields keys := by
  simp only [mapM_eq_some_iff_forall₂, bind_exactKey?_eq_some_iff]

theorem pathRange?_eq_some_iff {path : KeyPath} {range : KeyRange} :
    clause.pathRange? path = some range ↔ clause.Leaves path range := by
  cases path with
  | single field => exact Option.bind_eq_some_iff
  | composite fields =>
      simp only [pathRange?, compositeKey?, Leaves, Option.map_eq_some_iff,
        mapM_exactKey?_eq_some_iff]
      constructor
      · rintro ⟨_, ⟨keys, fixed, rfl⟩, rfl⟩
        exact ⟨keys, fixed, rfl⟩
      · rintro ⟨keys, fixed, rfl⟩
        exact ⟨.tuple keys, ⟨keys, fixed, rfl⟩, rfl⟩

/-- There is a tuple of fixed keys if every field has a fixed key. -/
theorem exists_fixes_iff {fields : List String} :
    (∃ keys, List.Forall₂ clause.Fixes fields keys) ↔
      ∀ field ∈ fields, ∃ key, clause.Fixes field key := by
  induction fields with
  | nil => simp
  | cons field rest inductionHypothesis =>
      rw [List.forall_mem_cons, ← inductionHypothesis]
      simp only [List.forall₂_cons_left_iff]
      constructor
      · rintro ⟨_, key, keys, fixed, restFixed, rfl⟩
        exact ⟨⟨key, fixed⟩, keys, restFixed⟩
      · rintro ⟨⟨key, fixed⟩, keys, restFixed⟩
        exact ⟨key :: keys, key, keys, fixed, restFixed, rfl⟩

/-- A clause serves the paths that it leaves a range of. -/
theorem serves_iff_exists_leaves {path : KeyPath} :
    clause.Serves path ↔ ∃ range, clause.Leaves path range := by
  cases path with
  | single field =>
      have keyed (predicate : Predicate) :
          (∀ operand ∈ predicate.operands, ∃ key, Key.ofValue? operand = some key) ↔
            ∃ range, predicate.keyRange? = some range := by
        rw [← Option.ne_none_iff_exists', Ne, predicate.keyRange?_eq_none_iff]
        simp only [← Option.ne_none_iff_exists', not_exists, not_and, Ne]
      simp only [Serves, Leaves, keyed]
      constructor
      · rintro ⟨predicate, asked, range, ranged⟩
        exact ⟨range, predicate, asked, ranged⟩
      · rintro ⟨range, predicate, asked, ranged⟩
        exact ⟨predicate, asked, range, ranged⟩
  | composite fields =>
      simp only [Serves, Leaves]
      constructor
      · intro fixed
        obtain ⟨keys, each⟩ := exists_fixes_iff.mpr fixed
        exact ⟨.only (.tuple keys), keys, each, rfl⟩
      · rintro ⟨_, keys, each, rfl⟩
        exact exists_fixes_iff.mp ⟨keys, each⟩

/-- A clause leaves one range of a path. -/
theorem leaves_unique {path : KeyPath} {range other : KeyRange} (left : clause.Leaves path range)
    (otherLeft : clause.Leaves path other) : range = other := by
  rw [← pathRange?_eq_some_iff] at left otherLeft
  exact Option.some.inj (left.symm.trans otherLeft)

theorem isSome_pathRange?_iff {path : KeyPath} :
    (clause.pathRange? path).isSome = true ↔ clause.Serves path := by
  simp only [serves_iff_exists_leaves, Option.isSome_iff_exists, pathRange?_eq_some_iff]

/-- An empty clause serves no path that has fields. -/
theorem not_serves_of_isEmpty (empty : clause.isEmpty = true) {path : KeyPath}
    (nonempty : path.fields ≠ []) : ¬clause.Serves path := by
  have absent (field : String) : clause.get? field = none := by
    rw [Option.eq_none_iff_forall_ne_some]
    intro predicate asked
    have member := SortedMap.get?_eq_some_iff.mp asked
    rw [SortedMap.toList, List.isEmpty_iff.mp empty] at member
    contradiction
  cases path with
  | single field =>
      rintro ⟨predicate, asked, _⟩
      rw [absent] at asked
      contradiction
  | composite fields =>
      intro fixed
      obtain ⟨field, member⟩ := List.exists_mem_of_ne_nil fields nonempty
      obtain ⟨_, predicate, _, asked, _⟩ := fixed field member
      rw [absent] at asked
      contradiction

end WhereClause

/-! ## The first candidate that is served -/

namespace RecordType

/-- An index is the first that satisfies a condition: no index of the same sort that is
declared before it does, and if it is not unique, no unique index does. -/
structure First (type : RecordType) (condition : KeyPath → Prop) (index : IndexDescriptor) :
    Prop where
  satisfied : condition index.keyPath
  declared : ∃ front back, type.indexes = front ++ index :: back ∧
    ∀ other ∈ front, other.unique = index.unique → ¬condition other.keyPath
  afterUnique : index.unique = false →
    ∀ other ∈ type.indexes, other.unique = true → ¬condition other.keyPath

theorem First.mem {type : RecordType} {condition : KeyPath → Prop} {index : IndexDescriptor}
    (first : type.First condition index) : index ∈ type.indexes := by
  obtain ⟨front, back, split, _⟩ := first.declared
  simp [split]

end RecordType

namespace Selection

variable {type : RecordType} {clause : WhereClause}

theorem mem_candidates_iff {index : IndexDescriptor} :
    index ∈ candidates type ↔ index ∈ type.indexes := by
  simp only [candidates, List.mem_append, List.mem_filter]
  cases index.unique <;> simp

/-- The first candidate found among the unique indexes and then the others. -/
theorem find?_candidates_eq_some_iff (usable : KeyPath → Bool) {index : IndexDescriptor} :
    (candidates type).find? (fun index => usable index.keyPath) = some index ↔
      type.First (fun path => usable path = true) index := by
  simp only [candidates, List.find?_append, Option.or_eq_some_iff, List.find?_filter,
    List.find?_eq_some_iff_append, List.find?_eq_none, decide_eq_true_eq, Bool.not_eq_true',
    decide_eq_false_iff_not, not_and]
  constructor
  · rintro (⟨⟨unique, found⟩, front, back, split, earlier⟩ |
      ⟨noUnique, ⟨notUnique, found⟩, front, back, split, earlier⟩)
    · refine ⟨found, ⟨front, back, split, ?_⟩, ?_⟩
      · intro other member same
        exact earlier other member (same.trans unique)
      · intro notUnique
        rw [unique] at notUnique
        contradiction
    · refine ⟨found, ⟨front, back, split, ?_⟩, fun _ => noUnique⟩
      intro other member same
      exact earlier other member (same.trans notUnique)
  · rintro ⟨found, ⟨front, back, split, earlier⟩, noUnique⟩
    cases unique : index.unique with
    | true =>
        rw [unique] at earlier
        exact .inl ⟨⟨rfl, found⟩, front, back, split, earlier⟩
    | false =>
        rw [unique] at earlier
        exact .inr ⟨noUnique unique, ⟨rfl, found⟩, front, back, split, earlier⟩

/-- The index that a clause chooses is the first that it serves. -/
theorem find?_pathRange?_eq_some_iff {index : IndexDescriptor} :
    (candidates type).find? (fun index => (clause.pathRange? index.keyPath).isSome) = some index ↔
      type.First clause.Serves index := by
  have served : (fun path => (clause.pathRange? path).isSome = true) = clause.Serves :=
    funext fun _ => propext WhereClause.isSome_pathRange?_iff
  rw [← served]
  exact find?_candidates_eq_some_iff fun path => (clause.pathRange? path).isSome

/-- No two indexes are the first that a clause serves. -/
theorem first_unique {index other : IndexDescriptor} (first : type.First clause.Serves index)
    (otherFirst : type.First clause.Serves other) : index = other := by
  rw [← find?_pathRange?_eq_some_iff] at first otherFirst
  exact Option.some.inj (first.symm.trans otherFirst)

/-- The primary key is chosen if the clause serves it, else the first index that the clause
serves, and else the whole store. -/
theorem choose_cases (valid : type.validate = .ok ()) (clause : WhereClause) :
    let primary := KeyPath.single type.primaryField
    (clause.Serves primary ∧ choose type clause = .primaryKey type.primaryField) ∨
      (¬clause.Serves primary ∧ ∃ found, type.First clause.Serves found ∧
        choose type clause = .index found) ∨
      ¬clause.Serves primary ∧ (∀ index ∈ type.indexes, ¬clause.Serves index.keyPath) ∧
        choose type clause = .fullScan := by
  intro primary
  by_cases empty : clause.isEmpty = true
  · have noPrimary : ¬clause.Serves primary :=
      WhereClause.not_serves_of_isEmpty empty (List.cons_ne_nil _ _)
    have noIndex : ∀ index ∈ type.indexes, ¬clause.Serves index.keyPath := by
      intro index declared
      apply WhereClause.not_serves_of_isEmpty empty
      cases path : index.keyPath with
      | single field => exact List.cons_ne_nil _ _
      | composite fields => exact RecordType.ne_nil_of_validate valid declared path
    exact .inr (.inr ⟨noPrimary, noIndex, by rw [choose, if_pos empty]⟩)
  · have servesPrimary : (clause.fieldRange? type.primaryField).isSome = true ↔
        clause.Serves primary :=
      @WhereClause.isSome_pathRange?_iff clause primary
    rw [choose, if_neg empty]
    by_cases served : clause.Serves primary
    · exact .inl ⟨served, if_pos (servesPrimary.mpr served)⟩
    · rw [if_neg (mt servesPrimary.mp served)]
      cases chosen : (candidates type).find? fun index =>
          (clause.pathRange? index.keyPath).isSome with
      | some found =>
          exact .inr (.inl ⟨served, found, find?_pathRange?_eq_some_iff.mp chosen, rfl⟩)
      | none =>
          refine .inr (.inr ⟨served, ?_, rfl⟩)
          intro index declared
          rw [← WhereClause.isSome_pathRange?_iff]
          exact List.find?_eq_none.mp chosen index (mem_candidates_iff.mpr declared)

/-- The source is the primary key if the clause serves it, or else the first index that it
serves, or else the whole store. -/
theorem source_choose_cases (valid : type.validate = .ok ()) (clause : WhereClause) :
    let primary := KeyPath.single type.primaryField
    (∃ range, clause.Leaves primary range ∧ choose type clause ≠ .fullScan ∧
        (choose type clause).source clause = .primary range) ∨
      (¬clause.Serves primary ∧ ∃ found range, type.First clause.Serves found ∧
        clause.Leaves found.keyPath range ∧ choose type clause ≠ .fullScan ∧
          (choose type clause).source clause = .index found.name range) ∨
      ¬clause.Serves primary ∧ (∀ index ∈ type.indexes, ¬clause.Serves index.keyPath) ∧
        choose type clause = .fullScan ∧ (choose type clause).source clause = .full := by
  intro primary
  rcases choose_cases valid clause with
    ⟨served, chosen⟩ | ⟨unserved, found, first, chosen⟩ | ⟨unserved, noIndex, chosen⟩
  · obtain ⟨range, left⟩ := WhereClause.serves_iff_exists_leaves.mp served
    have ranged : clause.fieldRange? type.primaryField = some range :=
      WhereClause.pathRange?_eq_some_iff.mpr left
    refine .inl ⟨range, left, ?_, ?_⟩
    · simp [chosen]
    · simp only [chosen, source, ranged]
  · obtain ⟨range, left⟩ := WhereClause.serves_iff_exists_leaves.mp first.satisfied
    have ranged := WhereClause.pathRange?_eq_some_iff.mpr left
    refine .inr (.inl ⟨unserved, found, range, first, left, ?_, ?_⟩)
    · simp [chosen]
    · simp only [chosen, source, ranged]
  · refine .inr (.inr ⟨unserved, noIndex, chosen, ?_⟩)
    rw [chosen, source]

theorem source_choose_eq_full_iff (valid : type.validate = .ok ()) :
    (choose type clause).source clause = .full ↔
      ¬clause.Serves (.single type.primaryField) ∧
        ∀ index ∈ type.indexes, ¬clause.Serves index.keyPath := by
  rcases source_choose_cases valid clause with
    ⟨range, left, _, along⟩ | ⟨_, found, _, first, _, _, along⟩ | ⟨unserved, noIndex, _, whole⟩
  · have served := WhereClause.serves_iff_exists_leaves.mpr ⟨range, left⟩
    simp [along, served]
  · simp only [along, reduceCtorEq, false_iff, not_and]
    intro _ noIndex
    exact noIndex found first.mem first.satisfied
  · exact iff_of_true whole ⟨unserved, noIndex⟩

theorem source_choose_eq_primary_iff (valid : type.validate = .ok ()) {range : KeyRange} :
    (choose type clause).source clause = .primary range ↔
      clause.Leaves (.single type.primaryField) range := by
  have unserved_leaves (unserved : ¬clause.Serves (.single type.primaryField)) :
      ¬clause.Leaves (.single type.primaryField) range :=
    fun left => unserved (WhereClause.serves_iff_exists_leaves.mpr ⟨range, left⟩)
  rcases source_choose_cases valid clause with
    ⟨walked, left, _, along⟩ | ⟨unserved, _, _, _, _, _, along⟩ | ⟨unserved, _, _, whole⟩
  · rw [along, ScanSource.primary.injEq]
    constructor
    · rintro rfl
      exact left
    · exact WhereClause.leaves_unique left
  · simp [along, unserved_leaves unserved]
  · simp [whole, unserved_leaves unserved]

theorem source_choose_eq_index_iff (valid : type.validate = .ok ()) {name : String}
    {range : KeyRange} :
    (choose type clause).source clause = .index name range ↔
      ¬clause.Serves (.single type.primaryField) ∧ ∃ index, type.First clause.Serves index ∧
        index.name = name ∧ clause.Leaves index.keyPath range := by
  rcases source_choose_cases valid clause with
    ⟨walked, left, _, along⟩ | ⟨unserved, found, walked, first, left, _, along⟩ |
      ⟨_, noIndex, _, whole⟩
  · have served := WhereClause.serves_iff_exists_leaves.mpr ⟨walked, left⟩
    simp [along, served]
  · rw [along, ScanSource.index.injEq]
    constructor
    · rintro ⟨rfl, rfl⟩
      exact ⟨unserved, found, first, rfl, left⟩
    · rintro ⟨_, index, indexFirst, rfl, indexLeft⟩
      obtain rfl := first_unique first indexFirst
      exact ⟨rfl, WhereClause.leaves_unique left indexLeft⟩
  · simp only [whole, reduceCtorEq, false_iff, not_and]
    rintro _ ⟨index, first, _⟩
    exact noIndex index first.mem first.satisfied

/-- The scan of a source other than the whole store is never one of the whole store. -/
theorem source_choose_eq_full_iff_choose (valid : type.validate = .ok ()) :
    (choose type clause).source clause = .full ↔ choose type clause = .fullScan := by
  rcases source_choose_cases valid clause with
    ⟨_, _, chosen, along⟩ | ⟨_, _, _, _, _, chosen, along⟩ | ⟨_, _, chosen, whole⟩
  · simp [along, chosen]
  · simp [along, chosen]
  · exact iff_of_true whole chosen

end Selection

namespace Plan

variable {type : RecordType}

/-- A plan walks the primary key in the range that the clause leaves of it, or else the first
index that the clause serves, or else the whole store. -/
theorem source_first_served (valid : type.validate = .ok ()) (request : Request) :
    let clause := request.clause
    let primary := KeyPath.single type.primaryField
    let source := (ofRequest type request).source
    (source = .full ↔
      ¬clause.Serves primary ∧ ∀ index ∈ type.indexes, ¬clause.Serves index.keyPath) ∧
    (∀ range, source = .primary range ↔ clause.Leaves primary range) ∧
    (∀ name range, source = .index name range ↔
      ¬clause.Serves primary ∧ ∃ index, type.First clause.Serves index ∧ index.name = name ∧
        clause.Leaves index.keyPath range) ∧
    (∀ path, clause.Serves path ↔ ∃! range, clause.Leaves path range) ∧
    (source = .full ↔ Selection.choose type clause = .fullScan) := by
  intro clause primary source
  refine ⟨Selection.source_choose_eq_full_iff valid,
    fun range => Selection.source_choose_eq_primary_iff valid,
    fun name range => Selection.source_choose_eq_index_iff valid, ?_,
    Selection.source_choose_eq_full_iff_choose valid⟩
  intro path
  rw [WhereClause.serves_iff_exists_leaves]
  constructor
  · rintro ⟨range, left⟩
    exact ⟨range, left, fun other otherLeft => WhereClause.leaves_unique otherLeft left⟩
  · rintro ⟨range, left, _⟩
    exact ⟨range, left⟩

/-- A unique index on three fields is walked before one on one field that is declared ahead of
it. The unique index between them is not served. -/
theorem source_first_served_student :
    let type : RecordType :=
      { storeName := "student"
        primaryKey := { field := "id" }
        indexes := [
          { name := "by_age", keyPath := .single "age" },
          { name := "by_email", unique := true, keyPath := .single "email" },
          { name := "uni_link", unique := true
            keyPath := .composite ["number", "hostel", "bed"] }] }
    let clause : WhereClause := .ofList [
      ("age", .literal (.ofInt 20)), ("email", .literal (.bool true)),
      ("bed", .literal (.ofInt 3)), ("number", .literal (.ofInt 1)),
      ("hostel", .compare (.equal (.ofInt 2)))]
    type.validate = .ok () ∧
      (ofRequest type { clause }).source =
        .index "uni_link" (.only (.tuple [.ofInt 1, .ofInt 2, .ofInt 3])) ∧
      ¬clause.Serves (.single "id") ∧ ∃ index, type.First clause.Serves index ∧
        index.name = "uni_link" ∧
          clause.Leaves index.keyPath (.only (.tuple [.ofInt 1, .ofInt 2, .ofInt 3])) := by
  intro type clause
  have valid : type.validate = .ok () := by
    rw [RecordType.validate_eq_ok_iff]
    decide +kernel
  have walked : (ofRequest type { clause }).source =
      .index "uni_link" (.only (.tuple [.ofInt 1, .ofInt 2, .ofInt 3])) := by decide +kernel
  obtain ⟨-, -, along, -⟩ := source_first_served valid { clause }
  exact ⟨valid, walked, (along _ _).mp walked⟩

end Plan

end RecordBase
