import RecordBase.Proofs.Query.KeyRange
import RecordBase.Proofs.Walk.Cursor
import RecordBase.Query.Plan

/-!
# Coverage of a plan

The source that is chosen for a where clause covers every stored record that
satisfies the clause: a value that a predicate accepts has a key in the key range
of the predicate, and the record has an index key in the range walked. What the
clause asks of a field that has no key range plays no part.
-/

namespace RecordBase

/-! ## Ranges of predicates -/

/-- Every value that a predicate accepts has a key in its range. -/
theorem Predicate.contains_of_accepts {predicate : Predicate} {value : Value} {range : KeyRange}
    (ranged : predicate.keyRange? = some range) (accepted : predicate.accepts value = true) :
    ∃ key, Key.ofValue? value = some key ∧ range.contains key = true :=
  ((accepts_iff_of_keyRange? ranged value).mp accepted).1

/-- A value that a predicate for one value accepts has the key of this value. -/
theorem Predicate.ofValue?_of_exactKey? {predicate : Predicate} {value : Value} {key : Key}
    (exactly : predicate.exactKey? = some key) (accepted : predicate.accepts value = true) :
    Key.ofValue? value = some key := by
  obtain ⟨expected, asked, found⟩ := Option.bind_eq_some_iff.mp exactly
  rw [accepts_of_exactValue? asked] at accepted
  exact (Key.equal_iff_of_ofValue? found).mp accepted

/-! ## Ranges of where clauses -/

namespace WhereClause

variable {clause : WhereClause} {record : Record}

/-- A record that satisfies a clause has the fields that the clause asks for, each
with a value that its predicate accepts. -/
theorem exists_of_accepts (accepted : clause.accepts record = true) {field : String}
    {predicate : Predicate} (asked : clause.get? field = some predicate) :
    ∃ value, record.get? field = some value ∧ predicate.accepts value = true := by
  have matched := List.all_eq_true.mp accepted (field, predicate)
    (SortedMap.get?_eq_some_iff.mp asked)
  simp only [fieldMatches] at matched
  split at matched
  · rename_i value held
    exact ⟨value, held, matched⟩
  · contradiction

theorem contains_of_fieldRange? (accepted : clause.accepts record = true) {field : String}
    {range : KeyRange} (ranged : clause.fieldRange? field = some range) :
    ∃ key, Key.ofField? record field = some key ∧ range.contains key = true := by
  obtain ⟨predicate, asked, predicateRange⟩ := Option.bind_eq_some_iff.mp ranged
  obtain ⟨value, held, valueAccepted⟩ := exists_of_accepts accepted asked
  obtain ⟨key, keyed, inside⟩ := Predicate.contains_of_accepts predicateRange valueAccepted
  exact ⟨key, Option.bind_eq_some_iff.mpr ⟨value, held, keyed⟩, inside⟩

theorem mapM_ofField?_of_accepts (accepted : clause.accepts record = true) {fields : List String}
    {keys : List Key}
    (asked : (fields.mapM fun field => (clause.get? field).bind Predicate.exactKey?) = some keys) :
    fields.mapM (Key.ofField? record) = some keys := by
  induction fields generalizing keys with
  | nil => exact asked
  | cons field rest inductionHypothesis =>
      simp only [List.mapM_cons, Option.bind_eq_bind, Option.bind_eq_some_iff, Option.pure_def,
        Option.some.injEq] at asked ⊢
      obtain ⟨key, ⟨predicate, present, exactly⟩, restKeys, restAsked, rfl⟩ := asked
      obtain ⟨value, held, valueAccepted⟩ := exists_of_accepts accepted present
      have keyed := Predicate.ofValue?_of_exactKey? exactly valueAccepted
      exact ⟨key, Option.bind_eq_some_iff.mpr ⟨value, held, keyed⟩, restKeys,
        inductionHypothesis restAsked, rfl⟩

/-- Every record that satisfies a clause has a key in the range that the clause
leaves of an index. -/
theorem contains_of_pathRange? (accepted : clause.accepts record = true) {path : KeyPath}
    {range : KeyRange} (ranged : clause.pathRange? path = some range) :
    ∃ key, Key.ofRecord? record path = some key ∧ range.contains key = true := by
  cases path with
  | single field => exact contains_of_fieldRange? accepted ranged
  | composite fields =>
      obtain ⟨key, composed, rfl⟩ := Option.map_eq_some_iff.mp ranged
      obtain ⟨keys, asked, rfl⟩ := Option.map_eq_some_iff.mp composed
      have keyed : Key.ofRecord? record (.composite fields) = some (.tuple keys) := by
        rw [Key.ofRecord?, mapM_ofField?_of_accepts accepted asked]
        rfl
      exact ⟨.tuple keys, keyed, KeyRange.contains_only.mpr rfl⟩

end WhereClause

/-! ## Chosen sources -/

/-- A record type describes a store if it has the primary field of the store and
every index that it declares is there, under its name and with its path. -/
structure RecordType.Agrees (type : RecordType) (store : Store) : Prop where
  primaryField : type.primaryField = store.primaryKey.field
  indexed : ∀ declared ∈ type.indexes,
    (store.indexes.get? declared.name).map (·.descriptor.keyPath) = some declared.keyPath

instance (type : RecordType) (store : Store) : Decidable (type.Agrees store) :=
  decidable_of_iff
    (type.primaryField = store.primaryKey.field ∧ ∀ declared ∈ type.indexes,
      (store.indexes.get? declared.name).map (·.descriptor.keyPath) = some declared.keyPath)
    ⟨fun both => ⟨both.1, both.2⟩, fun agrees => ⟨agrees.primaryField, agrees.indexed⟩⟩

theorem RecordType.Agrees.exists_index {type : RecordType} {store : Store}
    (agrees : type.Agrees store) {declared : IndexDescriptor} (member : declared ∈ type.indexes) :
    ∃ index, store.indexes.get? declared.name = some index ∧
      index.descriptor.keyPath = declared.keyPath :=
  Option.map_eq_some_iff.mp (agrees.indexed declared member)

/-- A record type that declares fewer indexes describes the same stores. -/
theorem RecordType.Agrees.of_subset {type : RecordType} {store : Store}
    (agrees : type.Agrees store) {declared : List IndexDescriptor}
    (fewer : declared ⊆ type.indexes) :
    RecordType.Agrees { type with indexes := declared } store :=
  ⟨agrees.primaryField, fun index member => agrees.indexed index (fewer member)⟩

/-- A record type describes every store with the same primary key and the same
declarations of indexes. -/
theorem RecordType.Agrees.of_described {type : RecordType} {store after : Store}
    (agrees : type.Agrees store) (primaryKey : after.primaryKey = store.primaryKey)
    (described : ∀ name, (after.indexes.get? name).map (·.descriptor) =
      (store.indexes.get? name).map (·.descriptor)) : type.Agrees after where
  primaryField := agrees.primaryField.trans (congrArg (·.field) primaryKey.symm)
  indexed := by
    intro declared member
    have paths := congrArg (Option.map (·.keyPath)) (described declared.name)
    rw [Option.map_map, Option.map_map] at paths
    exact paths.trans (agrees.indexed declared member)

/-- A query walks the whole store, or the range that its clause leaves of the
primary key or of a declared index. -/
theorem Selection.source_choose (type : RecordType) (clause : WhereClause) :
    (choose type clause).source clause = .full ∨
      (∃ range, clause.fieldRange? type.primaryField = some range ∧
        (choose type clause).source clause = .primary range) ∨
      ∃ index ∈ type.indexes, ∃ range, clause.pathRange? index.keyPath = some range ∧
        (choose type clause).source clause = .index index.name range := by
  unfold choose
  split
  · exact .inl rfl
  · split
    · rename_i ranged
      obtain ⟨range, found⟩ := Option.isSome_iff_exists.mp ranged
      exact .inr (.inl ⟨range, found, by simp only [source, found]⟩)
    · split
      · rename_i index chosen
        have ranged := List.find?_some chosen
        obtain ⟨range, found⟩ := Option.isSome_iff_exists.mp ranged
        have declared : index ∈ type.indexes := by
          have member := List.mem_of_find?_eq_some chosen
          rcases List.mem_append.mp member with unique | other
          · exact (List.mem_filter.mp unique).1
          · exact (List.mem_filter.mp other).1
        exact .inr (.inr ⟨index, declared, range, found, by simp only [source, found]⟩)
      · exact .inl rfl

namespace Plan

variable {type : RecordType} {store : Store} {request : Request}

/-- The index that a plan walks is there. -/
theorem present_source (agrees : type.Agrees store) :
    (ofRequest type request).source.Present store := by
  intro name walked
  change name ∈ ((Selection.choose type request.clause).source request.clause).indexName? at walked
  rcases Selection.source_choose type request.clause with
    whole | ⟨range, _, along⟩ | ⟨declared, member, range, _, along⟩
  · rw [whole] at walked
    contradiction
  · rw [along] at walked
    contradiction
  · rw [along] at walked
    cases walked
    obtain ⟨index, found, _⟩ := agrees.exists_index member
    rw [SortedMap.contains, found]
    rfl

/-- Where a plan walks along the primary keys, it walks past that of every stored
record that satisfies the clause. -/
theorem contains_of_isPrimaryOrder (primary : type.primaryField = store.primaryKey.field)
    (consistent : store.Consistent)
    (alongKeys : (ofRequest type request).source.isPrimaryOrder = true) {key : Key}
    {record : Record} (stored : store.get? key = some record)
    (accepted : request.clause.accepts record = true) :
    (ofRequest type request).source.range.contains key = true := by
  change ((Selection.choose type request.clause).source request.clause).isPrimaryOrder = true
    at alongKeys
  change ((Selection.choose type request.clause).source request.clause).range.contains key = true
  rcases Selection.source_choose type request.clause with
    whole | ⟨range, ranged, along⟩ | ⟨declared, _, range, _, along⟩
  · rw [whole]
    rfl
  · rw [along]
    obtain ⟨held, keyed, inside⟩ := WhereClause.contains_of_fieldRange? accepted ranged
    rw [primary, consistent.ownKey stored] at keyed
    cases keyed
    exact inside
  · rw [along] at alongKeys
    contradiction

/-- The source of a plan covers every stored record that satisfies the clause. -/
theorem covers_source (agrees : type.Agrees store) (consistent : store.Consistent)
    {primary : Key} {record : Record} (stored : store.get? primary = some record)
    (accepted : request.clause.accepts record = true) :
    ∃ key, (ofRequest type request).source.key? store primary record = some key ∧
      (ofRequest type request).source.range.contains key = true := by
  cases alongKeys : (ofRequest type request).source.isPrimaryOrder with
  | true =>
      exact ⟨primary, ScanSource.key?_of_isPrimaryOrder alongKeys _ _,
        contains_of_isPrimaryOrder agrees.primaryField consistent alongKeys stored accepted⟩
  | false =>
      change ((Selection.choose type request.clause).source request.clause).isPrimaryOrder = false
        at alongKeys
      change ∃ key, ((Selection.choose type request.clause).source request.clause).key? store
        primary record = some key ∧
          ((Selection.choose type request.clause).source request.clause).range.contains key = true
      rcases Selection.source_choose type request.clause with
        whole | ⟨range, _, along⟩ | ⟨declared, member, range, ranged, along⟩
      · rw [whole] at alongKeys
        contradiction
      · rw [along] at alongKeys
        contradiction
      · rw [along]
        obtain ⟨key, keyed, inside⟩ := WhereClause.contains_of_pathRange? accepted ranged
        obtain ⟨index, found, samePath⟩ := agrees.exists_index member
        refine ⟨key, ?_, inside⟩
        simp only [ScanSource.key?, found, Option.bind_some, StoreIndex.key?, samePath, keyed]

end Plan

end RecordBase
