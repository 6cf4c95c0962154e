import RecordBase.Proofs.Document.Value
import RecordBase.Proofs.Schema.Validation
import RecordBase.Record.Update
import RecordBase.Schema.Builder
import RecordBase.Schema.Codec

/-!
# Record types read from what was written

A record type is read again from the document that writes it out, with one exception: a
default that is `null` is written as one, and read as none. So a record type comes back
as it was exactly if no field has `null` for a default, and what was read once comes
back as often as it is written.
-/

namespace RecordBase

/-! ## Parts of written objects -/

namespace Document

theorem ofItems_eq_map (items : List Value) : ofItems items = items.map ofValue := by
  induction items with
  | nil => rfl
  | cons item rest inductionHypothesis => rw [ofItems, inductionHypothesis, List.map_cons]

theorem ofMembers_eq_map (members : List (String × Value)) :
    ofMembers members = members.map fun member => (some member.1, ofValue member.2) := by
  induction members with
  | nil => rfl
  | cons member rest inductionHypothesis => rw [ofMembers, inductionHypothesis, List.map_cons]

/-- The part of a name in a written record is what the record holds under it. -/
theorem part?_ofMembers (record : Record) (name : String) :
    part? (ofMembers record.toList) name = some ((record.get? name).map ofValue) := by
  have named : ((ofMembers record.toList).filter fun member => member.1 == some name) =
      ((record.get? name).map fun value => (some name, ofValue value)).toList := by
    have sameName : ((fun member : Option String × Document => member.1 == some name) ∘
        fun member : String × Value => (some member.1, ofValue member.2)) =
          fun member => member.1 == name := by
      funext member
      simp
    rw [ofMembers_eq_map, List.filter_map, sameName, SortedMap.filter_toList_eq, List.map_map]
    cases record.get? name <;> rfl
  rw [part?, named]
  cases record.get? name <;> rfl

/-- The parts of a written record are found by their names. -/
theorem parts?_ofRecord (names : List String) (record : Record) :
    (ofValue (.ofRecord record)).parts? names =
      some (names.map fun name => (record.get? name).map ofValue) := by
  have readable : (ofMembers record.toList).all (·.1.isSome) = true := by
    simp [ofMembers_eq_map]
  have each : part? (ofMembers record.toList) =
      fun name => pure ((record.get? name).map ofValue) := by
    funext name
    exact part?_ofMembers record name
  rw [Value.ofRecord, ofValue, parts?, if_pos readable, each, List.mapM_pure]
  rfl

theorem mapM_eq_some_map {α β : Type} {read : α → Option β} {result : α → β} {items : List α}
    (each : ∀ item ∈ items, read item = some (result item)) :
    items.mapM read = some (items.map result) := by
  rw [mapM_eq_some_iff_forall₂, List.forall₂_map_right_iff]
  exact List.forall₂_same.mpr each

section Containers

variable {α : Type} {read : Document → Option α} {write : α → Value}

/-- A list is read again item by item. -/
theorem asList?_ofValue {items : List α}
    (each : ∀ item ∈ items, read (ofValue (write item)) = some item) :
    (ofValue (.array (items.map write))).asList? read = some items := by
  rw [ofValue, asList?, ofItems_eq_map, List.map_map, List.mapM_map]
  exact (mapM_eq_some_map each).trans (congrArg some (List.map_id _))

/-- A map is read again value by value. -/
theorem asMap?_ofValue {result : α → α} {map : SortedMap String α}
    (each : ∀ entry ∈ map.toList, read (ofValue (write entry.2)) = some (result entry.2)) :
    (ofValue (.ofRecord (map.mapValues fun _ => write))).asMap? read =
      some (map.mapValues fun _ => result) := by
  have bindings : (ofMembers (map.mapValues fun _ => write).toList).mapM
      (fun (member : Option String × Document) => do return (← member.1, ← read member.2)) =
        some (map.mapValues fun _ => result).toList := by
    rw [ofMembers_eq_map, List.mapM_map, SortedMap.toList, SortedMap.mapValues, List.mapM_map]
    apply mapM_eq_some_map
    intro entry member
    simp [each entry member]
  rw [Value.ofRecord, ofValue, asMap?, bindings, Option.bind_eq_bind, Option.bind_some,
    SortedMap.ofList_toList]
  rfl

end Containers

end Document

/-! ## Primary keys and indexes -/

open Document

theorem PrimaryKey.ofDocument?_toValue (key : PrimaryKey) :
    PrimaryKey.ofDocument? (ofValue key.toValue) = some key := by
  have parts : (ofValue key.toValue).parts? ["field", "auto_increment"] =
      some [some (.string key.field), some (.bool key.autoIncrement)] := by
    rw [toValue, Value.ofMembers, parts?_ofRecord]
    simp [SortedMap.ofList, SortedMap.get?_insert, ofValue]
  rw [PrimaryKey.ofDocument?, parts]
  rfl

theorem KeyPath.ofDocument?_toValue (path : KeyPath) :
    KeyPath.ofDocument? (ofValue path.toValue) = some path := by
  cases path with
  | single field => rfl
  | composite fields =>
      have strings : (ofValue (.array (fields.map .string))).asList? asString? = some fields :=
        asList?_ofValue fun _ _ => rfl
      exact congrArg (Option.map composite) strings

theorem IndexDescriptor.ofDocument?_toValue (index : IndexDescriptor) :
    IndexDescriptor.ofDocument? (ofValue index.toValue) = some index := by
  have parts : (ofValue index.toValue).parts? ["name", "unique", "key_path"] =
      some [some (.string index.name), some (.bool index.unique),
        some (ofValue index.keyPath.toValue)] := by
    rw [toValue, Value.ofMembers, parts?_ofRecord]
    simp [SortedMap.ofList, SortedMap.get?_insert, ofValue]
  rw [IndexDescriptor.ofDocument?, parts]
  simp [optional?, asString?, asBool?, KeyPath.ofDocument?_toValue]

/-! ## Fields -/

namespace Field

/-- A default as it comes back: `null` is none. -/
def defined? : Value → Option Value
  | .null => none
  | value => some value

/-- A field as it comes back. -/
def withoutNullDefault (field : Field) : Field :=
  { field with default := field.default.bind defined? }

theorem defined?_of_ne {value : Value} (defined : value ≠ .null) :
    defined? value = some value := by
  cases value with
  | null => contradiction
  | _ => rfl

theorem withoutNullDefault_eq_iff {field : Field} :
    field.withoutNullDefault = field ↔ field.default ≠ some .null := by
  rcases field with ⟨type, _ | value⟩
  · simp [withoutNullDefault]
  · constructor
    · rintro same ⟨⟩
      cases congrArg Field.default same
    · intro defined
      have kept := defined?_of_ne fun null => defined (congrArg some null)
      rw [withoutNullDefault, Option.bind_some, kept]

theorem defaultOfDocument?_ofValue {value : Value} (canonical : value.Canonical) :
    defaultOfDocument? (ofValue value) = some (defined? value) := by
  have read := toValue?_ofValue value canonical
  cases value with
  | null => rfl
  | _ => exact congrArg (Option.map some) read

/-- The default of a field, if there is one, is canonical. -/
def Canonical (field : Field) : Prop :=
  ∀ value, field.default = some value → value.Canonical

/-- A field is read again from what it writes, without a default that is `null`. -/
theorem ofDocument?_toValue {field : Field} (canonical : field.Canonical) :
    Field.ofDocument? (ofValue field.toValue) = some field.withoutNullDefault := by
  have parts : (ofValue field.toValue).parts? ["type", "default"] =
      some [some (.string field.type.name), field.default.map ofValue] := by
    rw [toValue, Value.ofMembers, parts?_ofRecord]
    cases field.default <;> simp [SortedMap.ofList, SortedMap.get?_insert, ofValue]
  have type : optional? FieldType.ofDocument? .any (some (.string field.type.name)) =
      some field.type := FieldType.ofName?_name field.type
  have default : optional? defaultOfDocument? none (field.default.map ofValue) =
      some field.withoutNullDefault.default := by
    cases held : field.default with
    | none => rw [withoutNullDefault, held]; rfl
    | some value =>
        rw [withoutNullDefault, held]
        exact defaultOfDocument?_ofValue (canonical value held)
  simp only [Field.ofDocument?, parts, Option.bind_eq_bind, Option.bind_some, type, default]
  rfl

end Field

/-! ## Record types -/

namespace RecordType

/-- The defaults of all fields are canonical. -/
def Canonical (type : RecordType) : Prop :=
  ∀ entry ∈ type.fields.toList, entry.2.Canonical

/-- A record type as it comes back. -/
def withoutNullDefaults (type : RecordType) : RecordType :=
  { type with fields := type.fields.mapValues fun _ => Field.withoutNullDefault }

/-- A record type is read again from what it writes, without the defaults that are
`null`. -/
theorem ofDocument?_toValue {type : RecordType} (canonical : type.Canonical) :
    RecordType.ofDocument? (ofValue type.toValue) = some type.withoutNullDefaults := by
  have parts : (ofValue type.toValue).parts? ["store_name", "fields", "primary_key", "indexes"] =
      some [some (.string type.storeName),
        some (ofValue (.ofRecord (type.fields.mapValues fun _ => Field.toValue))),
        some (ofValue type.primaryKey.toValue),
        some (ofValue (.array (type.indexes.map IndexDescriptor.toValue)))] := by
    rw [toValue, Value.ofMembers, parts?_ofRecord]
    simp [SortedMap.ofList, SortedMap.get?_insert, ofValue]
  have fields := asMap?_ofValue fun entry member =>
    Field.ofDocument?_toValue (canonical entry member)
  have indexes := asList?_ofValue fun index (_ : index ∈ type.indexes) =>
    IndexDescriptor.ofDocument?_toValue index
  simp only [RecordType.ofDocument?, parts, Option.bind_eq_bind, Option.bind_some, asString?,
    optional?, fields, PrimaryKey.ofDocument?_toValue, indexes]
  rfl

/-- A record type comes back as it was exactly if no default is `null`. -/
theorem withoutNullDefaults_eq_iff {type : RecordType} :
    type.withoutNullDefaults = type ↔
      ∀ name field, type.fields.get? name = some field → field.default ≠ some .null := by
  constructor
  · intro same name field declared
    have fields := congrArg (·.fields.get? name) same
    simp only [withoutNullDefaults, SortedMap.get?_mapValues, declared, Option.map_some,
      Option.some.injEq] at fields
    exact Field.withoutNullDefault_eq_iff.mp fields
  · intro defined
    have fields : (type.fields.mapValues fun _ => Field.withoutNullDefault) = type.fields := by
      apply SortedMap.ext_get?
      intro name
      rw [SortedMap.get?_mapValues]
      cases declared : type.fields.get? name with
      | none => rfl
      | some field =>
          exact congrArg some (Field.withoutNullDefault_eq_iff.mpr (defined name field declared))
    rw [withoutNullDefaults, fields]

/-- Fewer defaults have no more faults. -/
theorem defaultFault?_withoutNullDefault {store : String} {fields : List (String × Field)}
    (accepted : defaultFault? store fields = none) :
    defaultFault? store (fields.map fun entry => (entry.1, entry.2.withoutNullDefault)) =
      none := by
  induction fields with
  | nil => rfl
  | cons entry rest inductionHypothesis =>
      rcases entry with ⟨name, type, _ | value⟩
      · exact inductionHypothesis accepted
      · simp only [defaultFault?] at accepted
        split at accepted
        · rename_i typed
          cases value with
          | null => exact inductionHypothesis accepted
          | _ =>
              simp only [List.map_cons, Field.withoutNullDefault, Option.bind_some,
                Field.defined?, defaultFault?, if_pos typed]
              exact inductionHypothesis accepted
        · contradiction

/-- What is valid comes back valid. -/
theorem validate_withoutNullDefaults {type : RecordType} (valid : type.validate = .ok ()) :
    type.withoutNullDefaults.validate = .ok () := by
  rcases validate_eq_ok_iff.mp valid with ⟨storeName, primaryField, defaults, indexes⟩
  exact validate_eq_ok_iff.mpr
    ⟨storeName, primaryField, defaultFault?_withoutNullDefault defaults, indexes⟩

end RecordType

/-! ## What was read -/

namespace Document

/-- Only the document `null` is read as `null`. -/
theorem toValue?_ne_null {document : Document} (other : document ≠ .null) :
    document.toValue? ≠ some .null := by
  cases document with
  | null => contradiction
  | array items =>
      intro read
      rcases Option.map_eq_some_iff.mp read with ⟨_, _, null⟩
      contradiction
  | object members =>
      intro read
      rcases Option.map_eq_some_iff.mp read with ⟨_, _, null⟩
      contradiction
  | _ => nofun

theorem exists_of_mem_mapM {α β : Type} {read : α → Option β} {items : List α}
    {results : List β} (ran : items.mapM read = some results) {result : β}
    (member : result ∈ results) : ∃ item ∈ items, read item = some result := by
  induction items generalizing results with
  | nil =>
      cases ran
      contradiction
  | cons item rest inductionHypothesis =>
      simp only [List.mapM_cons, Option.bind_eq_bind, Option.bind_eq_some_iff] at ran
      rcases ran with ⟨first, firstRead, others, othersRead, ⟨⟩⟩
      rcases List.mem_cons.mp member with rfl | later
      · exact ⟨item, List.mem_cons_self, firstRead⟩
      · rcases inductionHypothesis othersRead later with ⟨found, held, foundRead⟩
        exact ⟨found, List.mem_cons_of_mem _ held, foundRead⟩

/-- Every value of a map that was read was read itself. -/
theorem exists_of_mem_asMap? {α : Type} {read : Document → Option α} {part : Option Document}
    {map : SortedMap String α} (ran : optional? (·.asMap? read) .empty part = some map)
    {entry : String × α} (member : entry ∈ map.toList) :
    ∃ document, read document = some entry.2 := by
  cases part with
  | none =>
      cases ran
      contradiction
  | some document =>
      simp only [optional?, asMap?] at ran
      split at ran
      · rcases Option.bind_eq_some_iff.mp ran with ⟨bindings, bindingsRead, ⟨⟩⟩
        rcases exists_of_mem_mapM bindingsRead (SortedMap.mem_of_mem_ofList member) with
          ⟨_, _, entryRead⟩
        simp only [Option.bind_eq_bind, Option.bind_eq_some_iff] at entryRead
        rcases entryRead with ⟨_, _, value, valueRead, ⟨⟩⟩
        exact ⟨_, valueRead⟩
      · contradiction

end Document

/-- A default that was read is canonical and not `null`. -/
theorem Field.canonical_of_defaultOfDocument? {part : Option Document} {value : Value}
    (read : optional? defaultOfDocument? none part = some (some value)) :
    value.Canonical ∧ value ≠ .null := by
  cases part with
  | none => cases Option.some.inj read
  | some document =>
      simp only [optional?, defaultOfDocument?] at read
      split at read
      · cases Option.some.inj read
      · rename_i defined
        rcases Option.map_eq_some_iff.mp read with ⟨_, valueRead, ⟨⟩⟩
        constructor
        · exact canonical_of_toValue? document valueRead
        · rintro rfl
          exact toValue?_ne_null defined valueRead

theorem Field.canonical_of_ofDocument? {document : Document} {field : Field}
    (read : Field.ofDocument? document = some field) :
    field.Canonical ∧ field.default ≠ some .null := by
  simp only [Field.ofDocument?, Option.bind_eq_bind, Option.bind_eq_some_iff] at read
  rcases read with ⟨parts, _, read⟩
  split at read
  · simp only [Option.bind_eq_some_iff] at read
    rcases read with ⟨type, _, default, defaultRead, ⟨⟩⟩
    constructor
    · rintro value rfl
      exact (canonical_of_defaultOfDocument? defaultRead).1
    · rintro rfl
      exact (canonical_of_defaultOfDocument? defaultRead).2 rfl
  · contradiction

theorem RecordType.canonical_of_ofDocument? {document : Document} {type : RecordType}
    (read : RecordType.ofDocument? document = some type) :
    type.Canonical ∧ type.withoutNullDefaults = type := by
  simp only [RecordType.ofDocument?, Option.bind_eq_bind, Option.bind_eq_some_iff] at read
  rcases read with ⟨parts, _, read⟩
  split at read
  · simp only [Option.bind_eq_some_iff] at read
    rcases read with ⟨_, _, storeName, _, fields, fieldsRead, primaryKey, _, indexes, _, ⟨⟩⟩
    have each : ∀ entry ∈ fields.toList, entry.2.Canonical ∧ entry.2.default ≠ some .null := by
      intro entry member
      rcases exists_of_mem_asMap? fieldsRead member with ⟨_, fieldRead⟩
      exact Field.canonical_of_ofDocument? fieldRead
    constructor
    · exact fun entry member => (each entry member).1
    · apply withoutNullDefaults_eq_iff.mpr
      intro name field declared
      exact (each (name, field) (SortedMap.get?_eq_some_iff.mp declared)).2
  · contradiction

/-- A record type that was read from a document is read again from what it writes, as
it is. -/
theorem RecordType.ofDocument?_again {document : Document} {type : RecordType}
    (read : RecordType.ofDocument? document = some type) :
    RecordType.ofDocument? (ofValue type.toValue) = some type := by
  rcases canonical_of_ofDocument? read with ⟨canonical, same⟩
  rw [ofDocument?_toValue canonical, same]

/-- A record type is read again from the document that writes it out, exactly as it was if no
default is `null`, and without that default otherwise. -/
theorem RecordType.read_written {type : RecordType} (canonical : type.Canonical) :
    RecordType.ofDocument? (ofValue type.toValue) = some type.withoutNullDefaults ∧
    (type.validate = .ok () → type.withoutNullDefaults.validate = .ok ()) ∧
    (RecordType.ofDocument? (ofValue type.toValue) = some type ↔
      ∀ name field, type.fields.get? name = some field → field.default ≠ some .null) := by
  have read := ofDocument?_toValue canonical
  refine ⟨read, validate_withoutNullDefaults, ?_⟩
  rw [read, Option.some.injEq]
  exact withoutNullDefaults_eq_iff

/-- A default that is an object, with `null` inside, and keys of one and of two fields
come back as they were. -/
theorem RecordType.read_written_nested :
    let settings : Value := .object [("mail", .null), ("tags", .array [.string "new"])]
    let type := (((RecordType.named "student").withField "settings"
      ⟨.object, some settings⟩).withIndex ⟨"by_name", false, .single "name"⟩).withIndex
        ⟨"by_place", true, .composite ["hostel", "bed"]⟩
    type.Canonical ∧ type.validate = .ok () ∧
      RecordType.ofDocument? (ofValue type.toValue) = some type := by
  intro settings type
  have ascending : SortedMap.Ascending [("mail", Value.null), ("tags", .array [.string "new"])] :=
    List.pairwise_pair.mpr (by decide)
  have nested : settings.Canonical :=
    ⟨ascending, trivial, ⟨trivial, trivial⟩, trivial⟩
  have canonical : type.Canonical := by
    intro entry member
    rcases List.mem_singleton.mp member with rfl
    rintro _ ⟨⟩
    exact nested
  have faultless : type.fault?.isNone = true := by decide +kernel
  have valid : type.validate = .ok () := by
    rw [validate, Option.isNone_iff_eq_none.mp faultless]
  refine ⟨canonical, valid, (read_written canonical).2.2.mpr ?_⟩
  intro name field declared
  rcases List.mem_singleton.mp (SortedMap.get?_eq_some_iff.mp declared) with ⟨⟩
  exact fun null => Value.noConfusion (Option.some.inj null)

/-- A default of `null` is valid and filled in. The record type that is read from what is written
has no default and leaves the field out. -/
theorem RecordType.null_default_lost :
    let type := (RecordType.named "student").withField "n" { default := some .null }
    type.build = .ok type ∧ type.Canonical ∧
      RecordType.ofDocument? (ofValue type.toValue) ≠ some type ∧
      (Record.withDefaults .empty type).contains "n" = true ∧
      (RecordType.ofDocument? (ofValue type.toValue)).map
        (fun read => (Record.withDefaults .empty read).contains "n") = some false := by
  intro type
  have canonical : type.Canonical := by
    intro entry member
    rcases List.mem_singleton.mp member with rfl
    rintro _ ⟨⟩
    trivial
  have filled : (Record.withDefaults .empty type).contains "n" = true := by decide +kernel
  have left : (RecordType.ofDocument? (ofValue type.toValue)).map
      (fun read => (Record.withDefaults .empty read).contains "n") = some false := by
    decide +kernel
  have faultless : type.fault?.isNone = true := by decide +kernel
  have built : type.build = .ok type := by
    rw [build, validate, Option.isNone_iff_eq_none.mp faultless]
    rfl
  refine ⟨built, canonical, ?_, filled, left⟩
  intro same
  rw [same, Option.map_some, filled] at left
  contradiction

end RecordBase
