import Mathlib.Data.List.Nodup
import RecordBase.Proofs.Schema.Catalog
import RecordBase.Proofs.Schema.Declaration
import RecordBase.Proofs.Value.Number

/-!
# Accepted configurations

A configuration is usable if no name in it is blank, its version is at least `1`, every
default has the type of its field, and the names are distinct that have to be: of stores, of
the indexes of one store, of the fields of one key. The checks accept just the usable
configurations. The catalog of such a configuration holds its record types in the order of
their store names. A document is read just if it declares a usable configuration, whose version
it may give by any number that equals it.
-/

namespace RecordBase

/-! ## Usable declarations -/

/-- A key path names a field, or a list of distinct fields that is not empty. -/
def KeyPath.Usable : KeyPath → Prop
  | .single field => Text.isBlank field = false
  | .composite fields =>
      fields ≠ [] ∧ (∀ field ∈ fields, Text.isBlank field = false) ∧ fields.Nodup

/-- An index that can be kept. -/
structure IndexDescriptor.Usable (index : IndexDescriptor) : Prop where
  name : Text.isBlank index.name = false
  keyPath : index.keyPath.Usable

/-- A record type that a store can be kept for. -/
structure RecordType.Usable (type : RecordType) : Prop where
  storeName : Text.isBlank type.storeName = false
  primaryField : Text.isBlank type.primaryField = false
  /-- A default is of the kind that the type of its field names, unless this admits all. -/
  defaults : ∀ name field value, type.fields.get? name = some field →
    field.default = some value → field.type = .any ∨ value.kind.name = field.type.name
  indexes : ∀ index ∈ type.indexes, index.Usable
  indexNames : (type.indexes.map (·.name)).Nodup

/-- A configuration that a database can be opened with. -/
structure Configuration.Usable (configuration : Configuration) : Prop where
  name : Text.isBlank configuration.name = false
  version : 1 ≤ configuration.version
  types : ∀ type ∈ configuration.types, type.Usable
  storeNames : (configuration.types.map (·.storeName)).Nodup

/-! ## Checks of declarations -/

theorem FieldType.accepts_iff {type : FieldType} {value : Value} :
    type.accepts value = true ↔ type = .any ∨ value.kind.name = type.name := by
  cases type <;> cases value <;> simp [accepts, Value.kind, Value.Kind.name, name]

theorem KeyPath.fault?_eq_none_iff {path : KeyPath} : path.fault? = none ↔ path.Usable := by
  cases path with
  | single field =>
      rw [fault?, Usable]
      cases Text.isBlank field <;> simp
  | composite fields =>
      cases fields with
      | nil => simp [fault?, Usable]
      | cons field rest =>
          have checked : (composite (field :: rest)).fault? =
              IndexFault.inFields? [] (field :: rest) := rfl
          rw [checked, IndexFault.inFields?_eq_none_iff, Usable]
          simp

theorem IndexDescriptor.fault?_eq_none_iff_usable {index : IndexDescriptor} :
    index.fault? = none ↔ index.Usable := by
  rw [fault?_eq_none_iff, KeyPath.fault?_eq_none_iff]
  exact ⟨fun both => ⟨both.1, both.2⟩, fun usable => ⟨usable.name, usable.keyPath⟩⟩

theorem RecordType.fault?_eq_none_iff_usable {type : RecordType} :
    type.fault? = none ↔ type.Usable := by
  have defaults : defaultFault? type.storeName type.fields.toList = none ↔
      ∀ name field value, type.fields.get? name = some field → field.default = some value →
        field.type = .any ∨ value.kind.name = field.type.name := by
    rw [defaultFault?_eq_none_iff, Prod.forall]
    simp only [FieldType.accepts_iff, SortedMap.get?_eq_some_iff]
    constructor
    · intro typed name field value declared default
      exact typed name field declared value default
    · intro typed name field declared value default
      exact typed name field value declared default
  rw [fault?_eq_none_iff, defaults, indexFault?_eq_none_iff]
  simp only [IndexDescriptor.fault?_eq_none_iff_usable, List.not_mem_nil, false_implies,
    implies_true, and_true]
  constructor
  · rintro ⟨storeName, primaryField, typed, indexes, indexNames⟩
    exact ⟨storeName, primaryField, typed, indexes, indexNames⟩
  · rintro ⟨storeName, primaryField, typed, indexes, indexNames⟩
    exact ⟨storeName, primaryField, typed, indexes, indexNames⟩

namespace Configuration

variable {configuration : Configuration}

/-- Record types are accepted if each has no fault and their stores are new and their own. -/
theorem typeFault?_eq_none_iff {seen : List String} {types : List RecordType} :
    typeFault? seen types = none ↔
      (∀ type ∈ types, type.fault? = none) ∧ (types.map (·.storeName)).Nodup ∧
        ∀ name ∈ seen, name ∉ types.map (·.storeName) := by
  induction types generalizing seen with
  | nil => simp [typeFault?]
  | cons type rest inductionHypothesis =>
      rw [List.map_cons, apart_cons_iff, List.forall_mem_cons, typeFault?]
      cases fault : type.fault? with
      | some fault => simp
      | none =>
          by_cases known : type.storeName ∈ seen
          · simp [known]
          · simp [known, inductionHypothesis]

theorem fault?_eq_none_iff_usable : configuration.fault? = none ↔ configuration.Usable := by
  have parts : configuration.fault? = none ↔
      Text.isBlank configuration.name = false ∧ configuration.version ≠ 0 ∧
        typeFault? [] configuration.types = none := by
    unfold fault?
    cases Text.isBlank configuration.name with
    | true => simp
    | false => by_cases unset : configuration.version = 0 <;> simp [unset]
  rw [parts, typeFault?_eq_none_iff]
  simp only [RecordType.fault?_eq_none_iff_usable, List.not_mem_nil, false_implies,
    implies_true, and_true]
  constructor
  · rintro ⟨name, version, types, storeNames⟩
    exact ⟨name, Nat.one_le_iff_ne_zero.mpr version, types, storeNames⟩
  · rintro ⟨name, version, types, storeNames⟩
    exact ⟨name, Nat.one_le_iff_ne_zero.mp version, types, storeNames⟩

theorem validate_eq_ok_iff_isNone :
    configuration.validate = .ok () ↔ configuration.fault?.isNone = true := by
  rw [validate]
  cases configuration.fault? <;> simp

theorem validate_eq_ok_iff : configuration.validate = .ok () ↔ configuration.Usable := by
  rw [validate_eq_ok_iff_isNone, Option.isNone_iff_eq_none, fault?_eq_none_iff_usable]

/-! ## The catalog -/

/-- A usable configuration has a catalog, with each of its record types. -/
theorem exists_catalog (usable : configuration.Usable) :
    ∃ catalog, configuration.catalog = .ok catalog ∧
      ∀ name type, catalog.get? name = some type ↔
        type ∈ configuration.types ∧ type.storeName = name := by
  have valid : ∀ type ∈ configuration.types, type.validate = .ok () := by
    intro type declared
    rw [RecordType.validate, RecordType.fault?_eq_none_iff_usable.mpr (usable.types type declared)]
  obtain ⟨catalog, registered, held⟩ :=
    Catalog.exists_foldlM_register valid usable.storeNames .empty
  refine ⟨catalog, ?_, ?_⟩
  · rw [Configuration.catalog, validate_eq_ok_iff.mpr usable]
    exact registered
  · intro name type
    rw [held]
    simp [Catalog.get?, Catalog.empty]

/-- Only a usable configuration has a catalog. -/
theorem usable_of_catalog {catalog : Catalog} (accepted : configuration.catalog = .ok catalog) :
    configuration.Usable := by
  rw [← validate_eq_ok_iff]
  rw [Configuration.catalog] at accepted
  cases valid : configuration.validate with
  | ok _ => rfl
  | error error =>
      rw [valid] at accepted
      contradiction

theorem get?_catalog_eq_some_iff {catalog : Catalog}
    (accepted : configuration.catalog = .ok catalog) {name : String} {type : RecordType} :
    catalog.get? name = some type ↔ type ∈ configuration.types ∧ type.storeName = name := by
  obtain ⟨sameCatalog, sameAccepted, held⟩ := exists_catalog (usable_of_catalog accepted)
  obtain rfl := Except.ok.inj (accepted.symm.trans sameAccepted)
  exact held name type

/-- The catalog lists the record types of its configuration. -/
theorem mem_catalog_iff {catalog : Catalog} (accepted : configuration.catalog = .ok catalog)
    {type : RecordType} : type ∈ catalog.toList ↔ type ∈ configuration.types := by
  simp only [Catalog.toList, SortedMap.mem_values_iff]
  change (∃ name, catalog.get? name = some type) ↔ _
  simp [get?_catalog_eq_some_iff accepted]

/-- The catalog of a configuration lists its record types, each once. -/
theorem catalog_perm {catalog : Catalog} (accepted : configuration.catalog = .ok catalog) :
    catalog.toList.Perm configuration.types := by
  have distinct : catalog.toList.Nodup :=
    (Catalog.keyed_of_configuration accepted).nodup_storeNames.of_map _
  have declaredDistinct : configuration.types.Nodup :=
    (usable_of_catalog accepted).storeNames.of_map _
  rw [List.perm_ext_iff_of_nodup distinct declaredDistinct]
  exact fun type => mem_catalog_iff accepted

/-! ## Documents -/

/-- The version that is read is the integer within the limits that the number equals. -/
theorem versionOf?_eq_some_iff_exists {number : Number} {version : Nat} :
    versionOf? number = some version ↔
      ∃ n : Int, number.toRat = n ∧ (1 ≤ n ∧ n < versionLimit) ∧ n.toNat = version := by
  cases number with
  | int n fits =>
      have denotes : ∀ m : Int, (Number.int n fits).toRat = m ↔ n = m :=
        fun m => Rat.intCast_inj
      simp only [denotes, exists_eq_left', versionOf?, Option.ite_none_right_eq_some,
        Option.some.injEq]
  | real x finite =>
      have denotes : ∀ m : Int, (Number.real x finite).toRat = m ↔ x.toInt? = some m :=
        fun m => (Double.toInt?_eq_some_iff finite).symm
      simp only [denotes, versionOf?]
      cases x.toInt? with
      | none => simp
      | some n => simp

/-- A number is read as a version if it equals one, whether or not it is an integer by form. -/
theorem versionOf?_eq_some_iff {number : Number} {version : Nat} :
    versionOf? number = some version ↔
      number.toRat = version ∧ 1 ≤ version ∧ version < 2 ^ 32 := by
  rw [versionOf?_eq_some_iff_exists, versionLimit]
  constructor
  · rintro ⟨n, equal, ⟨positive, small⟩, rfl⟩
    have whole : ((n.toNat : Int) : Rat) = n := by rw [Int.toNat_of_nonneg (by omega)]
    refine ⟨?_, by omega, by omega⟩
    rw [equal, ← whole, Int.cast_natCast]
  · rintro ⟨equal, positive, small⟩
    refine ⟨version, ?_, ⟨by omega, by omega⟩, Int.toNat_natCast version⟩
    rw [equal, Int.cast_natCast]

/-- A configuration that is checked comes back if it is usable. -/
theorem checked_eq_ok_iff {checked : Configuration} :
    (do checked.validate; return checked) = Except.ok configuration ↔
      checked.Usable ∧ checked = configuration := by
  rw [← validate_eq_ok_iff]
  cases checked.validate with
  | ok _ => simp [bind, Except.bind, pure, Except.pure]
  | error error => simp [bind, Except.bind]

/-- A document is read as a configuration if it declares its parts, with a number that equals
its version, and the configuration is usable. -/
theorem ofDocument_eq_ok_iff {document : Document} :
    ofDocument document = .ok configuration ↔
      configuration.Usable ∧ configuration.version < 2 ^ 32 ∧ ∃ number,
        Declares document configuration.name number configuration.types ∧
        number.toRat = configuration.version := by
  simp only [← partsOf?_eq_some_iff]
  rw [ofDocument]
  rcases partsOf? document with _ | ⟨name, number, types⟩
  · simp
  · cases checked : versionOf? number with
    | none =>
        simp only [checked, reduceCtorEq, false_iff]
        rintro ⟨usable, small, _, ⟨⟩, equal⟩
        have accepted := versionOf?_eq_some_iff.mpr ⟨equal, usable.version, small⟩
        rw [checked] at accepted
        contradiction
    | some version =>
        rcases versionOf?_eq_some_iff.mp checked with ⟨equal, _, small⟩
        simp only [checked]
        rw [checked_eq_ok_iff]
        constructor
        · rintro ⟨usable, rfl⟩
          exact ⟨usable, small, number, rfl, equal⟩
        · rintro ⟨usable, _, _, ⟨⟩, same⟩
          have versions : version = configuration.version := by
            exact_mod_cast equal.symm.trans same
          rw [versions]
          exact ⟨usable, rfl⟩

/-- A usable configuration is read from the document that writes it out, whichever number
gives its version there. -/
theorem ofDocument_written_eq_ok_iff (writable : ∀ type ∈ configuration.types, type.Writable)
    {number : Number} :
    ofDocument (configuration.written number) = .ok configuration ↔
      configuration.Usable ∧ configuration.version < 2 ^ 32 ∧
        number.toRat = configuration.version := by
  simp only [ofDocument_eq_ok_iff, declares_written_iff writable, exists_eq_left']

/-- Documents are read as the usable configurations that are written without loss. -/
theorem exists_ofDocument_eq_ok_iff :
    (∃ document, ofDocument document = .ok configuration) ↔
      configuration.Usable ∧ configuration.version < 2 ^ 32 ∧
        ∀ type ∈ configuration.types, type.Writable := by
  constructor
  · rintro ⟨document, read⟩
    rcases ofDocument_eq_ok_iff.mp read with ⟨usable, small, _, declared, _⟩
    exact ⟨usable, small, declared.writable⟩
  · rintro ⟨usable, small, writable⟩
    have fits : -2 ^ 63 ≤ (configuration.version : Int) ∧
        (configuration.version : Int) < 2 ^ 64 := by omega
    have equal : (Number.int configuration.version fits).toRat = configuration.version :=
      Int.cast_natCast configuration.version
    exact ⟨_, (ofDocument_written_eq_ok_iff writable).mpr ⟨usable, small, equal⟩⟩

theorem ofText_eq_ok_iff {text : String} :
    ofText text = .ok configuration ↔ ∃ document,
      Document.read? text = some document ∧ ofDocument document = .ok configuration := by
  rw [ofText]
  cases Document.read? text <;> simp

/-- The checks accept the usable configurations, the catalog lists their record types, and the
documents that declare them are read, with any number for the version that equals it. -/
theorem accepted_iff_usable (configuration : Configuration) :
    (configuration.validate = .ok () ↔ configuration.Usable) ∧
    ((∃ catalog, configuration.catalog = .ok catalog) ↔ configuration.Usable) ∧
    (∀ catalog, configuration.catalog = .ok catalog →
      catalog.toList.Perm configuration.types ∧
        (catalog.toList.map (·.storeName)).Pairwise (· < ·) ∧
        ∀ name type, catalog.get? name = some type ↔
          type ∈ configuration.types ∧ type.storeName = name) ∧
    (∀ document, ofDocument document = .ok configuration ↔
      configuration.Usable ∧ configuration.version < 2 ^ 32 ∧ ∃ number,
        Declares document configuration.name number configuration.types ∧
        number.toRat = configuration.version) ∧
    ((∀ type ∈ configuration.types, type.Writable) → ∀ number,
      ofDocument (configuration.written number) = .ok configuration ↔
        configuration.Usable ∧ configuration.version < 2 ^ 32 ∧
          number.toRat = configuration.version) ∧
    ((∃ document, ofDocument document = .ok configuration) ↔
      configuration.Usable ∧ configuration.version < 2 ^ 32 ∧
        ∀ type ∈ configuration.types, type.Writable) ∧
    (∀ text, ofText text = .ok configuration ↔ ∃ document,
      Document.read? text = some document ∧ ofDocument document = .ok configuration) ∧
    ∀ number version, versionOf? number = some version ↔
      number.toRat = version ∧ 1 ≤ version ∧ version < 2 ^ 32 := by
  refine ⟨validate_eq_ok_iff, ⟨?_, ?_⟩, ?_, fun document => ofDocument_eq_ok_iff,
    fun writable number => ofDocument_written_eq_ok_iff writable, exists_ofDocument_eq_ok_iff,
    fun text => ofText_eq_ok_iff, fun number version => versionOf?_eq_some_iff⟩
  · rintro ⟨catalog, accepted⟩
    exact usable_of_catalog accepted
  · intro usable
    rcases exists_catalog usable with ⟨catalog, accepted, _⟩
    exact ⟨catalog, accepted⟩
  · intro catalog accepted
    exact ⟨catalog_perm accepted,
      (Catalog.keyed_of_configuration accepted).pairwise_storeNames,
      fun name type => get?_catalog_eq_some_iff accepted⟩

/-- A configuration is read from what it writes out, and from members in another order and
among others, with the version `3.0`. -/
theorem accepted_iff_usable_by_point :
    let three := Number.real (.ofMagnitude false 0x4008000000000000) (by decide)
    let type := (RecordType.named "student").withIndex
      ⟨"by_bed", true, .composite ["hostel", "bed"]⟩
    let configuration : Configuration := ⟨"school", 3, [type]⟩
    configuration.validate = .ok () ∧
    (∃ catalog, configuration.catalog = .ok catalog ∧ catalog.get? "student" = some type) ∧
    ofDocument (configuration.written three) = .ok configuration ∧
    ofDocument (.object
      [ (some "version", .number three)
      , (some "note", .null)
      , (some "record_types", .array [.ofValue type.toValue])
      , (some "name", .string "school") ]) = .ok configuration := by
  intro three type configuration
  rcases accepted_iff_usable configuration with
    ⟨validated, cataloged, listed, read, writtenRead, _⟩
  have valid : configuration.validate = .ok () := validate_eq_ok_iff_isNone.mpr (by decide +kernel)
  have usable := validated.mp valid
  have small : configuration.version < 2 ^ 32 := by decide
  have equal : three.toRat = configuration.version := by
    have version : versionOf? three = some configuration.version := by decide +kernel
    exact (versionOf?_eq_some_iff.mp version).1
  have writable : ∀ declared ∈ configuration.types, declared.Writable := by
    intro declared member
    rcases List.mem_singleton.mp member with rfl
    exact ⟨nofun, nofun⟩
  have typeRead := (writable type List.mem_cons_self).ofDocument?_toValue
  refine ⟨valid, ?_, (writtenRead writable three).mpr ⟨usable, small, equal⟩, ?_⟩
  · rcases cataloged.mpr usable with ⟨catalog, accepted⟩
    exact ⟨catalog, accepted, ((listed catalog accepted).2.2 "student" type).mpr
      ⟨List.mem_cons_self, rfl⟩⟩
  · refine (read _).mpr ⟨usable, small, three, ?_, equal⟩
    apply Declares.object (by simp) ⟨[_, _, _], _, rfl, by simp⟩ ⟨[], _, rfl, by simp⟩ ?_
      (.items (.cons typeRead .nil))
    exact ⟨[_, _], _, rfl, by simp⟩

/-- A decimal is rounded before it is checked, here to the greatest version. -/
example :
    (ofText "[\"school\",4294967295.0000003]").toOption.map (·.version) = some (2 ^ 32 - 1) := by
  decide +kernel

/-- Here it is rounded past the least version. -/
example : (ofText "[\"school\",1.0000000000000001100]").toOption.map (·.version) = none := by
  decide +kernel

end Configuration

end RecordBase
