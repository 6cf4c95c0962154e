import RecordBase.Proofs.Schema.Codec
import RecordBase.Schema.Configuration

/-!
# Documents that declare a configuration

A document declares a name, a number for the version, and record types. It is an object with a
member for each of them, or an array of them in this order. The members of an object may come
in any order, and among others, but none of these names may come twice. Record types may be
left out. Just the documents of this form are read, each as what it declares.
-/

namespace RecordBase

namespace Document

variable {members : List (Option String × Document)} {name : String}

/-! ## Parts of an object -/

theorem asString?_eq_some_iff {document : Document} {text : String} :
    document.asString? = some text ↔ document = .string text := by
  cases document <;> simp [asString?]

theorem asNumber?_eq_some_iff {document : Document} {number : Number} :
    document.asNumber? = some number ↔ document = .number number := by
  cases document <;> simp [asNumber?]

/-- What an object has under a name that comes no more than once. -/
def HasPart (members : List (Option String × Document)) (name : String) : Option Document → Prop
  | none => ∀ member ∈ members, member.1 ≠ some name
  | some document => ∃ before after, members = before ++ (some name, document) :: after ∧
      ∀ member ∈ before ++ after, member.1 ≠ some name

theorem filter_eq_nil_iff_hasPart :
    members.filter (·.1 == some name) = [] ↔ HasPart members name none := by
  simp [HasPart]

theorem filter_eq_singleton_iff_hasPart {document : Document} :
    members.filter (·.1 == some name) = [(some name, document)] ↔
      HasPart members name (some document) := by
  rw [List.filter_eq_cons_iff]
  constructor
  · rintro ⟨before, after, rfl, absent, _, rest⟩
    refine ⟨before, after, rfl, ?_⟩
    intro member held
    rcases List.mem_append.mp held with front | back
    · simpa using absent member front
    · exact filter_eq_nil_iff_hasPart.mp rest member back
  · rintro ⟨before, after, rfl, absent⟩
    refine ⟨before, after, rfl, ?_, by simp, ?_⟩
    · intro member front
      simpa using absent member (List.mem_append_left _ front)
    · apply filter_eq_nil_iff_hasPart.mpr
      exact fun member back => absent member (List.mem_append_right _ back)

theorem part?_eq_some_iff {part : Option Document} :
    part? members name = some part ↔ HasPart members name part := by
  cases part with
  | none =>
      rw [← filter_eq_nil_iff_hasPart, part?]
      generalize members.filter (·.1 == some name) = kept
      rcases kept with _ | ⟨first, _ | ⟨second, rest⟩⟩ <;> simp
  | some document =>
      have named : ∀ member ∈ members.filter (·.1 == some name), member.1 = some name := by simp
      rw [← filter_eq_singleton_iff_hasPart, part?]
      generalize members.filter (·.1 == some name) = kept at named
      rcases kept with _ | ⟨⟨key, found⟩, _ | ⟨second, rest⟩⟩
      · simp
      · have same : key = some name := named (key, found) List.mem_cons_self
        simp [same]
      · simp

/-- The parts of an object whose member names can all be read. -/
theorem parts?_object_eq_some_iff {names : List String} {parts : List (Option Document)} :
    (object members).parts? names = some parts ↔
      (∀ member ∈ members, member.1 ≠ none) ∧ List.Forall₂ (HasPart members) names parts := by
  have readable : members.all (·.1.isSome) = true ↔ ∀ member ∈ members, member.1 ≠ none := by
    simp [Option.isSome_iff_ne_none]
  rw [parts?, Option.ite_none_right_eq_some, readable, mapM_eq_some_iff_forall₂]
  simp only [part?_eq_some_iff]

end Document

/-! ## Record types written without loss -/

/-- A record type none of whose defaults is lost when it is written. -/
structure RecordType.Writable (type : RecordType) : Prop where
  canonical : type.Canonical
  defaults : ∀ name field, type.fields.get? name = some field → field.default ≠ some .null

theorem RecordType.Writable.ofDocument?_toValue {type : RecordType} (writable : type.Writable) :
    RecordType.ofDocument? (Document.ofValue type.toValue) = some type := by
  rw [RecordType.ofDocument?_toValue writable.canonical,
    withoutNullDefaults_eq_iff.mpr writable.defaults]

/-- Every record type that is read from a document is written without loss. -/
theorem RecordType.writable_of_ofDocument? {document : Document} {type : RecordType}
    (read : RecordType.ofDocument? document = some type) : type.Writable := by
  rcases canonical_of_ofDocument? read with ⟨canonical, same⟩
  exact ⟨canonical, withoutNullDefaults_eq_iff.mp same⟩

namespace Configuration

/-! ## Declared configurations -/

open Document

variable {configuration : Configuration} {document : Document} {name : String} {number : Number}
  {types : List RecordType}

/-- Record types are the items of an array. Nothing stands for none of them. -/
inductive DeclaresTypes : Option Document → List RecordType → Prop
  | nothing : DeclaresTypes none []
  | items {items : List Document} {types : List RecordType}
      (each : List.Forall₂ (fun item type => RecordType.ofDocument? item = some type) items types) :
      DeclaresTypes (some (.array items)) types

/-- What a document declares, by the names of the members or by the places of the items. -/
inductive Declares : Document → String → Number → List RecordType → Prop
  | object {members : List (Option String × Document)} {name : String} {number : Number}
      {part : Option Document} {types : List RecordType}
      (readable : ∀ member ∈ members, member.1 ≠ none)
      (named : HasPart members "name" (some (.string name)))
      (numbered : HasPart members "version" (some (.number number)))
      (typed : HasPart members "record_types" part)
      (listed : DeclaresTypes part types) :
      Declares (.object members) name number types
  | array {name : String} {number : Number} {part : Option Document} {types : List RecordType}
      (listed : DeclaresTypes part types) :
      Declares (.array (.string name :: .number number :: part.toList)) name number types

theorem declaresTypes_iff {part : Option Document} :
    Document.optional? (·.asList? RecordType.ofDocument?) [] part = some types ↔
      DeclaresTypes part types := by
  constructor
  · intro read
    cases part with
    | none =>
        cases read
        exact .nothing
    | some document =>
        cases document with
        | array items => exact .items (mapM_eq_some_iff_forall₂.mp read)
        | _ => contradiction
  · intro listed
    cases listed with
    | nothing => rfl
    | items each => exact mapM_eq_some_iff_forall₂.mpr each

theorem partsOf?_eq_some_iff_parts? :
    partsOf? document = some (name, number, types) ↔ ∃ part,
      document.parts? ["name", "version", "record_types"] =
        some [some (.string name), some (.number number), part] ∧ DeclaresTypes part types := by
  constructor
  · intro read
    simp only [partsOf?, Option.bind_eq_bind, Option.bind_eq_some_iff] at read
    rcases read with ⟨parts, found, read⟩
    split at read
    · simp only [Option.bind_eq_some_iff, asString?_eq_some_iff, asNumber?_eq_some_iff] at read
      rcases read with ⟨_, rfl, _, rfl, _, rfl, _, rfl, _, listed, ⟨⟩⟩
      exact ⟨_, found, declaresTypes_iff.mp listed⟩
    · contradiction
  · rintro ⟨part, found, listed⟩
    rw [← declaresTypes_iff] at listed
    simp [partsOf?, found, asString?, asNumber?, listed]

/-- A document is read as the parts that it declares. -/
theorem partsOf?_eq_some_iff :
    partsOf? document = some (name, number, types) ↔ Declares document name number types := by
  rw [partsOf?_eq_some_iff_parts?]
  constructor
  · rintro ⟨part, found, listed⟩
    cases document with
    | object members =>
        rcases parts?_object_eq_some_iff.mp found with ⟨readable, each⟩
        simp only [List.forall₂_cons, List.forall₂_nil_left_iff, and_true] at each
        rcases each with ⟨named, numbered, typed⟩
        exact .object readable named numbered typed listed
    | array items =>
        rcases items with _ | ⟨first, _ | ⟨second, _ | ⟨third, _ | ⟨fourth, rest⟩⟩⟩⟩
        · simp [parts?] at found
        · simp [parts?] at found
        · have same : first = .string name ∧ second = .number number ∧ none = part := by
            simpa [parts?] using found
          rcases same with ⟨rfl, rfl, rfl⟩
          exact .array listed
        · have same : first = .string name ∧ second = .number number ∧ some third = part := by
            simpa [parts?] using found
          rcases same with ⟨rfl, rfl, rfl⟩
          exact .array listed
        · simp [parts?] at found
    | _ => contradiction
  · intro declared
    cases declared with
    | @object members _ _ part _ readable named numbered typed listed =>
        exact ⟨part, parts?_object_eq_some_iff.mpr
          ⟨readable, .cons named (.cons numbered (.cons typed .nil))⟩, listed⟩
    | @array _ _ part _ listed =>
        refine ⟨part, ?_, listed⟩
        cases part <;> rfl

theorem DeclaresTypes.writable {part : Option Document} (declared : DeclaresTypes part types) :
    ∀ type ∈ types, type.Writable := by
  cases declared with
  | nothing => nofun
  | items each =>
      intro type member
      rcases exists_of_mem_mapM (mapM_eq_some_iff_forall₂.mpr each) member with ⟨_, _, typeRead⟩
      exact RecordType.writable_of_ofDocument? typeRead

theorem Declares.writable (declared : Declares document name number types) :
    ∀ type ∈ types, type.Writable := by
  cases declared with
  | object _ _ _ _ listed => exact listed.writable
  | array listed => exact listed.writable

/-! ## Written configurations -/

/-- The document of a configuration, with a number for its version. -/
def written (configuration : Configuration) (number : Number) : Document :=
  .object
    [ (some "name", .string configuration.name)
    , (some "version", .number number)
    , (some "record_types",
        .array (configuration.types.map fun type => Document.ofValue type.toValue)) ]

/-- A configuration is declared by the document that writes it out. -/
theorem declares_written (writable : ∀ type ∈ configuration.types, type.Writable) :
    Declares (configuration.written number) configuration.name number configuration.types := by
  have each : List.Forall₂ (fun item type => RecordType.ofDocument? item = some type)
      (configuration.types.map fun type => Document.ofValue type.toValue)
      configuration.types := by
    rw [List.forall₂_map_left_iff, List.forall₂_same]
    exact fun type declared => (writable type declared).ofDocument?_toValue
  apply Declares.object (by simp) ⟨[], _, rfl, by simp⟩ ⟨[_], _, rfl, by simp⟩ ?_ (.items each)
  exact ⟨[_, _], _, rfl, by simp⟩

/-- The document that writes out a configuration declares no other version for it. -/
theorem declares_written_iff (writable : ∀ type ∈ configuration.types, type.Writable)
    {other : Number} :
    Declares (configuration.written number) configuration.name other configuration.types ↔
      number = other := by
  have read := partsOf?_eq_some_iff.mpr (@declares_written configuration number writable)
  rw [← partsOf?_eq_some_iff, read]
  simp

end Configuration

end RecordBase
