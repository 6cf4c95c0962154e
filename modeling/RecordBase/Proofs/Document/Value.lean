import RecordBase.Document.Basic
import RecordBase.SortedMap.Lemmas

/-!
# Documents that write out values

The members of an object stand in ascending order of their names, and no name comes
twice. A value that keeps to this all the way down is read again from the document that
writes it out, and every value that is read from a document keeps to it.
-/

namespace RecordBase

namespace Value

mutual

/-- The members of every object in a value ascend. -/
def Canonical : Value → Prop
  | .array items => CanonicalItems items
  | .object members => SortedMap.Ascending members ∧ CanonicalMembers members
  | _ => True
termination_by structural value => value

/-- The items of an array are canonical. -/
def CanonicalItems : List Value → Prop
  | [] => True
  | item :: rest => item.Canonical ∧ CanonicalItems rest
termination_by structural items => items

/-- The values of an object's members are canonical. -/
def CanonicalMembers : List (String × Value) → Prop
  | [] => True
  | (_, value) :: rest => value.Canonical ∧ CanonicalMembers rest
termination_by structural members => members

end

theorem canonicalMembers_iff {members : List (String × Value)} :
    CanonicalMembers members ↔ ∀ member ∈ members, member.2.Canonical := by
  induction members with
  | nil => simp [CanonicalMembers]
  | cons member rest inductionHypothesis =>
      rw [CanonicalMembers, inductionHypothesis, List.forall_mem_cons]

/-- The object of canonical members is canonical: it binds every name once. -/
theorem canonical_ofMembers {members : List (String × Value)}
    (each : CanonicalMembers members) : (ofMembers members).Canonical := by
  constructor
  · exact (SortedMap.ofList members).ascending
  · apply canonicalMembers_iff.mpr
    intro member kept
    exact canonicalMembers_iff.mp each member (SortedMap.mem_of_mem_ofList kept)

/-- Canonical members are those of their object. -/
theorem ofMembers_eq_object {members : List (String × Value)}
    (ascending : SortedMap.Ascending members) : ofMembers members = .object members :=
  congrArg object (SortedMap.toList_ofList ascending)

end Value

namespace Document

mutual

/-- A canonical value is read again as it was written. -/
theorem toValue?_ofValue : ∀ value : Value, value.Canonical →
    (ofValue value).toValue? = some value
  | .null, _ => rfl
  | .bool _, _ => rfl
  | .number _, _ => rfl
  | .string _, _ => rfl
  | .array items, canonical => by
      rw [ofValue, toValue?, itemValues?_ofItems items canonical, Option.map_some]
  | .object members, canonical => by
      rw [ofValue, toValue?, memberValues?_ofMembers members canonical.2, Option.map_some,
        Value.ofMembers_eq_object canonical.1]

theorem itemValues?_ofItems : ∀ items : List Value, Value.CanonicalItems items →
    itemValues? (ofItems items) = some items
  | [], _ => rfl
  | item :: rest, canonical => by
      rw [ofItems, itemValues?, toValue?_ofValue item canonical.1,
        itemValues?_ofItems rest canonical.2]

theorem memberValues?_ofMembers : ∀ members : List (String × Value),
    Value.CanonicalMembers members → memberValues? (ofMembers members) = some members
  | [], _ => rfl
  | (name, value) :: rest, canonical => by
      have first := toValue?_ofValue value canonical.1
      have others := memberValues?_ofMembers rest canonical.2
      simp only [ofMembers, memberValues?, first, others]

end

mutual

/-- A value that is read from a document is canonical. -/
theorem canonical_of_toValue? : ∀ (document : Document) {value : Value},
    document.toValue? = some value → value.Canonical
  | .null, _ => by rintro ⟨⟩; trivial
  | .bool _, _ => by rintro ⟨⟩; trivial
  | .number _, _ => by rintro ⟨⟩; trivial
  | .string _, _ => by rintro ⟨⟩; trivial
  | .array items, _ => by
      intro read
      rcases Option.map_eq_some_iff.mp read with ⟨values, itemsRead, rfl⟩
      exact canonical_of_itemValues? items itemsRead
  | .object members, _ => by
      intro read
      rcases Option.map_eq_some_iff.mp read with ⟨values, membersRead, rfl⟩
      exact Value.canonical_ofMembers (canonical_of_memberValues? members membersRead)
  | .unreadable, _ => nofun

theorem canonical_of_itemValues? : ∀ (items : List Document) {values : List Value},
    itemValues? items = some values → Value.CanonicalItems values
  | [], _ => by rintro ⟨⟩; trivial
  | item :: rest, _ => by
      intro read
      rw [itemValues?] at read
      split at read
      · rename_i value values itemRead restRead
        cases read
        exact ⟨canonical_of_toValue? item itemRead, canonical_of_itemValues? rest restRead⟩
      · contradiction

theorem canonical_of_memberValues? : ∀ (members : List (Option String × Document))
    {values : List (String × Value)}, memberValues? members = some values →
      Value.CanonicalMembers values
  | [], _ => by rintro ⟨⟩; trivial
  | (name, document) :: rest, _ => by
      intro read
      unfold memberValues? at read
      split at read
      · rename_i name value values nameRead valueRead restRead
        cases read
        exact ⟨canonical_of_toValue? document valueRead,
          canonical_of_memberValues? rest restRead⟩
      · contradiction

end

end Document

end RecordBase
