import RecordBase.Proofs.Schema.Validation
import RecordBase.Schema.Configuration
import RecordBase.SortedMap.Lemmas

/-!
# Names in a catalog

A catalog holds each record type under the name of its store, and only record
types without fault. So no two of its record types have one store, and no two
indexes of one record type share a name.
-/

namespace RecordBase

namespace Catalog

/-- Record types stand under the names of their stores and have no fault. -/
def Keyed (catalog : Catalog) : Prop :=
  ∀ name type, catalog.get? name = some type → type.storeName = name ∧ type.fault? = none

theorem keyed_empty : Keyed .empty := by
  intro name type found
  cases found

theorem Keyed.register {catalog extended : Catalog} (keyed : catalog.Keyed) {type : RecordType}
    (registered : catalog.register type = .ok extended) : extended.Keyed := by
  unfold Catalog.register RecordType.validate at registered
  cases fault : type.fault? with
  | some error =>
      rw [fault] at registered
      contradiction
  | none =>
      rw [fault] at registered
      cases registered
      intro name held
      simp only [Catalog.get?, SortedMap.get?_insert]
      split
      · rename_i same
        rintro ⟨⟩
        exact ⟨Std.LawfulEqOrd.eq_of_compare same, fault⟩
      · exact keyed name held

theorem Keyed.foldlM_register {types : List RecordType} {catalog extended : Catalog}
    (keyed : catalog.Keyed) (registered : types.foldlM Catalog.register catalog = .ok extended) :
    extended.Keyed := by
  induction types generalizing catalog with
  | nil =>
      cases registered
      exact keyed
  | cons type rest inductionHypothesis =>
      rw [List.foldlM_cons] at registered
      cases first : catalog.register type with
      | error error =>
          rw [first] at registered
          contradiction
      | ok next =>
          rw [first] at registered
          exact inductionHypothesis (keyed.register first) registered

theorem keyed_of_configuration {configuration : Configuration} {catalog : Catalog}
    (accepted : configuration.catalog = .ok catalog) : catalog.Keyed := by
  unfold Configuration.catalog Configuration.validate at accepted
  cases fault : configuration.fault? with
  | some error =>
      rw [fault] at accepted
      contradiction
  | none =>
      rw [fault] at accepted
      exact keyed_empty.foldlM_register accepted

theorem Keyed.get?_of_mem {catalog : Catalog} (keyed : catalog.Keyed) {type : RecordType}
    (member : type ∈ catalog.toList) : catalog.get? type.storeName = some type := by
  obtain ⟨name, found⟩ := SortedMap.mem_values_iff.mp member
  obtain ⟨rfl, _⟩ := keyed name type found
  exact found

theorem Keyed.nodup_indexNames {catalog : Catalog} (keyed : catalog.Keyed) {type : RecordType}
    (member : type ∈ catalog.toList) : (type.indexes.map (·.name)).Nodup :=
  RecordType.nodup_indexNames (keyed _ type (keyed.get?_of_mem member)).2

/-- The record types are listed as their names are kept. -/
theorem Keyed.map_storeName {catalog : Catalog} (keyed : catalog.Keyed) :
    catalog.toList.map (·.storeName) = catalog.types.keys := by
  simp only [toList, SortedMap.values, SortedMap.keys, List.map_map]
  apply List.map_congr_left
  rintro ⟨name, type⟩ member
  exact (keyed name type (SortedMap.get?_eq_some_iff.mpr member)).1

/-- No two record types have one store. -/
theorem Keyed.nodup_storeNames {catalog : Catalog} (keyed : catalog.Keyed) :
    (catalog.toList.map (·.storeName)).Nodup := by
  rw [keyed.map_storeName]
  exact SortedMap.nodup_keys catalog.types

/-- The record types are listed in the order of their stores. -/
theorem Keyed.pairwise_storeNames {catalog : Catalog} (keyed : catalog.Keyed) :
    (catalog.toList.map (·.storeName)).Pairwise (· < ·) := by
  rw [keyed.map_storeName, SortedMap.keys, List.pairwise_map]
  exact catalog.types.ascending.imp compareOfLessAndEq_eq_lt.mp

/-! ## Catalogs of distinct record types -/

theorem register_of_validate {catalog : Catalog} {type : RecordType}
    (valid : type.validate = .ok ()) :
    catalog.register type = .ok ⟨catalog.types.insert type.storeName type⟩ := by
  rw [register, valid]
  rfl

/-- Valid record types for distinct stores are all registered, and only they are held beside
those of other stores that were held before. -/
theorem exists_foldlM_register {types : List RecordType}
    (valid : ∀ type ∈ types, type.validate = .ok ())
    (distinct : (types.map (·.storeName)).Nodup) (catalog : Catalog) :
    ∃ extended, types.foldlM register catalog = .ok extended ∧
      ∀ name type, extended.get? name = some type ↔
        (type ∈ types ∧ type.storeName = name) ∨
          catalog.get? name = some type ∧ name ∉ types.map (·.storeName) := by
  induction types generalizing catalog with
  | nil => exact ⟨catalog, rfl, by simp⟩
  | cons first rest inductionHypothesis =>
      rw [List.forall_mem_cons] at valid
      rw [List.map_cons, List.nodup_cons] at distinct
      obtain ⟨extended, registered, held⟩ := inductionHypothesis valid.2 distinct.2
        ⟨catalog.types.insert first.storeName first⟩
      refine ⟨extended, ?_, ?_⟩
      · rw [List.foldlM_cons, register_of_validate valid.1]
        exact registered
      · intro name type
        rw [held, List.mem_cons, List.map_cons, List.mem_cons, not_or]
        simp only [get?]
        by_cases own : first.storeName = name
        · subst own
          rw [SortedMap.get?_insert_self, Option.some.injEq]
          constructor
          · rintro (⟨member, same⟩ | ⟨rfl, _⟩)
            · exact .inl ⟨.inr member, same⟩
            · exact .inl ⟨.inl rfl, rfl⟩
          · rintro (⟨rfl | member, same⟩ | ⟨_, other, _⟩)
            · exact .inr ⟨rfl, distinct.1⟩
            · exact .inl ⟨member, same⟩
            · exact absurd rfl other
        · rw [SortedMap.get?_insert_of_ne _ _ own]
          constructor
          · rintro (⟨member, same⟩ | ⟨before, absent⟩)
            · exact .inl ⟨.inr member, same⟩
            · exact .inr ⟨before, fun same => own same.symm, absent⟩
          · rintro (⟨rfl | member, same⟩ | ⟨before, _, absent⟩)
            · exact absurd same own
            · exact .inl ⟨member, same⟩
            · exact .inr ⟨before, absent⟩

end Catalog

end RecordBase
