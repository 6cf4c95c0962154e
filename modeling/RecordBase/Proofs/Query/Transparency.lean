import RecordBase.Proofs.Query.Coverage
import RecordBase.Proofs.Traversal.Snapshot

/-!
# Transparency of indexes

A query finds the stored records that satisfy its clause, each once, whichever
indexes are declared. The source of a plan covers these records, so of those met
on the walk the same ones match; indexes decide only in which order they come.
-/

namespace RecordBase

namespace Traversal

/-- The traversal for a request about the records of a type. -/
def ofRequest (type : RecordType) (request : Request) (operation : Operation) (single : Bool) :
    Traversal :=
  ⟨.ofRequest type request, type.primaryField, operation, single⟩

variable {type : RecordType} {store : Store} {request : Request} {operation : Operation}
  {single : Bool}

theorem suits_ofRequest (agrees : type.Agrees store) :
    (ofRequest type request operation single).Suits store :=
  ⟨Plan.present_source agrees, agrees.primaryField⟩

theorem nodup_toList (records : SortedMap Key Record) : records.toList.Nodup := by
  apply List.Pairwise.imp _ records.ascending
  rintro first _ before rfl
  exact Key.lt_irrefl first.1 before

/-- The matches of a walk are the stored records that satisfy the clause. -/
theorem matching_rows_perm (agrees : type.Agrees store) (consistent : store.Consistent)
    (direction : Direction) :
    ((ofRequest type request operation single).matching
      ((Plan.ofRequest type request).source.rows store direction)).Perm
        (store.records.toList.filter fun row => request.clause.accepts row.2) := by
  apply (List.perm_ext_iff_of_nodup ((ScanSource.nodup_rows consistent).filter _)
    ((nodup_toList store.records).filter _)).mpr
  intro row
  rw [List.mem_filter, List.mem_filter, ScanSource.mem_rows_iff consistent,
    ← SortedMap.get?_eq_some_iff]
  constructor
  · rintro ⟨⟨stored, _⟩, accepted⟩
    exact ⟨stored, accepted⟩
  · rintro ⟨stored, accepted⟩
    exact ⟨⟨stored, Plan.covers_source agrees consistent stored accepted⟩, accepted⟩

/-- A traversal without skip and limit chooses all stored records that satisfy
the clause. -/
theorem chosen_perm (agrees : type.Agrees store) (consistent : store.Consistent)
    (clause : WhereClause) (order : List SortKey) :
    ((ofRequest type { clause, order } operation false).chosen store).Perm
      (store.records.toList.filter fun row => clause.accepts row.2) := by
  have candidates := @matching_rows_perm type store { clause, order } operation false agrees
    consistent
  simp only [chosen]
  split
  · rename_i zero
    exact absurd zero Bool.false_ne_true
  · split
    · exact candidates _
    · exact (List.mergeSort_perm _ _).trans (candidates _)

/-- Finding changes nothing and gives the records chosen. -/
theorem mapM_actOn_find {traversal : Traversal} (finds : traversal.operation = .find)
    (rows : List (Key × Record)) (transaction : Transaction) :
    rows.mapM traversal.actOn transaction = .ok (rows.map Prod.snd) transaction := by
  have gives : traversal.actOn = fun row => pure row.2 := by
    funext row
    simp only [actOn, finds]
  rw [gives, List.mapM_pure]
  rfl

/-- A traversal that finds gives the records chosen and changes nothing. -/
theorem records_run_find {traversal : Traversal} {transaction : Transaction}
    (consistent : transaction.store.Consistent) (suits : traversal.Suits transaction.store)
    (finds : traversal.operation = .find) :
    (Found.records <$> traversal.run) transaction =
      .ok ((traversal.chosen transaction.store).map Prod.snd) transaction := by
  rw [run_eq_mapM consistent suits, mapM_actOn_find finds]

/-- A query without skip and limit gives the stored records that satisfy its
clause. -/
theorem run_find_perm {type : RecordType} {transaction : Transaction}
    (consistent : transaction.store.Consistent) (agrees : type.Agrees transaction.store)
    (clause : WhereClause) (order : List SortKey) :
    ∃ found, (ofRequest type { clause, order } .find false).run transaction =
        .ok found transaction ∧
      found.records.Perm (transaction.store.records.values.filter clause.accepts) := by
  have suits : (ofRequest type { clause, order } .find false).Suits transaction.store :=
    suits_ofRequest agrees
  obtain ⟨found, ran, records⟩ := map_eq_ok_iff.mp (records_run_find consistent suits rfl)
  refine ⟨found, ran, ?_⟩
  rw [records, SortedMap.values, List.filter_map]
  exact (chosen_perm agrees consistent clause order).map Prod.snd

/-- Whichever indexes are declared, a query without skip and limit succeeds, leaves
the store as it is, and gives the stored records that satisfy its clause, each
once. -/
theorem find_transparent {type : RecordType} {transaction : Transaction}
    (reachable : transaction.store.Reachable) (agrees : type.Agrees transaction.store)
    (clause : WhereClause) (order : List SortKey) :
    ∃ found, (ofRequest type { clause, order } .find false).run transaction =
        .ok found transaction ∧
      found.records.Perm (transaction.store.records.values.filter clause.accepts) ∧
      ∀ declared, declared ⊆ type.indexes → ∃ other,
        (ofRequest { type with indexes := declared } { clause, order } .find false).run
            transaction = .ok other transaction ∧
          other.records.Perm found.records := by
  have consistent := reachable.consistent
  obtain ⟨found, ran, records⟩ := run_find_perm consistent agrees clause order
  refine ⟨found, ran, records, ?_⟩
  intro declared fewer
  obtain ⟨other, otherRan, otherRecords⟩ :=
    run_find_perm consistent (agrees.of_subset fewer) clause order
  exact ⟨other, otherRan, otherRecords.trans records.symm⟩

/-- An index on a field that one of three records holds a text in serves a query
for the numbers in it. -/
theorem find_transparent_above_limit :
    let byAge : IndexDescriptor := { name := "by_age", keyPath := .single "age" }
    let type : RecordType := { storeName := "people", indexes := [byAge] }
    let store := Store.ofHistory {}
      [ .add (.ofList [("age", .ofInt 7)])
      , .createIndex "people" byAge
      , .add (.ofList [("age", .string "seven")])
      , .add (.ofList [("age", .ofInt 5)]) ]
    let clause : WhereClause := .ofList [("age", .compare (.above ⟨.ofInt 5, true⟩))]
    store.Reachable ∧ type.Agrees store ∧ ∃ found,
      (ofRequest type { clause } .find false).run ⟨"people", .readOnly, store⟩ =
        .ok found ⟨"people", .readOnly, store⟩ ∧ found.records.length = 2 := by
  intro byAge type store clause
  have reachable : store.Reachable := Store.reachable_ofHistory _ _
  have agrees : type.Agrees store := by decide +kernel
  have matching : (store.records.values.filter clause.accepts).length = 2 := by decide +kernel
  clear_value store clause type
  obtain ⟨found, ran, records, _⟩ :=
    @find_transparent type ⟨"people", .readOnly, store⟩ reachable agrees clause []
  exact ⟨reachable, agrees, found, ran, records.length_eq.trans matching⟩

end Traversal

end RecordBase
