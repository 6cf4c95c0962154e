import RecordBase.Proofs.Query.Transparency

/-!
# Bulk deletions

A deletion takes out the records that a find of the same request would give, and
gives them in the same order, also where it takes away the entry, or the whole
index key, that its own walk stands at. All other records stay, with their
entries in every index.
-/

namespace RecordBase

namespace Store

/-! ## Deleting records -/

/-- The store without the records of some keys. -/
def deleteEach (store : Store) (keys : List Key) : Store :=
  keys.foldl (fun store key => (store.delete key).2) store

variable {store : Store} {key : Key} {keys : List Key}

theorem deleteEach_cons :
    store.deleteEach (key :: keys) = (store.delete key).2.deleteEach keys :=
  rfl

@[simp]
theorem primaryKey_deleteEach : (store.deleteEach keys).primaryKey = store.primaryKey := by
  induction keys generalizing store with
  | nil => rfl
  | cons key rest inductionHypothesis =>
      rw [deleteEach_cons, inductionHypothesis, primaryKey_delete]

@[simp]
theorem generator_deleteEach : (store.deleteEach keys).generator = store.generator := by
  induction keys generalizing store with
  | nil => rfl
  | cons key rest inductionHypothesis =>
      rw [deleteEach_cons, inductionHypothesis, generator_delete]

theorem descriptor_deleteEach (name : String) :
    ((store.deleteEach keys).indexes.get? name).map (·.descriptor) =
      (store.indexes.get? name).map (·.descriptor) := by
  induction keys generalizing store with
  | nil => rfl
  | cons key rest inductionHypothesis =>
      rw [deleteEach_cons, inductionHypothesis, (differsAt_delete key store).described]

/-- Only the records of the keys are gone. -/
theorem get?_deleteEach (other : Key) :
    (store.deleteEach keys).get? other = if other ∈ keys then none else store.get? other := by
  induction keys generalizing store with
  | nil => simp [deleteEach]
  | cons key rest inductionHypothesis =>
      rw [deleteEach_cons, inductionHypothesis, get?_delete]
      by_cases later : other ∈ rest
      · simp [later]
      · simp [later, eq_comm (a := key)]

theorem Reachable.deleteEach (reachable : store.Reachable) (keys : List Key) :
    (store.deleteEach keys).Reachable := by
  induction keys generalizing store with
  | nil => exact reachable
  | cons key rest inductionHypothesis => exact inductionHypothesis (reachable.after (.delete key))

/-- Every index stays, with the entries of the other records. -/
theorem indexes_deleteEach (reachable : store.Reachable) (keys : List Key) (name : String) :
    ((store.deleteEach keys).indexes.get? name).map
        (fun index => (index.descriptor, index.tree.entries)) =
      (store.indexes.get? name).map fun index =>
        (index.descriptor, index.tree.entries.filter fun entry => entry.2 ∉ keys) := by
  have described := @descriptor_deleteEach store keys name
  cases found : store.indexes.get? name with
  | none =>
      rw [found, Option.map_none, Option.map_eq_none_iff] at described
      rw [described]
      rfl
  | some before =>
      rw [found, Option.map_some, Option.map_eq_some_iff] at described
      obtain ⟨left, leftFound, same⟩ := described
      have beforeMirrors := reachable.consistent.mirrors found
      have leftMirrors := (reachable.deleteEach keys).consistent.mirrors leftFound
      have entries : left.tree.entries =
          before.tree.entries.filter fun entry => entry.2 ∉ keys := by
        apply eq_of_pairwise_of_mem_iff left.tree.pairwise_entries
          (before.tree.pairwise_entries.filter _) Direction.Precedes.asymm
        rintro ⟨key, primary⟩
        rw [leftMirrors.mem_entries_iff, List.mem_filter, beforeMirrors.mem_entries_iff]
        simp only [get?_deleteEach, StoreIndex.key?, same, decide_eq_true_eq]
        by_cases gone : primary ∈ keys
        · simp [gone]
        · simp [gone]
      rw [leftFound, Option.map_some, Option.map_some, same, entries]

end Store

namespace Traversal

/-- Deleting records one after the other succeeds and gives them all. -/
theorem mapM_actOn_delete {traversal : Traversal} {transaction : Transaction}
    (deletes : traversal.operation = .delete) (writes : transaction.mode = .readWrite)
    (rows : List (Key × Record)) :
    rows.mapM traversal.actOn transaction =
      .ok (rows.map Prod.snd)
        { transaction with store := transaction.store.deleteEach (rows.map Prod.fst) } := by
  induction rows generalizing transaction with
  | nil => rfl
  | cons row rest inductionHypothesis =>
      have first : traversal.actOn row transaction =
          .ok row.2 { transaction with store := (transaction.store.delete row.1).2 } := by
        simp only [actOn, deletes, bind, EStateM.bind, Transaction.delete, Transaction.change,
          writes]
        rfl
      have others := @inductionHypothesis
        { transaction with store := (transaction.store.delete row.1).2 } writes
      rw [mapM_cons_eq, first]
      simp only [others]
      rfl

/-- A deletion of all records of a request succeeds and gives what finding them gives. These
records are gone with their entries, and nothing else changes. -/
theorem delete_removes_found {type : RecordType} {store : Store} (reachable : store.Reachable)
    (agrees : type.Agrees store) (name : String) (request : Request) :
    ∃ (rows : List (Key × Record)) (found deleted : Found) (after : Store),
      (ofRequest type request .find false).run ⟨name, .readOnly, store⟩ =
        .ok found ⟨name, .readOnly, store⟩ ∧
      (ofRequest type request .delete false).run ⟨name, .readWrite, store⟩ =
        .ok deleted ⟨name, .readWrite, after⟩ ∧
      deleted.records = found.records ∧ found.records = rows.map Prod.snd ∧
      (rows.map Prod.fst).Nodup ∧ (∀ row ∈ rows, store.get? row.1 = some row.2) ∧
      after.Reachable ∧
      (∀ key, after.get? key = if key ∈ rows.map Prod.fst then none else store.get? key) ∧
      after.primaryKey = store.primaryKey ∧ after.generator = store.generator ∧
      ∀ index, (after.indexes.get? index).map
          (fun left => (left.descriptor, left.tree.entries)) =
        (store.indexes.get? index).map fun before => (before.descriptor,
          before.tree.entries.filter fun entry => entry.2 ∉ rows.map Prod.fst) := by
  have consistent := reachable.consistent
  let deletion := ofRequest type request .delete false
  let rows := deletion.chosen store
  have finds : (ofRequest type request .find false).Suits store := suits_ofRequest agrees
  have suits : deletion.Suits store := suits_ofRequest agrees
  obtain ⟨found, ran, records⟩ :=
    map_eq_ok_iff.mp (@records_run_find _ ⟨name, .readOnly, store⟩ consistent finds rfl)
  have whole := @run_eq_mapM deletion ⟨name, .readWrite, store⟩ consistent suits
  rw [mapM_actOn_delete rfl rfl] at whole
  obtain ⟨deleted, ended, results⟩ := map_eq_ok_iff.mp whole
  exact ⟨rows, found, deleted, store.deleteEach (rows.map Prod.fst), ran, ended,
    results.trans records.symm, records, nodup_keys_chosen consistent,
    fun row member => get?_of_mem_chosen consistent member, reachable.deleteEach _,
    fun key => Store.get?_deleteEach key, Store.primaryKey_deleteEach,
    Store.generator_deleteEach, Store.indexes_deleteEach reachable _⟩

/-- A deletion along an index takes away an index key with the entry that it
stands at, and goes on at the next one. -/
theorem delete_removes_found_under_cursor :
    let byAge : IndexDescriptor := { name := "by_age", keyPath := .single "age" }
    let type : RecordType := { storeName := "people", indexes := [byAge] }
    let store := Store.ofHistory {}
      [ .createIndex "people" byAge
      , .add (.ofList [("age", .ofInt 6)])
      , .add (.ofList [("age", .ofInt 5)])
      , .add (.ofList [("age", .ofInt 5)])
      , .add (.ofList [("age", .ofInt 7)]) ]
    let request : Request :=
      { clause := .ofList [("age", .compare (.below ⟨.ofInt 7, false⟩))] }
    store.Reachable ∧ type.Agrees store ∧ ∃ (rows : List (Key × Record)) (deleted : Found)
        (after : Store),
      (ofRequest type request .delete false).run ⟨"people", .readWrite, store⟩ =
        .ok deleted ⟨"people", .readWrite, after⟩ ∧
      deleted.records = rows.map Prod.snd ∧ rows.length = 3 ∧
      ∀ key, after.get? key = if key ∈ rows.map Prod.fst then none else store.get? key := by
  intro byAge type store request
  have reachable : store.Reachable := Store.reachable_ofHistory _ _
  have agrees : type.Agrees store := by decide +kernel
  have three :
      (match (ofRequest type request .find false).run ⟨"people", .readOnly, store⟩ with
        | .ok found _ => some found.records.length
        | .error _ _ => none) = some 3 := by
    decide +kernel
  clear_value store request type
  obtain ⟨rows, found, deleted, after, ran, ended, same, records, _, _, _, left, _⟩ :=
    delete_removes_found reachable agrees "people" request
  simp only [ran, records, List.length_map, Option.some.injEq] at three
  exact ⟨reachable, agrees, rows, deleted, after, ended, same.trans records, three, left⟩

end Traversal

end RecordBase
