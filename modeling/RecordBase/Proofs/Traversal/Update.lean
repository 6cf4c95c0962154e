import RecordBase.Proofs.Query.Transparency

/-!
# Bulk updates

An update acts on the records that a find of the same request would give, each
once and in the same order, also where it moves them along the index that it
walks. A record that cannot be written ends it, and what was written before
stays.
-/

namespace RecordBase

namespace Store

/-! ## Replacing records -/

/-- The store with records replaced under their keys, one after the other. -/
def replaceEach (store : Store) (change : Record → Record) (rows : List (Key × Record)) : Store :=
  rows.foldl (fun store row => store.place row.1 (change row.2)) store

variable {store : Store} {change : Record → Record} {row : Key × Record}
  {rows : List (Key × Record)}

theorem replaceEach_cons :
    store.replaceEach change (row :: rows) =
      (store.place row.1 (change row.2)).replaceEach change rows :=
  rfl

@[simp]
theorem primaryKey_replaceEach :
    (store.replaceEach change rows).primaryKey = store.primaryKey := by
  induction rows generalizing store with
  | nil => rfl
  | cons row rest inductionHypothesis =>
      rw [replaceEach_cons, inductionHypothesis, primaryKey_place]

theorem descriptor_replaceEach (name : String) :
    ((store.replaceEach change rows).indexes.get? name).map (·.descriptor) =
      (store.indexes.get? name).map (·.descriptor) := by
  induction rows generalizing store with
  | nil => rfl
  | cons row rest inductionHypothesis =>
      rw [replaceEach_cons, inductionHypothesis, (differsAt_place _ _ store).described]

/-- A generator that has passed the keys of all records replaced stays where it
is. -/
theorem generator_replaceEach (settled : store.primaryKey.autoIncrement = true →
      ∀ row ∈ rows, generatorPast store.generator row.1 = store.generator) :
    (store.replaceEach change rows).generator = store.generator := by
  induction rows generalizing store with
  | nil => rfl
  | cons row rest inductionHypothesis =>
      have kept : (store.place row.1 (change row.2)).generator = store.generator := by
        rw [generator_place]
        split
        · rename_i generated
          exact settled generated row List.mem_cons_self
        · rfl
      rw [replaceEach_cons, inductionHypothesis, kept]
      rw [primaryKey_place, kept]
      intro generated other member
      exact settled generated other (List.mem_cons_of_mem _ member)

/-- A record whose key is not among those replaced is what it was. -/
theorem get?_replaceEach_of_not_mem {key : Key} (other : key ∉ rows.map Prod.fst) :
    (store.replaceEach change rows).get? key = store.get? key := by
  induction rows generalizing store with
  | nil => rfl
  | cons row rest inductionHypothesis =>
      rw [List.map_cons, List.mem_cons, not_or] at other
      rw [replaceEach_cons, inductionHypothesis other.2, get?_place, if_neg (Ne.symm other.1)]

/-- A record replaced is the changed one. -/
theorem get?_replaceEach_of_mem (distinct : (rows.map Prod.fst).Nodup) (member : row ∈ rows) :
    (store.replaceEach change rows).get? row.1 = some (change row.2) := by
  induction rows generalizing store with
  | nil => contradiction
  | cons first rest inductionHypothesis =>
      obtain ⟨new, restDistinct⟩ := List.nodup_cons.mp distinct
      rw [replaceEach_cons]
      rcases List.mem_cons.mp member with rfl | later
      · rw [get?_replaceEach_of_not_mem new, get?_place, if_pos rfl]
      · exact inductionHypothesis restDistinct later

end Store

namespace Traversal

/-! ## Updating records -/

/-- Updating records one after the other replaces them all, or all in front of
the first one whose merged record is refused. -/
theorem mapM_actOn_update {traversal : Traversal} {transaction : Transaction} {patch : Record}
    {rows : List (Key × Record)} (operation : traversal.operation = .update patch)
    (writes : transaction.mode = .readWrite) (reachable : transaction.store.Reachable)
    (suits : traversal.Suits transaction.store) (distinct : (rows.map Prod.fst).Nodup)
    (stored : ∀ row ∈ rows, transaction.store.get? row.1 = some row.2) :
    let merged := fun record => Record.merge record patch traversal.primaryField
    ∃ done ≤ rows.length,
      let after := transaction.store.replaceEach merged (rows.take done)
      after.Reachable ∧
        (rows.mapM traversal.actOn transaction =
            .ok (rows.map fun row => merged row.2) { transaction with store := after } ∧
          done = rows.length ∨
        ∃ error row, rows.mapM traversal.actOn transaction =
            .error error { transaction with store := after } ∧
          rows[done]? = some row ∧ after.put (merged row.2) = .error error) := by
  induction rows generalizing transaction with
  | nil => exact ⟨0, Nat.le_refl _, reachable, .inl ⟨rfl, rfl⟩⟩
  | cons row rest inductionHypothesis =>
      intro merged
      have consistent := reachable.consistent
      have present := stored row List.mem_cons_self
      have own := suits.ofField?_merge consistent present patch
      have acted := actOn_update suits consistent present operation
      simp only [writes] at acted
      cases collision : transaction.store.collision? (merged row.2) row.1 with
      | some fault =>
          refine ⟨0, Nat.zero_le _, reachable, .inr ⟨.constraint fault, row, ?_, rfl, ?_⟩⟩
          · rw [mapM_cons_eq, acted, collision]
            rfl
          · exact (Store.put_of_ofField? own).trans (by rw [collision])
      | none =>
          let next : Transaction :=
            { transaction with store := transaction.store.place row.1 (merged row.2) }
          have differs := Store.differsAt_place row.1 (merged row.2) transaction.store
          obtain ⟨new, restDistinct⟩ := List.nodup_cons.mp distinct
          have restStored : ∀ other ∈ rest, next.store.get? other.1 = some other.2 := by
            intro other member
            have different : other.1 ≠ row.1 := fun same =>
              new (same ▸ List.mem_map_of_mem member)
            rw [differs.elsewhere different]
            exact stored other (List.mem_cons_of_mem _ member)
          obtain ⟨done, few, reached, outcome⟩ := @inductionHypothesis next writes
            (reachable.place own collision) (suits.of_differsAt differs) restDistinct restStored
          have first : traversal.actOn row transaction = .ok (merged row.2) next := by
            rw [acted, collision, ← writes]
          refine ⟨done + 1, Nat.succ_le_succ few, reached, ?_⟩
          rw [mapM_cons_eq, first]
          dsimp only
          rcases outcome with ⟨ran, all⟩ | ⟨error, refused, ran, atDone, failed⟩
          · left
            constructor
            · rw [ran]
              rfl
            · rw [all, List.length_cons]
          · right
            refine ⟨error, refused, ?_, atDone, failed⟩
            rw [ran]
            rfl

/-- An update replaces the records that finding them gives, in their order, up to the first whose
merged record is refused. It changes nothing else. -/
theorem update_acts_on_found {type : RecordType} {store : Store} (reachable : store.Reachable)
    (agrees : type.Agrees store) (name : String) (request : Request) (patch : Record) :
    let merged := fun record => Record.merge record patch type.primaryField
    ∃ rows : List (Key × Record),
      (rows.map Prod.fst).Nodup ∧ (∀ row ∈ rows, store.get? row.1 = some row.2) ∧
      (∃ found, (ofRequest type request .find false).run ⟨name, .readOnly, store⟩ =
        .ok found ⟨name, .readOnly, store⟩ ∧ found.records = rows.map Prod.snd) ∧
      ∃ done ≤ rows.length, ∃ after : Store, after.Reachable ∧
        (∀ row ∈ rows.take done, after.get? row.1 = some (merged row.2)) ∧
        (∀ key, key ∉ (rows.take done).map Prod.fst → after.get? key = store.get? key) ∧
        after.primaryKey = store.primaryKey ∧ after.generator = store.generator ∧
        (∀ index, (after.indexes.get? index).map (·.descriptor) =
          (store.indexes.get? index).map (·.descriptor)) ∧
        ((∃ found, (ofRequest type request (.update patch) false).run ⟨name, .readWrite, store⟩ =
            .ok found ⟨name, .readWrite, after⟩ ∧ done = rows.length ∧
              found.records = rows.map fun row => merged row.2) ∨
          ∃ error row, (ofRequest type request (.update patch) false).run
              ⟨name, .readWrite, store⟩ = .error error ⟨name, .readWrite, after⟩ ∧
            rows[done]? = some row ∧ after.put (merged row.2) = .error error) := by
  intro merged
  have consistent := reachable.consistent
  let update := ofRequest type request (.update patch) false
  let rows := update.chosen store
  have distinct : (rows.map Prod.fst).Nodup := nodup_keys_chosen consistent
  have stored : ∀ row ∈ rows, store.get? row.1 = some row.2 :=
    fun row member => get?_of_mem_chosen consistent member
  have finds : (ofRequest type request .find false).Suits store := suits_ofRequest agrees
  obtain ⟨found, ran, records⟩ :=
    map_eq_ok_iff.mp (@records_run_find _ ⟨name, .readOnly, store⟩ consistent finds rfl)
  have suits : update.Suits store := suits_ofRequest agrees
  obtain ⟨done, few, reached, outcome⟩ :=
    @mapM_actOn_update update ⟨name, .readWrite, store⟩ patch rows rfl rfl reachable suits
      distinct stored
  have front : (rows.take done).Sublist rows := List.take_sublist done rows
  have frontDistinct := (front.map Prod.fst).nodup distinct
  refine ⟨rows, distinct, stored, ⟨found, ran, records⟩, done, few, _, reached,
    fun row member => Store.get?_replaceEach_of_mem frontDistinct member,
    fun key other => Store.get?_replaceEach_of_not_mem other, Store.primaryKey_replaceEach,
    Store.generator_replaceEach ?_, Store.descriptor_replaceEach, ?_⟩
  · intro generated row member
    exact consistent.settled generated (stored row (front.mem member))
  · have whole := @run_eq_mapM update ⟨name, .readWrite, store⟩ consistent suits
    rcases outcome with ⟨updated, all⟩ | ⟨error, row, failed, atDone, refused⟩
    · rw [updated] at whole
      obtain ⟨result, ended, results⟩ := map_eq_ok_iff.mp whole
      exact .inl ⟨result, ended, all, results⟩
    · rw [failed] at whole
      exact .inr ⟨error, row, map_eq_error_iff.mp whole, atDone, refused⟩

/-- Records that an update moves along the index that it walks are updated once. -/
theorem update_acts_on_found_moving :
    let byAge : IndexDescriptor := { name := "by_age", keyPath := .single "age" }
    let type : RecordType := { storeName := "people", indexes := [byAge] }
    let store := Store.ofHistory {}
      [ .createIndex "people" byAge
      , .add (.ofList [("age", .ofInt 7)])
      , .add (.ofList [("age", .ofInt 5)])
      , .add (.ofList [("age", .ofInt 6)]) ]
    let request : Request :=
      { clause := .ofList [("age", .compare (.above ⟨.ofInt 1, false⟩))], limit := some 2 }
    let patch : Record := .ofList [("age", .ofInt 9)]
    store.Reachable ∧ type.Agrees store ∧ ∃ (rows : List (Key × Record)) (found : Found)
        (after : Store),
      (ofRequest type request (.update patch) false).run ⟨"people", .readWrite, store⟩ =
        .ok found ⟨"people", .readWrite, after⟩ ∧ rows.length = 2 ∧
      (∀ row ∈ rows, after.get? row.1 = some (Record.merge row.2 patch type.primaryField)) ∧
      ∀ key, key ∉ rows.map Prod.fst → after.get? key = store.get? key := by
  intro byAge type store request patch
  have reachable : store.Reachable := Store.reachable_ofHistory _ _
  have agrees : type.Agrees store := by decide +kernel
  have written :
      (match (ofRequest type request (.update patch) false).run ⟨"people", .readWrite, store⟩ with
        | .ok found _ => some found.records.length
        | .error _ _ => none) = some 2 := by
    decide +kernel
  clear_value store request patch type
  obtain ⟨rows, _, _, _, done, _, after, _, replaced, kept, _, _, _, outcome⟩ :=
    update_acts_on_found reachable agrees "people" request patch
  rcases outcome with ⟨found, updated, all, records⟩ | ⟨error, row, failed, _⟩
  · simp only [updated, records, List.length_map, Option.some.injEq] at written
    rw [all, List.take_length] at replaced kept
    exact ⟨reachable, agrees, rows, found, after, updated, written, replaced, kept⟩
  · rw [failed] at written
    contradiction

end Traversal

end RecordBase
