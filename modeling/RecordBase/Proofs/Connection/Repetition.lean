import RecordBase.Proofs.Connection.Requests
import RecordBase.Proofs.Store.Patch
import RecordBase.Proofs.Traversal.Update

/-!
# Repeated updates

An update without skip and limit lays its patch over every record that satisfies the
clause. It may move records out of the clause, or along the index that is walked, so
the next update of the same kind may choose other records and in another order. All
that it chooses have been patched, though, and a patched record that is put back as it
is stands in nobody's way. So the second update succeeds and changes nothing at all.
-/

namespace RecordBase

/-! ## Records that are put back -/

namespace Store

variable {store : Store} {key : Key} {record : Record}

/-- A stored record collides with no other. -/
theorem Consistent.collision?_of_get? (consistent : store.Consistent)
    (stored : store.get? key = some record) : store.collision? record key = none := by
  cases collision : store.collision? record key with
  | none => rfl
  | some fault =>
      obtain ⟨name, descriptor, indexKey, other, held, declared, unique, _, different, otherStored,
        keyed, shared⟩ := consistent.exists_of_collision? collision
      have same := consistent.separates name descriptor declared unique indexKey other key held
        record otherStored stored shared keyed
      exact absurd same different

/-- Placing a stored record where it stands changes nothing. -/
theorem Consistent.place_of_get? (consistent : store.Consistent)
    (stored : store.get? key = some record) : store.place key record = store := by
  have own := consistent.ownKey stored
  have free := consistent.collision?_of_get? stored
  apply (consistent.place own free).ext consistent
  · exact primaryKey_place store key record
  · exact (differsAt_place key record store).described
  · intro other
    rw [get?_place]
    split
    · rename_i same
      rw [← same, stored]
    · rfl
  · exact generator_place_of_get? consistent stored record

end Store

namespace Traversal

variable {traversal : Traversal} {transaction : Transaction} {patch : Record}

/-- An update of records that the patch leaves as they are changes nothing. -/
theorem mapM_actOn_of_unchanged {rows : List (Key × Record)}
    (operation : traversal.operation = .update patch) (writes : transaction.mode = .readWrite)
    (consistent : transaction.store.Consistent) (suits : traversal.Suits transaction.store)
    (stored : ∀ row ∈ rows, transaction.store.get? row.1 = some row.2)
    (unchanged : ∀ row ∈ rows, row.2.merge patch traversal.primaryField = row.2) :
    rows.mapM traversal.actOn transaction = .ok (rows.map Prod.snd) transaction := by
  induction rows with
  | nil => rfl
  | cons row rest inductionHypothesis =>
      have present := stored row List.mem_cons_self
      have first : traversal.actOn row transaction = .ok row.2 transaction := by
        rw [actOn_update suits consistent present operation]
        simp only [writes, unchanged row List.mem_cons_self,
          consistent.collision?_of_get? present, consistent.place_of_get? present]
        rw [← writes]
      have later := inductionHypothesis
        (fun other member => stored other (List.mem_cons_of_mem _ member))
        (fun other member => unchanged other (List.mem_cons_of_mem _ member))
      rw [mapM_cons_eq, first]
      dsimp only
      rw [later]
      rfl

end Traversal

/-! ## Updates without skip and limit -/

/-- A store that differs from another in that a patch is laid over the records that
satisfy a clause. -/
structure Store.PatchedWhere (before : Store) (clause : WhereClause) (patch : Record)
    (after : Store) : Prop where
  primaryKey : after.primaryKey = before.primaryKey
  generator : after.generator = before.generator
  described : ∀ name, (after.indexes.get? name).map (·.descriptor) =
    (before.indexes.get? name).map (·.descriptor)
  records : ∀ key, after.get? key = (before.get? key).map fun record =>
    if clause.accepts record then record.merge patch before.primaryKey.field else record

namespace Store.PatchedWhere

variable {store after : Store} {clause : WhereClause} {patch record : Record} {key : Key}

/-- Of the records that satisfy the clause afterwards, each is the patched form of one
that satisfied it before. -/
theorem exists_of_accepts (patched : store.PatchedWhere clause patch after)
    (stored : after.get? key = some record) (accepted : clause.accepts record = true) :
    ∃ old, store.get? key = some old ∧ clause.accepts old = true ∧
      record = old.merge patch store.primaryKey.field := by
  rw [patched.records, Option.map_eq_some_iff] at stored
  obtain ⟨old, held, rfl⟩ := stored
  split at accepted
  · rename_i satisfied
    exact ⟨old, held, satisfied, if_pos satisfied⟩
  · contradiction

/-- The patch leaves these records as they are. -/
theorem merge_of_accepts (patched : store.PatchedWhere clause patch after)
    (stored : after.get? key = some record) (accepted : clause.accepts record = true) :
    record.merge patch store.primaryKey.field = record := by
  obtain ⟨old, _, _, rfl⟩ := patched.exists_of_accepts stored accepted
  exact Record.merge_merge old patch _

end Store.PatchedWhere

namespace Traversal

variable {type : RecordType} {store : Store} {clause : WhereClause} {order : List SortKey}
  {patch : Record}

/-- Without skip and limit the records chosen are those that satisfy the clause. -/
theorem mem_chosen_iff (agrees : type.Agrees store) (consistent : store.Consistent)
    {operation : Operation} {row : Key × Record} :
    row ∈ (ofRequest type { clause, order } operation false).chosen store ↔
      store.get? row.1 = some row.2 ∧ clause.accepts row.2 = true := by
  rw [(chosen_perm agrees consistent clause order).mem_iff, List.mem_filter,
    ← SortedMap.get?_eq_some_iff]
  exact Iff.rfl

/-- Replacing the records chosen lays the patch over all that satisfy the clause. -/
theorem patchedWhere_replaceEach (agrees : type.Agrees store) (consistent : store.Consistent)
    {operation : Operation} :
    store.PatchedWhere clause patch
      (store.replaceEach (fun record => record.merge patch store.primaryKey.field)
        ((ofRequest type { clause, order } operation false).chosen store)) where
  primaryKey := Store.primaryKey_replaceEach
  generator := by
    apply Store.generator_replaceEach
    intro generated row member
    exact consistent.settled generated (get?_of_mem_chosen consistent member)
  described := Store.descriptor_replaceEach
  records := by
    intro key
    have distinct := @nodup_keys_chosen (ofRequest type { clause, order } operation false) store
      consistent
    by_cases replaced : ∃ record, store.get? key = some record ∧ clause.accepts record = true
    · rcases replaced with ⟨record, stored, accepted⟩
      have member : (key, record) ∈
          (ofRequest type { clause, order } operation false).chosen store :=
        (mem_chosen_iff agrees consistent).mpr ⟨stored, accepted⟩
      rw [Store.get?_replaceEach_of_mem distinct member, stored, Option.map_some, if_pos accepted]
    · have other : key ∉
          ((ofRequest type { clause, order } operation false).chosen store).map Prod.fst := by
        intro member
        rcases List.mem_map.mp member with ⟨row, chosen, rfl⟩
        exact replaced ⟨row.2, (mem_chosen_iff agrees consistent).mp chosen⟩
      rw [Store.get?_replaceEach_of_not_mem other]
      cases stored : store.get? key with
      | none => rfl
      | some record =>
          have refused : ¬ clause.accepts record = true :=
            fun accepted => replaced ⟨record, stored, accepted⟩
          rw [Option.map_some, if_neg refused]

/-- Where a patch has been laid over all records that satisfy a clause, an update of the
same kind changes nothing: every record that it chooses now has the patch. -/
theorem mapM_actOn_of_patchedWhere {transaction : Transaction}
    (writes : transaction.mode = .readWrite) (agrees : type.Agrees transaction.store)
    (consistent : transaction.store.Consistent)
    (patched : store.PatchedWhere clause patch transaction.store) :
    let traversal := ofRequest type { clause, order } (.update patch) false
    let rows := traversal.chosen transaction.store
    rows.mapM traversal.actOn transaction = .ok (rows.map Prod.snd) transaction := by
  intro traversal rows
  apply mapM_actOn_of_unchanged rfl writes consistent (suits_ofRequest agrees)
  · intro row member
    exact get?_of_mem_chosen consistent member
  · intro row member
    rcases (mem_chosen_iff agrees consistent).mp member with ⟨stored, accepted⟩
    have primary : traversal.primaryField = store.primaryKey.field :=
      agrees.primaryField.trans (congrArg (·.field) patched.primaryKey)
    rw [primary]
    exact patched.merge_of_accepts stored accepted

end Traversal

namespace Connection

variable {connection : Connection} {type : RecordType} {storage left : Storage} {store : Store}
  {clause : WhereClause} {order : List SortKey} {patch : Value} {changes : Record}
  {found : List Record}

/-- An update is a transaction that updates the records chosen, one after the other. -/
theorem update_eq (serves : connection.Serves type storage store)
    (object : patch.asRecord = .ok changes) (request : Request) :
    let traversal := Traversal.ofRequest type request (.update changes) false
    connection.update type patch request storage =
      Storage.transact connection.name type.storeName .readWrite
        ((traversal.chosen store).mapM traversal.actOn) storage := by
  intro traversal
  simp only [update, object]
  have acts := records_traverse serves request (.update changes) false
  exact (congrFun (bind_pure_comp _ _) storage).trans acts

/-- An update that succeeds lays its patch over the records that satisfy the clause, and
gives the patched records. -/
theorem update_ok (serves : connection.Serves type storage store)
    (object : patch.asRecord = .ok changes)
    (updated : connection.update type patch { clause, order } storage = .ok found left) :
    ∃ after : Store, after.Reachable ∧ store.PatchedWhere clause changes after ∧
      left = storage.commit connection.name ⟨type.storeName, .readWrite, after⟩ ∧
      ∀ key record, store.get? key = some record → clause.accepts record = true →
        record.merge changes store.primaryKey.field ∈ found := by
  have consistent := serves.reachable.consistent
  let traversal := Traversal.ofRequest type { clause, order } (.update changes) false
  let begun : Transaction := ⟨type.storeName, .readWrite, store⟩
  rcases @Traversal.mapM_actOn_update traversal begun changes (traversal.chosen store) rfl rfl
      serves.reachable (Traversal.suits_ofRequest serves.agrees)
      (Traversal.nodup_keys_chosen consistent)
      (fun row member => Traversal.get?_of_mem_chosen consistent member) with
    ⟨done, _, reachable, ⟨ran, all⟩ | ⟨error, row, ran, _⟩⟩
  · have ended := updated.symm.trans
      ((update_eq serves object _).trans (Storage.transact_of_ok serves.held ran))
    cases ended
    rw [all, List.take_length] at reachable ⊢
    have primary : traversal.primaryField = store.primaryKey.field := serves.agrees.primaryField
    rw [primary] at reachable ⊢
    refine ⟨_, reachable, Traversal.patchedWhere_replaceEach serves.agrees consistent, rfl, ?_⟩
    intro key record stored accepted
    apply List.mem_map.mpr
    refine ⟨(key, record), ?_, rfl⟩
    exact (Traversal.mem_chosen_iff serves.agrees consistent).mpr ⟨stored, accepted⟩
  · have ended := updated.symm.trans
      ((update_eq serves object _).trans (Storage.transact_of_error serves.held ran))
    contradiction

/-- An update without skip and limit that succeeds has patched just the records that satisfy the
clause. Running it again succeeds and leaves the storage as it is. -/
theorem update_idempotent (serves : connection.Serves type storage store)
    (updated : connection.update type patch { clause, order } storage = .ok found left) :
    ∃ changes after, patch.asRecord = .ok changes ∧ connection.Serves type left after ∧
      storage.TakenOver connection.name type.storeName after left ∧
      store.PatchedWhere clause changes after ∧
      ∃ again, connection.update type patch { clause, order } left = .ok again left ∧
        connection.find type { clause, order } left = .ok again left ∧
        ∀ record ∈ again, record ∈ found := by
  cases object : patch.asRecord with
  | error error =>
      simp only [update, object] at updated
      contradiction
  | ok changes =>
      rcases update_ok serves object updated with ⟨after, reachable, patched, rfl, patchedFound⟩
      have taken := Storage.takenOver_commit storage connection.name
        ⟨type.storeName, .readWrite, after⟩
      have nowServes : connection.Serves type
          (storage.commit connection.name ⟨type.storeName, .readWrite, after⟩) after :=
        ⟨taken.stored, reachable,
          serves.agrees.of_described patched.primaryKey patched.described⟩
      let traversal := Traversal.ofRequest type { clause, order } (.update changes) false
      have idle := @Traversal.mapM_actOn_of_patchedWhere type store clause order changes
        ⟨type.storeName, .readWrite, after⟩ rfl nowServes.agrees reachable.consistent patched
      refine ⟨changes, after, rfl, nowServes, taken, patched,
        (traversal.chosen after).map Prod.snd, ?_, find_eq nowServes { clause, order }, ?_⟩
      · rw [update_eq nowServes object]
        exact Storage.transact_of_idle nowServes.held idle
      · intro record member
        rcases List.mem_map.mp member with ⟨row, chosen, rfl⟩
        rcases (Traversal.mem_chosen_iff nowServes.agrees reachable.consistent).mp chosen with
          ⟨stored, accepted⟩
        rcases patched.exists_of_accepts stored accepted with ⟨old, held, satisfied, merged⟩
        rw [merged]
        exact patchedFound row.1 old held satisfied

/-- An update along an index moves two records to one key. The second run meets them in the order
of their primary keys and changes nothing. -/
theorem update_idempotent_reordering :
    let byAge : IndexDescriptor := { name := "by_age", keyPath := .single "age" }
    let byBoth : IndexDescriptor :=
      { name := "by_both", unique := true, keyPath := .composite ["age", "name"] }
    let type : RecordType := { storeName := "people", indexes := [byAge, byBoth] }
    let store := Store.ofHistory {}
      [ .createIndex "people" byAge
      , .createIndex "people" byBoth
      , .add (.ofList [("age", .ofInt 7), ("name", .string "a")])
      , .add (.ofList [("age", .ofInt 6), ("name", .string "b")])
      , .add (.ofList [("age", .ofInt 5), ("name", .string "c")]) ]
    let storage := ({} : Storage).keep "main" ⟨1, SortedMap.empty.insert "people" store⟩
    let connection : Connection := ⟨"main", 1, .empty⟩
    let clause : WhereClause := .ofList [("age", .compare (.above ⟨.ofInt 5, false⟩))]
    let patch : Value := .ofMembers [("age", .ofInt 8)]
    let names (records : List Record) := records.map fun record =>
      (record.get? "name").map Value.text
    connection.Serves type storage store ∧ ∃ found again left,
      connection.update type patch { clause } storage = .ok found left ∧
      names found = [some "\"b\"", some "\"a\""] ∧
      connection.update type patch { clause } left = .ok again left ∧
      names again = [some "\"a\"", some "\"b\""] := by
  intro byAge byBoth type store storage connection clause patch names
  have held : (storage.database "main").stores.get? "people" = some store :=
    Storage.get?_stores_keep {} "main" "people" 1 .empty store
  have serves : connection.Serves type storage store :=
    ⟨held, Store.reachable_ofHistory _ _, by decide +kernel⟩
  have first : (Action.ending (connection.update type patch { clause } storage)).toOption.map
      names = some [some "\"b\"", some "\"a\""] := by
    decide +kernel
  have second : (Action.ending (connection.update type patch { clause }
      (Action.left (connection.update type patch { clause } storage)))).toOption.map names =
        some [some "\"a\"", some "\"b\""] := by
    decide +kernel
  clear_value store storage type clause patch names
  cases updated : connection.update type patch { clause } storage with
  | error error left =>
      rw [updated] at first
      contradiction
  | ok found left =>
      rcases update_idempotent serves updated with
        ⟨changes, after, _, _, _, _, again, repeated, _, _⟩
      rw [updated] at first second
      rw [Action.left, repeated] at second
      exact ⟨serves, found, again, left, rfl, Option.some.inj first, repeated,
        Option.some.inj second⟩

end Connection

end RecordBase
