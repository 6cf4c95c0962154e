import RecordBase.Proofs.Connection.Lookup
import RecordBase.Proofs.Record.Defaults

/-!
# Insertions

An insertion adds the record that is prepared for a value to a store, and takes the store
over. The record is found under the key that the insertion gives, with the declared
defaults, and whatever stands under other keys stays. An insertion that fails takes
nothing over. So several values come to the same inserted in one call or in one call each,
and those that are refused might as well be left out.
-/

namespace RecordBase

/-- Adding a record in a transaction for writing adds it to the store. -/
theorem Transaction.add_of_readWrite (record : Record) (storeName : String) (store : Store) :
    Transaction.add record ⟨storeName, .readWrite, store⟩ =
      match store.add record with
      | .ok (key, changed) => .ok key ⟨storeName, .readWrite, changed⟩
      | .error error => .error error ⟨storeName, .readWrite, store⟩ := by
  simp only [Transaction.add, Transaction.change]
  cases store.add record <;> rfl

namespace Connection

variable {connection : Connection} {type : RecordType} {storage left : Storage}
  {store changed : Store} {value key : Value}

/-! ## Single insertions -/

/-- What an insertion does to a store: the record that is prepared for a value is
added. -/
def addValue (type : RecordType) (value : Value) (store : Store) :
    Except StorageError (Value × Store) :=
  match prepare type value with
  | .error error => .error error
  | .ok record => store.add record

/-- An insertion takes over the store with the value added, if it can be added. -/
theorem insertOne_eq (held : (storage.database connection.name).stores.get? type.storeName =
      some store) (value : Value) :
    connection.insertOne type value storage =
      match addValue type value store with
      | .ok (key, changed) =>
          .ok key (storage.commit connection.name ⟨type.storeName, .readWrite, changed⟩)
      | .error error => .error error storage := by
  unfold insertOne addValue
  cases prepare type value with
  | error error => rfl
  | ok record =>
      have adds := Transaction.add_of_readWrite record type.storeName store
      dsimp only
      cases added : store.add record with
      | ok result =>
          rw [added] at adds
          exact Storage.transact_of_ok held adds
      | error error =>
          rw [added] at adds
          rw [Storage.transact_of_error held adds, Storage.commit_begun held]

/-- The record that a value is, if one is prepared for it. -/
theorem prepare_eq_ok_iff {full : Record} :
    prepare type value = .ok full ↔
      ∃ record, value.asRecord = .ok record ∧ full = record.withDefaults type := by
  unfold prepare
  cases value.asRecord with
  | error error => simp [Except.map]
  | ok record => simp [Except.map, eq_comm]

/-- A value is added under a new key, with the defaults that it lacks, and with the key where it
has none even then. -/
theorem addValue_ok (primaryField : type.primaryField = store.primaryKey.field)
    (added : addValue type value store = .ok (key, changed)) :
    ∃ (record stored : Record) (own : Key),
      value.asRecord = .ok record ∧ Key.ofValue? key = some own ∧ store.get? own = none ∧
      (∀ other, changed.get? other = if own = other then some stored else store.get? other) ∧
      stored.get? type.primaryField = some key ∧
      ∀ field, stored.get? field =
        ((record.get? field).or (type.default? field)).or
          (if field = type.primaryField then some key else none) := by
  unfold addValue at added
  cases prepared : prepare type value with
  | error error =>
      rw [prepared] at added
      contradiction
  | ok filled =>
      rw [prepared] at added
      rcases prepare_eq_ok_iff.mp prepared with ⟨record, object, rfl⟩
      rcases Store.write_eq_ok_iff.mp added with
        ⟨own, stored, resolved, allowed, _, rfl, rfl⟩
      have new : store.get? own = none := allowed.resolve_left Bool.false_ne_true
      rcases Option.bind_eq_some_iff.mp (Store.ofField?_of_resolveKey resolved) with
        ⟨given, held, keyed⟩
      rw [primaryField, held, Option.getD_some]
      refine ⟨record, stored, own, object, keyed, new, Store.get?_place store own stored, held, ?_⟩
      intro field
      rw [Store.get?_of_resolveKey resolved, Record.get?_withDefaults, held]

/-- What was inserted is found under the key that the insertion gave, with its defaults and this
key. Other look-ups give what they gave before. -/
theorem get_inserted (hosts : connection.Hosts type storage store)
    (inserted : connection.insertOne type value storage = .ok key left) :
    ∃ (record stored : Record) (own : Key),
      value.asRecord = .ok record ∧ Key.ofValue? key = some own ∧ store.get? own = none ∧
      connection.get type key storage = .ok none storage ∧
      connection.get type key left = .ok (some stored) left ∧
      stored.get? type.primaryField = some key ∧
      (∀ field, stored.get? field =
        ((record.get? field).or (type.default? field)).or
          (if field = type.primaryField then some key else none)) ∧
      ∀ other, Key.ofValue? other ≠ some own → ∃ found,
        connection.get type other storage = .ok found storage ∧
          connection.get type other left = .ok found left := by
  rw [insertOne_eq hosts.held] at inserted
  cases added : addValue type value store with
  | error error =>
      rw [added] at inserted
      contradiction
  | ok result =>
      rcases result with ⟨given, changed⟩
      rw [added] at inserted
      cases inserted
      have taken := Storage.takenOver_commit storage connection.name
        ⟨type.storeName, .readWrite, changed⟩
      rcases addValue_ok hosts.primaryField added with
        ⟨record, stored, own, object, keyed, new, records, primary, fields⟩
      refine ⟨record, stored, own, object, keyed, new, ?_, ?_, primary, fields, ?_⟩
      · rw [get_eq hosts.held, keyed, Option.bind_some, new]
      · rw [get_eq taken.stored, keyed, Option.bind_some, records, if_pos rfl]
      · intro other different
        refine ⟨_, get_eq hosts.held other, ?_⟩
        rw [get_eq taken.stored]
        cases otherKeyed : Key.ofValue? other with
        | none => rfl
        | some otherKey =>
            have apart : own ≠ otherKey := by
              rintro rfl
              exact different otherKeyed
            rw [Option.bind_some, Option.bind_some, records, if_neg apart]

/-- A record without a key gets the declared default that it lacks and the next key. The
record that stood under the key in front still does. -/
theorem get_inserted_with_default :
    let guest : Field := { type := .string, default := some (.string "guest") }
    let type : RecordType := { storeName := "people", fields := .ofList [("role", guest)] }
    let store := Store.ofHistory {} [.add (.ofList [("name", .string "Ann")])]
    let storage := ({} : Storage).keep "main" ⟨1, SortedMap.empty.insert "people" store⟩
    let connection : Connection := ⟨"main", 1, .empty⟩
    let record : Record := .ofList [("name", .string "Ben")]
    connection.Hosts type storage store ∧ ∃ key left stored found,
      connection.insertOne type (.ofRecord record) storage = .ok key left ∧
      Key.ofValue? key = some (.ofInt 2) ∧
      connection.get type key left = .ok (some stored) left ∧
      stored.get? "name" = some (.string "Ben") ∧ stored.get? "role" = some (.string "guest") ∧
      stored.get? "_id" = some key ∧
      store.get? (.ofInt 1) = some found ∧
      connection.get type (.ofInt 1) left = .ok (some found) left := by
  intro guest type store storage connection record
  have held : (storage.database "main").stores.get? "people" = some store :=
    Storage.get?_stores_keep {} "main" "people" 1 .empty store
  have hosts : connection.Hosts type storage store :=
    ⟨held, Store.reachable_ofHistory _ _, by decide +kernel⟩
  have next : (Action.ending (connection.insertOne type (.ofRecord record) storage)).toOption.bind
      Key.ofValue? = some (.ofInt 2) := by
    decide +kernel
  have present : (store.get? (.ofInt 1)).isSome = true := by decide +kernel
  have apart : Key.ofValue? (.ofInt 1) ≠ some (.ofInt 2) := by decide +kernel
  have first : Key.ofValue? (.ofInt 1) = some (.ofInt 1) := by decide +kernel
  have isRecord : (Value.ofRecord record).asRecord = .ok record := rfl
  have name : record.get? "name" = some (.string "Ben") :=
    SortedMap.get?_insert_self .empty "name" _
  have roleless : record.get? "role" = none :=
    SortedMap.get?_insert_of_ne .empty _ (by decide)
  have declared : type.fields.get? "role" = some guest := SortedMap.get?_insert_self .empty _ _
  have role : type.default? "role" = some (.string "guest") := by
    rw [RecordType.default?, declared]
    rfl
  have primaryField : type.primaryField = "_id" := rfl
  clear_value store storage record type
  rcases Option.isSome_iff_exists.mp present with ⟨found, there⟩
  cases inserted : connection.insertOne type (.ofRecord record) storage with
  | error error after =>
      rw [inserted] at next
      contradiction
  | ok key left =>
      rw [inserted] at next
      rcases get_inserted hosts inserted with
        ⟨given, stored, own, object, keyed, _, _, got, primary, fields, others⟩
      have second : own = .ofInt 2 := Option.some.inj (keyed.symm.trans next)
      cases isRecord.symm.trans object
      rw [second] at keyed others
      rcases others (.ofInt 1) apart with ⟨same, before, after⟩
      rw [get_eq hosts.held, first, Option.bind_some, there] at before
      cases before
      rw [primaryField] at primary
      refine ⟨hosts, key, left, stored, found, rfl, keyed, got, ?_, ?_, primary, there, after⟩
      · rw [fields, name, Option.some_or, Option.some_or]
      · rw [fields, roleless, role, Option.none_or, Option.some_or]

/-! ## Several insertions -/

/-- Inserts values by one call each, one after the other. Gives how each call ended, and
the storage after the last one. -/
def insertInTurn (connection : Connection) (type : RecordType) :
    List Value → Storage → List (Except StorageError Value) × Storage
  | [], storage => ([], storage)
  | value :: rest, storage =>
      let result := connection.insertOne type value storage
      let later := insertInTurn connection type rest (Action.left result)
      (Action.ending result :: later.1, later.2)

/-- The values that were accepted, of several of which each had its outcome. -/
def accepted {ε α β : Type} (values : List α) (outcomes : List (Except ε β)) : List α :=
  ((values.zip outcomes).filter (·.2.isOk)).map Prod.fst

@[simp]
theorem accepted_cons_ok {ε α β : Type} (first : α) (rest : List α) (result : β)
    (outcomes : List (Except ε β)) :
    accepted (first :: rest) (.ok result :: outcomes) = first :: accepted rest outcomes :=
  rfl

@[simp]
theorem accepted_cons_error {ε α β : Type} (first : α) (rest : List α) (error : ε)
    (outcomes : List (Except ε β)) :
    accepted (first :: rest) (.error error :: outcomes) = accepted rest outcomes :=
  rfl

/-- What several insertions do to a store: the values are added one after the other,
each to the store that those in front have left. -/
def addEach (type : RecordType) :
    List Value → Store → List (Except StorageError Value) × Store
  | [], store => ([], store)
  | value :: rest, store =>
      match addValue type value store with
      | .ok (key, changed) =>
          let later := addEach type rest changed
          (.ok key :: later.1, later.2)
      | .error error =>
          let later := addEach type rest store
          (.error error :: later.1, later.2)

theorem addEach_of_ok (added : addValue type value store = .ok (key, changed))
    (rest : List Value) :
    addEach type (value :: rest) store =
      (.ok key :: (addEach type rest changed).1, (addEach type rest changed).2) := by
  simp only [addEach, added]

theorem addEach_of_error {error : StorageError}
    (refused : addValue type value store = .error error) (rest : List Value) :
    addEach type (value :: rest) store =
      (.error error :: (addEach type rest store).1, (addEach type rest store).2) := by
  simp only [addEach, refused]

theorem length_addEach (values : List Value) (store : Store) :
    (addEach type values store).1.length = values.length := by
  induction values generalizing store with
  | nil => rfl
  | cons value rest inductionHypothesis =>
      cases added : addValue type value store with
      | ok result =>
          rw [addEach_of_ok added, List.length_cons, inductionHypothesis, List.length_cons]
      | error error =>
          rw [addEach_of_error added, List.length_cons, inductionHypothesis,
            List.length_cons]

/-- Values that are refused might as well not have been there. -/
theorem addEach_accepted (values : List Value) (store : Store) :
    addEach type (accepted values (addEach type values store).1) store =
      ((addEach type values store).1.filter (·.isOk), (addEach type values store).2) := by
  induction values generalizing store with
  | nil => rfl
  | cons value rest inductionHypothesis =>
      cases added : addValue type value store with
      | ok result =>
          rw [addEach_of_ok added, accepted_cons_ok, addEach_of_ok added, inductionHypothesis]
          rfl
      | error error =>
          rw [addEach_of_error added, accepted_cons_error, inductionHypothesis]
          rfl

/-- One transaction for all values adds them one after the other. -/
theorem insertEach_eq (values : List Value) (storeName : String) (store : Store) :
    insertEach type values ⟨storeName, .readWrite, store⟩ =
      ((addEach type values store).1,
        ⟨storeName, .readWrite, (addEach type values store).2⟩) := by
  induction values generalizing store with
  | nil => rfl
  | cons value rest inductionHypothesis =>
      unfold insertEach
      cases prepared : prepare type value with
      | error error =>
          have refused : addValue type value store = .error error := by rw [addValue, prepared]
          rw [addEach_of_error refused]
          simp only [inductionHypothesis]
      | ok record =>
          have same : addValue type value store = store.add record := by rw [addValue, prepared]
          have adds := Transaction.add_of_readWrite record storeName store
          cases added : store.add record with
          | ok result =>
              rw [addEach_of_ok (same.trans added)]
              simp only [adds, added, inductionHypothesis]
          | error error =>
              rw [addEach_of_error (same.trans added)]
              simp only [adds, added, inductionHypothesis]

/-- Several values are inserted by one transaction that adds them one after the other. -/
theorem insert_eq (held : (storage.database connection.name).stores.get? type.storeName =
      some store) (values : List Value) :
    connection.insert type values storage =
      .ok (addEach type values store).1 (storage.commit connection.name
        ⟨type.storeName, .readWrite, (addEach type values store).2⟩) := by
  cases values with
  | nil =>
      rw [addEach, Storage.commit_begun held]
      rfl
  | cons value rest =>
      simp only [insert, List.isEmpty_cons, Bool.false_eq_true, if_false]
      apply Storage.transact_of_ok held
      rw [insertEach_eq]

/-- Calls for one value each add them one after the other, too. -/
theorem insertInTurn_eq (held : (storage.database connection.name).stores.get? type.storeName =
      some store) (values : List Value) :
    connection.insertInTurn type values storage =
      ((addEach type values store).1, storage.commit connection.name
        ⟨type.storeName, .readWrite, (addEach type values store).2⟩) := by
  induction values generalizing storage store with
  | nil =>
      rw [addEach, Storage.commit_begun held]
      rfl
  | cons value rest inductionHypothesis =>
      rw [insertInTurn, insertOne_eq held]
      cases added : addValue type value store with
      | ok result =>
          have taken := Storage.takenOver_commit storage connection.name
            ⟨type.storeName, .readWrite, result.2⟩
          rw [addEach_of_ok added]
          simp only [Action.left, Action.ending]
          rw [inductionHypothesis taken.stored, Storage.commit_commit]
      | error error =>
          rw [addEach_of_error added]
          simp only [Action.left, Action.ending]
          rw [inductionHypothesis held]

/-- Inserting several values is inserting one after the other, and what is refused uses no key up
and leaves nothing behind. -/
theorem insert_in_turn (held : (storage.database connection.name).stores.get? type.storeName =
      some store) (values : List Value) :
    let turns := connection.insertInTurn type values storage
    turns.1.length = values.length ∧
      connection.insert type values storage = .ok turns.1 turns.2 ∧
      connection.insert type (accepted values turns.1) storage =
        .ok (turns.1.filter (·.isOk)) turns.2 := by
  intro turns
  have same : turns = _ := insertInTurn_eq held values
  rw [same]
  refine ⟨length_addEach values store, insert_eq held values, ?_⟩
  rw [insert_eq held, addEach_accepted]

/-- Of six values one is no object, one repeats an email, and one has a key that is none. A given
key moves the generator for the next. -/
theorem insert_in_turn_with_refusals :
    let byEmail : IndexDescriptor :=
      { name := "by_email", unique := true, keyPath := .single "email" }
    let type : RecordType := { storeName := "people", indexes := [byEmail] }
    let store := Store.ofHistory {}
      [ .createIndex "people" byEmail
      , .add (.ofList [("email", .string "ann")]) ]
    let storage := ({} : Storage).keep "main" ⟨1, SortedMap.empty.insert "people" store⟩
    let connection : Connection := ⟨"main", 1, .empty⟩
    let values : List Value :=
      [ .string "ben"
      , .ofRecord (.ofList [("email", .string "ben")])
      , .ofRecord (.ofList [("email", .string "ben"), ("name", .string "Ben")])
      , .ofRecord (.ofList [("_id", .null)])
      , .ofRecord (.ofList [("_id", .ofInt 7)])
      , .ofRecord .empty ]
    ∃ outcomes left,
      (storage.database "main").stores.get? "people" = some store ∧
      connection.insert type values storage = .ok outcomes left ∧
      connection.insertInTurn type values storage = (outcomes, left) ∧
      outcomes.map (·.toOption.bind Key.ofValue?) =
        [none, some (.ofInt 2), none, none, some (.ofInt 7), some (.ofInt 8)] ∧
      connection.insert type (accepted values outcomes) storage =
        .ok (outcomes.filter (·.isOk)) left := by
  intro byEmail type store storage connection values
  have held : (storage.database "main").stores.get? "people" = some store :=
    Storage.get?_stores_keep {} "main" "people" 1 .empty store
  have keys : (connection.insertInTurn type values storage).1.map
      (·.toOption.bind Key.ofValue?) =
        [none, some (.ofInt 2), none, none, some (.ofInt 7), some (.ofInt 8)] := by
    decide +kernel
  clear_value store storage values
  rcases @insert_in_turn connection type storage store held values with ⟨_, together, without⟩
  exact ⟨_, _, held, together, rfl, keys, without⟩

end Connection

end RecordBase
