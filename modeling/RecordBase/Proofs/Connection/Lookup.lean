import RecordBase.Proofs.Connection.Single
import RecordBase.Proofs.Key.Conversion
import RecordBase.Proofs.Schema.Validation

/-!
# Look-ups by primary key

A record is looked up under the key of a value, or asked for with a clause about the
primary field. A clause about this field leaves a range of the primary keys, or else no
range of any index, so no declared index plays a part, whether the store has it or not.
A value that is no key has no record, and none that is stored equals it in its primary
field. So both ways lead to one record at most, and to the same. Which of the values with
one key is asked for makes no difference, and the one that the key is converted to will do.
-/

namespace RecordBase

/-! ## Clauses about the primary field -/

theorem WhereClause.get?_ofList_singleton (field other : String) (predicate : Predicate) :
    SortedMap.get? (.ofList [(field, predicate)]) other =
      if field = other then some predicate else none := by
  by_cases same : field = other
  · subst same
    rw [if_pos rfl]
    exact SortedMap.get?_insert_self .empty field predicate
  · rw [if_neg same]
    exact SortedMap.get?_insert_of_ne .empty predicate same

/-- A predicate without a key range asks for no key. -/
theorem Predicate.exactKey?_of_keyRange? {predicate : Predicate}
    (unranged : predicate.keyRange? = none) : predicate.exactKey? = none := by
  cases exactly : predicate.exactValue? with
  | none => rw [exactKey?, exactly, Option.bind_none]
  | some expected =>
      rw [keyRange?_of_exactValue? exactly, Option.map_eq_none_iff] at unranged
      rw [exactKey?, exactly, Option.bind_some, unranged]

/-- A clause about one field whose predicate has no key range leaves no range of any
index that has a field. -/
theorem WhereClause.pathRange?_of_keyRange? {field : String} {predicate : Predicate}
    (unranged : predicate.keyRange? = none) {path : KeyPath}
    (wellFormed : path ≠ .composite []) :
    pathRange? (.ofList [(field, predicate)]) path = none := by
  cases path with
  | single other =>
      rw [pathRange?, fieldRange?, get?_ofList_singleton]
      split
      · exact unranged
      · rfl
  | composite fields =>
      cases fields with
      | nil => contradiction
      | cons first rest =>
          have keyless : ((SortedMap.get? (.ofList [(field, predicate)]) first).bind
              Predicate.exactKey?) = none := by
            rw [get?_ofList_singleton]
            split
            · exact Predicate.exactKey?_of_keyRange? unranged
            · rfl
          simp [pathRange?, compositeKey?, keyless]

/-- A clause about the primary field is answered from the range of the primary keys that
it leaves, or else from all records. No index is walked. -/
theorem Selection.source_choose_of_primary {type : RecordType} (valid : type.validate = .ok ())
    (predicate : Predicate) :
    let clause : WhereClause := .ofList [(type.primaryField, predicate)]
    (choose type clause).source clause =
      match predicate.keyRange? with
      | some range => .primary range
      | none => .full := by
  intro clause
  have asked : clause.fieldRange? type.primaryField = predicate.keyRange? := by
    rw [WhereClause.fieldRange?, WhereClause.get?_ofList_singleton, if_pos rfl, Option.bind_some]
  cases ranged : predicate.keyRange? with
  | some range =>
      have nonempty : clause.isEmpty = false := rfl
      have found : clause.fieldRange? type.primaryField = some range := asked.trans ranged
      simp [choose, nonempty, source, found]
  | none =>
      rcases source_choose type clause with
        whole | ⟨range, found, _⟩ | ⟨index, declared, range, found, _⟩
      · exact whole
      · rw [asked, ranged] at found
        contradiction
      · have wellFormed : index.keyPath ≠ .composite [] := fun path =>
          RecordType.ne_nil_of_validate valid declared path rfl
        rw [WhereClause.pathRange?_of_keyRange? ranged wellFormed] at found
        contradiction

/-! ## Stored records of a key -/

namespace Store

variable {store : Store} {key : Key} {record : Record} {predicate : Predicate} {value : Value}

/-- A stored record has a given value in its primary field if it stands under the key of
this value. -/
theorem Consistent.equal_primary_iff (consistent : store.Consistent)
    (stored : store.get? key = some record) (value : Value) :
    (∃ own, record.get? store.primaryKey.field = some own ∧ own.equal value = true) ↔
      Key.ofValue? value = some key := by
  rcases Option.bind_eq_some_iff.mp (consistent.ownKey stored) with ⟨own, held, keyed⟩
  constructor
  · rintro ⟨_, again, same⟩
    cases held.symm.trans again
    rw [← Key.ofValue?_eq_of_equal own value same, keyed]
  · intro sameKey
    exact ⟨own, held, (Key.equal_iff_of_ofValue? sameKey).mpr keyed⟩

/-- The record under the key of a value is the one that is stored with this value in its
primary field. -/
theorem Consistent.get?_ofValue?_eq_some_iff (consistent : store.Consistent) (value : Value) :
    (Key.ofValue? value).bind store.get? = some record ↔
      record ∈ store.records.values ∧
        ∃ own, record.get? store.primaryKey.field = some own ∧ own.equal value = true := by
  rw [Option.bind_eq_some_iff, SortedMap.mem_values_iff]
  constructor
  · rintro ⟨key, keyed, stored⟩
    exact ⟨⟨key, stored⟩, (consistent.equal_primary_iff stored value).mpr keyed⟩
  · rintro ⟨⟨key, stored⟩, same⟩
    exact ⟨key, (consistent.equal_primary_iff stored value).mp same, stored⟩

/-- The value of the key of a stored record has this key. -/
theorem Consistent.ofValue?_toValue (consistent : store.Consistent)
    (stored : store.get? key = some record) : Key.ofValue? key.toValue = some key := by
  rcases Option.bind_eq_some_iff.mp (consistent.ownKey stored) with ⟨own, _, keyed⟩
  exact Key.ofValue?_toValue keyed

/-- A stored record is looked up by the values that equal the value of its key. -/
theorem Consistent.get?_ofValue?_eq_some_iff_equal (consistent : store.Consistent)
    (stored : store.get? key = some record) (value : Value) :
    (Key.ofValue? value).bind store.get? = some record ↔ value.equal key.toValue = true := by
  rw [consistent.get?_ofValue?_eq_some_iff, consistent.equal_primary_iff stored,
    Key.equal_iff_of_ofValue? (consistent.ofValue?_toValue stored)]
  exact and_iff_right (SortedMap.mem_values_iff.mpr ⟨key, stored⟩)

theorem Consistent.accepts_primary_iff (consistent : store.Consistent)
    (stored : store.get? key = some record) (exactly : predicate.exactValue? = some value) :
    WhereClause.accepts (.ofList [(store.primaryKey.field, predicate)]) record = true ↔
      Key.ofValue? value = some key := by
  rw [← consistent.equal_primary_iff stored]
  rcases Option.bind_eq_some_iff.mp (consistent.ownKey stored) with ⟨own, held, _⟩
  simp [WhereClause.accepts_of_get? held, Predicate.accepts_of_exactValue? exactly, held]

/-- Of the stored records the one under the key of a value satisfies a clause that asks
for this value in the primary field. -/
theorem Consistent.filter_accepts_primary (consistent : store.Consistent)
    (exactly : predicate.exactValue? = some value) :
    (store.records.toList.filter fun row =>
      WhereClause.accepts (.ofList [(store.primaryKey.field, predicate)]) row.2) =
        ((Key.ofValue? value).bind fun key => (store.get? key).map fun record =>
          (key, record)).toList := by
  have matching : ∀ row ∈ store.records.toList,
      (WhereClause.accepts (.ofList [(store.primaryKey.field, predicate)]) row.2 = true ↔
        Key.ofValue? value = some row.1) :=
    fun _ member => consistent.accepts_primary_iff (SortedMap.get?_eq_some_iff.mpr member) exactly
  cases keyed : Key.ofValue? value with
  | none =>
      rw [List.filter_eq_nil_iff.mpr]
      · rfl
      · intro row member accepted
        have sameKey := (matching row member).mp accepted
        rw [keyed] at sameKey
        contradiction
  | some key =>
      have sameFilter : (store.records.toList.filter fun row =>
          WhereClause.accepts (.ofList [(store.primaryKey.field, predicate)]) row.2) =
            store.records.toList.filter fun row => row.1 == key := by
        apply List.filter_congr
        intro row member
        rw [Bool.eq_iff_iff, matching row member, keyed, Option.some.injEq, beq_iff_eq, eq_comm]
      rw [sameFilter, SortedMap.filter_toList_eq, Option.bind_some, Option.toList_map]
      rfl

end Store

/-! ## Look-ups -/

namespace Connection

/-- A connection hosts a record type in a store of its database that has the declared primary
field, whichever indexes it has. -/
structure Hosts (connection : Connection) (type : RecordType) (storage : Storage)
    (store : Store) : Prop where
  held : (storage.database connection.name).stores.get? type.storeName = some store
  reachable : store.Reachable
  primaryField : type.primaryField = store.primaryKey.field

variable {connection : Connection} {type : RecordType} {storage : Storage} {store : Store}

/-- A record type without its indexes is served wherever the record type is hosted. -/
theorem Hosts.serves (hosts : connection.Hosts type storage store) :
    connection.Serves { type with indexes := [] } storage store :=
  ⟨hosts.held, hosts.reachable, hosts.primaryField, nofun⟩

/-- A look-up gives the record under the key of a value. -/
theorem get_eq (held : (storage.database connection.name).stores.get? type.storeName = some store)
    (value : Value) :
    connection.get type value storage =
      .ok ((Key.ofValue? value).bind store.get?) storage := by
  unfold get
  cases Key.ofValue? value with
  | none => rfl
  | some key => exact Storage.transact_of_idle held rfl

/-- The first record with a value in its primary field does not depend on the indexes. -/
theorem findOne_of_primary (valid : type.validate = .ok ()) (predicate : Predicate)
    (order : List SortKey) :
    let request : Request := { clause := .ofList [(type.primaryField, predicate)], order }
    connection.findOne type request = connection.findOne { type with indexes := [] } request := by
  intro request
  have bare : RecordType.validate { type with indexes := [] } = .ok () := by
    rcases RecordType.validate_eq_ok_iff.mp valid with ⟨storeName, primaryField, defaults, _⟩
    exact RecordType.validate_eq_ok_iff.mpr ⟨storeName, primaryField, defaults, rfl⟩
  have sameSource := (Selection.source_choose_of_primary valid predicate).trans
    (Selection.source_choose_of_primary bare predicate).symm
  have samePlan : Plan.ofRequest type request =
      Plan.ofRequest { type with indexes := [] } request := by
    simp only [Plan.ofRequest, request, sameSource]
    rfl
  simp only [findOne, traverse, samePlan]
  rfl

/-- Where a record type is hosted, a query for a value of the primary field finds the
record under the key of this value. -/
theorem findOne_eq_of_primary (hosts : connection.Hosts type storage store)
    (valid : type.validate = .ok ()) {predicate : Predicate} {value : Value}
    (exactly : predicate.exactValue? = some value) (order : List SortKey) :
    connection.findOne type { clause := .ofList [(type.primaryField, predicate)], order } storage =
      .ok ((Key.ofValue? value).bind store.get?) storage := by
  have consistent := hosts.reachable.consistent
  let request : Request := { clause := .ofList [(type.primaryField, predicate)], order }
  let row? := (Key.ofValue? value).bind fun key => (store.get? key).map fun record => (key, record)
  have records : row?.map Prod.snd = (Key.ofValue? value).bind store.get? := by
    simp [row?, Option.map_bind, Function.comp_def]
  have chosen := @Traversal.chosen_perm { type with indexes := [] } store .find
    hosts.serves.agrees consistent request.clause order
  have single : store.records.toList.filter (fun row => request.clause.accepts row.2) =
      row?.toList := by
    simp only [request, hosts.primaryField]
    exact consistent.filter_accepts_primary exactly
  have first : firstRow { type with indexes := [] } store request = row? := by
    rw [single] at chosen
    cases found : row? with
    | none =>
        rw [found] at chosen
        rw [firstRow, List.perm_nil.mp chosen, List.head?_nil]
    | some row =>
        rw [found] at chosen
        rw [firstRow, List.perm_singleton.mp chosen, List.head?_cons]
  rw [findOne_of_primary valid, findOne_eq hosts.serves, first, records]

/-- A look-up of a value, and a query for it in the primary field, give the one record whose
primary field equals the value, or nothing. -/
theorem get_eq_findOne (hosts : connection.Hosts type storage store)
    (valid : type.validate = .ok ()) (value : Value) (order : List SortKey) :
    ∃ found : Option Record,
      connection.get type value storage = .ok found storage ∧
      connection.findOne type
        { clause := .ofList [(type.primaryField, .literal value)], order } storage =
          .ok found storage ∧
      connection.findOne type
        { clause := .ofList [(type.primaryField, .compare (.equal value))], order } storage =
          .ok found storage ∧
      ∀ record, found = some record ↔
        record ∈ store.records.values ∧
          ∃ own, record.get? type.primaryField = some own ∧ own.equal value = true := by
  refine ⟨(Key.ofValue? value).bind store.get?, get_eq hosts.held value,
    findOne_eq_of_primary hosts valid rfl order, findOne_eq_of_primary hosts valid rfl order, ?_⟩
  intro record
  rw [hosts.primaryField]
  exact hosts.reachable.consistent.get?_ofValue?_eq_some_iff value

/-- The record of the key `2` is found for the double `2.0`, and none for a Boolean. The
index on the primary field that the record type declares is not there. -/
theorem get_eq_findOne_without_index :
    let byKey : IndexDescriptor :=
      { name := "by_key", unique := true, keyPath := .composite ["_id"] }
    let type : RecordType := { storeName := "people", indexes := [byKey] }
    let store := Store.ofHistory {}
      [ .add (.ofList [("name", .string "Ann")])
      , .add (.ofList [("name", .string "Ben")]) ]
    let storage := ({} : Storage).keep "main" ⟨1, SortedMap.empty.insert "people" store⟩
    let connection : Connection := ⟨"main", 1, .empty⟩
    let request (value : Value) : Request :=
      { clause := .ofList [("_id", .literal value)] }
    connection.Hosts type storage store ∧ ¬ type.Agrees store ∧
      (∃ record, store.get? (.ofInt 2) = some record ∧
        connection.get type (.ofDouble (Double.ofInt 2)) storage = .ok (some record) storage ∧
        connection.findOne type (request (.ofDouble (Double.ofInt 2))) storage =
          .ok (some record) storage) ∧
      connection.get type (.bool true) storage = .ok none storage ∧
      connection.findOne type (request (.bool true)) storage = .ok none storage := by
  intro byKey type store storage connection request
  have held : (storage.database "main").stores.get? "people" = some store :=
    Storage.get?_stores_keep {} "main" "people" 1 .empty store
  have hosts : connection.Hosts type storage store :=
    ⟨held, Store.reachable_ofHistory _ _, by decide +kernel⟩
  have valid : type.validate = .ok () := by
    rw [RecordType.validate_eq_ok_iff]
    decide +kernel
  have disagrees : ¬ type.Agrees store := by decide +kernel
  have equals : (((store.get? (.ofInt 2)).bind (·.get? "_id")).any
      (·.equal (.ofDouble (Double.ofInt 2)))) = true := by
    decide +kernel
  clear_value store storage
  refine ⟨hosts, disagrees, ?_, ?_⟩
  · rcases get_eq_findOne hosts valid (.ofDouble (Double.ofInt 2)) [] with
      ⟨found, got, first, _, only⟩
    cases stored : store.get? (.ofInt 2) with
    | none =>
        rw [stored] at equals
        contradiction
    | some record =>
        rw [stored, Option.bind_some, Option.any_eq_true] at equals
        have given : found = some record :=
          (only record).mpr ⟨SortedMap.mem_values_iff.mpr ⟨_, stored⟩, equals⟩
        rw [given] at got first
        exact ⟨record, rfl, got, first⟩
  · rcases get_eq_findOne hosts valid (.bool true) [] with ⟨found, got, first, _, _⟩
    have nothing : connection.get type (.bool true) storage = .ok none storage := rfl
    cases nothing.symm.trans got
    exact ⟨got, first⟩

/-! ## Keys converted back -/

/-- The value of a key has this key again and equals the value that the key is of, so it looks up
the record that is stored under the key. -/
theorem keys_survive_conversion :
    (∀ (value : Value) (key : Key), Key.ofValue? value = some key →
      Key.ofValue? key.toValue = some key ∧ key.toValue.equal value = true) ∧
    ∀ (connection : Connection) (type : RecordType) (storage : Storage) (store : Store),
      (storage.database connection.name).stores.get? type.storeName = some store →
      store.Reachable → ∀ key record, store.get? key = some record →
        connection.get type key.toValue storage = .ok (some record) storage ∧
        (∃ own, record.get? store.primaryKey.field = some own ∧
          key.toValue.equal own = true) ∧
        ∀ value, connection.get type value storage = .ok (some record) storage ↔
          value.equal key.toValue = true := by
  constructor
  · intro value key keyed
    exact ⟨Key.ofValue?_toValue keyed, Key.equal_toValue keyed⟩
  · intro connection type storage store held reachable key record stored
    have looksUp (value : Value) : connection.get type value storage = .ok (some record) storage ↔
        value.equal key.toValue = true := by
      rw [get_eq held, ← reachable.consistent.get?_ofValue?_eq_some_iff_equal stored]
      simp
    have again := reachable.consistent.ofValue?_toValue stored
    rcases Option.bind_eq_some_iff.mp (reachable.consistent.ownKey stored) with
      ⟨own, primary, keyed⟩
    constructor
    · exact (looksUp key.toValue).mpr (Key.equal_toValue again)
    · exact ⟨⟨own, primary, Key.equal_toValue keyed⟩, looksUp⟩

/-- A nested list comes back with its numbers as integers and doubles, around the limit of the
integers as well, and looks its record up. -/
theorem keys_survive_conversion_nested :
    let value : Value := .array
      [ .ofDouble (.ofMagnitude true 0)
      , .array [.ofInt (2 ^ 53 - 1), .ofInt (2 ^ 53), .string "a"]
      , .ofDouble (.nearest true 1 2) ]
    let type : RecordType := { storeName := "people" }
    let store := Store.ofHistory {} [.add (.ofList [("_id", value)])]
    let storage := ({} : Storage).keep "main" ⟨1, SortedMap.empty.insert "people" store⟩
    let connection : Connection := ⟨"main", 1, .empty⟩
    ∃ key record, Key.ofValue? value = some key ∧ store.get? key = some record ∧
      key.toValue.text = "[0,[9007199254740991,9007199254740992.0,\"a\"],-0.5]" ∧
      Key.ofValue? key.toValue = some key ∧ key.toValue.equal value = true ∧
      connection.get type key.toValue storage = .ok (some record) storage := by
  intro value type store storage connection
  have held : (storage.database "main").stores.get? "people" = some store :=
    Storage.get?_stores_keep {} "main" "people" 1 .empty store
  have reachable : store.Reachable := Store.reachable_ofHistory _ _
  have written : (Key.ofValue? value).map (·.toValue.text) =
      some "[0,[9007199254740991,9007199254740992.0,\"a\"],-0.5]" := by
    decide +kernel
  have present : ((Key.ofValue? value).bind store.get?).isSome = true := by decide +kernel
  rcases Option.map_eq_some_iff.mp written with ⟨key, keyed, text⟩
  rcases Option.isSome_iff_exists.mp present with ⟨record, found⟩
  rw [keyed, Option.bind_some] at found
  rcases keys_survive_conversion with ⟨conversion, lookUp⟩
  rcases conversion value key keyed with ⟨again, same⟩
  rcases lookUp connection type storage store held reachable key record found with ⟨got, _, _⟩
  exact ⟨key, record, keyed, found, text, again, same, got⟩

end Connection

end RecordBase
