import RecordBase.Proofs.Connection.Insertion
import RecordBase.Proofs.Connection.Succession
import RecordBase.Proofs.Connection.Synchronization
import RecordBase.Proofs.Schema.Acceptance
import RecordBase.Proofs.Storage.Alignment

/-!
# Insertions under generated keys

Every usable configuration can be opened on an empty storage. From then on, whatever is
called, a record without a key that is inserted into a store which generates its keys gets a
key that no record has had, or is refused for want of one or for a unique index. All this
rests on the primary field having no declared default. Defaults are filled in first, and one
that stands in for the key is no key, or is taken by the first record that gets it.
-/

namespace RecordBase

open RecordBase.Action

/-- An empty store takes every record that has a key. -/
theorem Store.add_of_empty {store : Store} {record : Record} {key : Key}
    (consistent : store.Consistent) (empty : ∀ other, store.get? other = none)
    (own : Key.ofField? record store.primaryKey.field = some key) :
    ∃ value, store.add record = .ok (value, store.place key record) := by
  have added : store.add record = _ :=
    write_of_resolveKey (resolveKey_of_ofField? own) (.inr (empty key))
  cases collision : store.collision? record key with
  | none =>
      rw [collision] at added
      exact ⟨_, added⟩
  | some fault =>
      obtain ⟨_, _, _, other, held, _, _, _, _, stored, _⟩ :=
        consistent.exists_of_collision? collision
      rw [empty other] at stored
      contradiction

namespace Connection

/-- The store of a record type in the database of a connection. -/
def store? (connection : Connection) (type : RecordType) (storage : Storage) : Option Store :=
  (storage.database connection.name).stores.get? type.storeName

theorem reachable_of_store? {connection : Connection} {type : RecordType} {storage : Storage}
    {store : Store} (reachable : storage.Reachable)
    (held : connection.store? type storage = some store) : store.Reachable :=
  reachable.all.found _ _ store held

/-! ## The first connection -/

/-- A usable configuration is opened on the empty storage. Its stores are as they are
declared, and empty. -/
theorem exists_connect_empty {configuration : Configuration} (usable : configuration.Usable) :
    ∃ connection start, connect {} configuration = .ok connection start ∧
      start = ({} : Storage).after (.connect configuration) ∧
      ∀ type ∈ configuration.types, connection.recordType type.storeName = .ok type ∧
        ∃ store, connection.store? type start = some store ∧
          Database.SyncedFrom type none store := by
  obtain ⟨catalog, accepted, held⟩ := Configuration.exists_catalog usable
  have raised : (Storage.database {} configuration.name).version < configuration.version :=
    usable.version
  cases synced : Database.synchronize catalog (Storage.database {} configuration.name) with
  | error error given =>
      obtain ⟨_, _, _, found, _⟩ := Database.blocked_of_synchronize
        (Catalog.keyed_of_configuration accepted) (Storage.all_empty.found _) synced
      contradiction
  | ok _ upgraded =>
      have connected := connect_of_synchronize accepted raised synced
      refine ⟨_, _, connected, ?_, ?_⟩
      · rw [Storage.after, connected, left]
      · intro type declared
        have known := (held type.storeName type).mpr ⟨declared, rfl⟩
        refine ⟨by simp only [recordType, known], ?_⟩
        obtain ⟨_, made⟩ := synced_of_connect .empty raised connected
        exact made type (SortedMap.mem_values_iff.mpr ⟨_, known⟩)

/-! ## Insertions without a key -/

/-- After calls from a start on, an insertion gives a key that no record has had, or is refused
for the generator's end or for a unique index. -/
def InsertsFresh (connection : Connection) (type : RecordType) (start : Storage)
    (calls : List Storage.Call) (value : Value) : Prop :=
  let storage := calls.foldl Storage.after start
  match ending (connection.insertOne type value storage) with
  | .ok given => ∃ key, Key.ofValue? given = some key ∧
      ∀ earlier, earlier <+: calls → ∀ store,
        connection.store? type (earlier.foldl Storage.after start) = some store →
          store.get? key = none
  | .error error =>
      error = .constraint (.generatorExhausted type.primaryField) ∨
        ∃ index key, error = .constraint (.indexTaken index.name key) ∧ index.unique = true ∧
          (connection.store? type storage).bind (·.descriptor? index.name) = some index ∧
          ((∀ call ∈ calls, ¬call.Connects) → index ∈ type.indexes)

variable {connection : Connection} {type : RecordType} {start : Storage} {store : Store}
  {value : Value} {record : Record}

/-- What an insertion ends in is what adding the value to the store ends in. -/
theorem ending_insertOne {storage : Storage} (held : connection.store? type storage = some store)
    (value : Value) :
    ending (connection.insertOne type value storage) =
      (addValue type value store).map Prod.fst := by
  rw [insertOne_eq held]
  cases addValue type value store with
  | error error => rfl
  | ok result => rfl

/-- A value without a key is added under the generator, or refused for want of a generated key
or for a unique index, unless a default stands in for the key. -/
theorem addValue_of_keyless (reachable : store.Reachable)
    (generates : store.primaryKey.autoIncrement = true)
    (primaryField : store.primaryKey.field = type.primaryField)
    (noDefault : type.default? type.primaryField = none) (object : value.asRecord = .ok record)
    (keyless : record.get? type.primaryField = none) :
    (∃ changed, addValue type value store = .ok (.ofInt store.generator, changed) ∧
        store.generator ≤ Store.lastGenerated) ∨
      ∃ error, addValue type value store = .error error ∧
        (error = .constraint (.generatorExhausted type.primaryField) ∨
          ∃ index key, error = .constraint (.indexTaken index.name key) ∧ index.unique = true ∧
            store.descriptor? index.name = some index) := by
  have added : addValue type value store = store.write (record.withDefaults type) false := by
    rw [addValue, prepare_eq_ok_iff.mpr ⟨record, object, rfl⟩]
    rfl
  have stillKeyless : (record.withDefaults type).get? store.primaryKey.field = none := by
    rw [primaryField, Record.get?_withDefaults, keyless, noDefault, Option.none_or]
  rw [added]
  cases written : store.write (record.withDefaults type) false with
  | ok result =>
      obtain ⟨given, changed⟩ := result
      obtain ⟨own, available, _⟩ := reachable.generated_of_write generates stillKeyless written
      exact .inl ⟨changed, by rw [own], available⟩
  | error error =>
      refine .inr ⟨error, rfl, ?_⟩
      rcases reachable.error_of_write generates stillKeyless written with
        ⟨_, exhausted⟩ | ⟨name, index, key, _, _, taken, described, unique, _⟩
      · rw [primaryField] at exhausted
        exact .inl exhausted
      · obtain ⟨built, found, rfl⟩ := Option.map_eq_some_iff.mp described
        have named := reachable.consistent.named found
        refine .inr ⟨built.descriptor, key, ?_, unique, ?_⟩
        · rw [taken, named]
        · rw [named]
          exact described

/-- A new store is empty. -/
theorem get?_eq_none_of_syncedFrom (synced : Database.SyncedFrom type none store) (key : Key) :
    store.get? key = none := by
  rw [Store.get?, synced.data.records]
  rfl

/-- An index of a new store is declared with the record type. -/
theorem mem_indexes_of_syncedFrom (synced : Database.SyncedFrom type none store)
    {index : IndexDescriptor} (described : store.descriptor? index.name = some index) :
    index ∈ type.indexes := by
  by_cases known : index.name ∈ type.indexes.map (·.name)
  · obtain ⟨declared, member, same⟩ := List.mem_map.mp known
    have own := synced.declared declared member
    rw [same, described] at own
    exact Option.some.inj own ▸ member
  · rw [synced.undeclared _ known] at described
    contradiction

/-- Without a default in the place of the key, an insertion without a key is fresh after any
calls. -/
theorem insertsFresh_of_default?_eq_none (reachable : start.Reachable)
    (held : connection.store? type start = some store)
    (synced : Database.SyncedFrom type none store)
    (generates : type.primaryKey.autoIncrement = true)
    (noDefault : type.default? type.primaryField = none) (object : value.asRecord = .ok record)
    (keyless : record.get? type.primaryField = none) (calls : List Storage.Call) :
    connection.InsertsFresh type start calls value := by
  obtain ⟨now, nowHeld, continues⟩ :=
    reachable.has_foldl ⟨store, held, .refl store⟩ calls
  have primaryKey : now.primaryKey = type.primaryKey :=
    continues.primaryKey.trans synced.data.primaryKey
  have nowGenerates : now.primaryKey.autoIncrement = true := by
    rw [primaryKey]
    exact generates
  rw [InsertsFresh, ending_insertOne nowHeld]
  rcases addValue_of_keyless (reachable_of_store? (reachable.foldl calls) nowHeld) nowGenerates
    (congrArg (·.field) primaryKey) noDefault object keyless with
    ⟨changed, added, available⟩ | ⟨error, refused, cause⟩
  · rw [added]
    simp only [Except.map]
    have fits : -2 ^ 63 ≤ (now.generator : Int) ∧ (now.generator : Int) < 2 ^ 64 := by
      simp only [Store.lastGenerated] at available
      omega
    refine ⟨.ofInt now.generator, Key.ofValue?_ofInt fits, ?_⟩
    rintro earlier ⟨later, rfl⟩ before beforeHeld
    obtain ⟨last, lastHeld, since⟩ :=
      (reachable.foldl earlier).has_foldl ⟨before, beforeHeld, .refl before⟩ later
    rw [← List.foldl_append] at lastHeld
    obtain rfl : now = last := Option.some.inj (nowHeld.symm.trans lastHeld)
    have beforeReachable := reachable_of_store? (reachable.foldl earlier) beforeHeld
    refine beforeReachable.unused ?_ since.generator available
    rw [← since.primaryKey]
    exact nowGenerates
  · rw [refused]
    rcases cause with exhausted | ⟨index, key, taken, unique, described⟩
    · exact .inl exhausted
    · refine .inr ⟨index, key, taken, unique, ?_, ?_⟩
      · rw [store?, nowHeld, Option.bind_some, described]
      · intro quiet
        obtain ⟨again, againHeld, same⟩ :=
          Storage.has_described_foldl ⟨store, held, fun _ => rfl⟩ quiet
        obtain rfl : now = again := Option.some.inj (nowHeld.symm.trans againHeld)
        exact mem_indexes_of_syncedFrom synced ((same _).symm.trans described)

/-! ## Defaults in the place of keys -/

/-- The declared default of the primary field stands in for the key of an empty object. -/
theorem get?_withDefaults_of_default? (synced : Database.SyncedFrom type none store)
    {default : Value} (declared : type.default? type.primaryField = some default) :
    (Record.withDefaults .empty type).get? store.primaryKey.field = some default := by
  have primaryField : store.primaryKey.field = type.primaryField :=
    congrArg (·.field) synced.data.primaryKey
  rw [primaryField, Record.get?_withDefaults, declared]
  rfl

/-- An empty object whose key would be a default is refused, if the default is no key. -/
theorem insertOne_of_default_not_key (held : connection.store? type start = some store)
    {default : Value}
    (filled : (Record.withDefaults .empty type).get? store.primaryKey.field = some default)
    (keyless : Key.ofValue? default = none) :
    connection.insertOne type (.object []) start =
      .error (.data (.invalidKey default store.primaryKey.field)) start := by
  have refused : store.resolveKey (Record.withDefaults .empty type) =
      .error (.data (.invalidKey default store.primaryKey.field)) := by
    simp only [Store.resolveKey, filled, keyless]
  have added : addValue type (.object []) store =
      .error (.data (.invalidKey default store.primaryKey.field)) :=
    Store.write_of_resolveKey_eq_error refused
  rw [insertOne_eq held, added]

/-- A default that is a key is given to the first empty object that is inserted, and the
second is refused for it. -/
theorem insertOne_twice_of_default_key (held : connection.store? type start = some store)
    (consistent : store.Consistent) (empty : ∀ other, store.get? other = none) {key : Key}
    (own : Key.ofField? (Record.withDefaults .empty type) store.primaryKey.field = some key) :
    ∃ given next, connection.insertOne type (.object []) start = .ok given next ∧
      connection.insertOne type (.object []) next =
        .error (.constraint (.keyExists key)) next := by
  let changed := store.place key (Record.withDefaults .empty type)
  obtain ⟨given, added⟩ : ∃ given, addValue type (.object []) store = .ok (given, changed) :=
    Store.add_of_empty consistent empty own
  have inserted := insertOne_eq held (.object [])
  rw [added] at inserted
  have committed := (Storage.takenOver_commit start connection.name
    ⟨type.storeName, .readWrite, changed⟩).stored
  have stillOwn : Key.ofField? (Record.withDefaults .empty type) changed.primaryKey.field =
      some key := by
    rw [Store.primaryKey_place]
    exact own
  have occupied : changed.get? key ≠ none := by
    rw [Store.get?_place, if_pos rfl]
    nofun
  have again : addValue type (.object []) changed = .error (.constraint (.keyExists key)) :=
    Store.write_of_taken (Store.resolveKey_of_ofField? stillOwn) occupied
  refine ⟨given, _, inserted, ?_⟩
  rw [insertOne_eq committed, again]

/-- An insertion is not fresh if it is refused for a key. -/
theorem not_insertsFresh_of_error {calls : List Storage.Call} {error : StorageError}
    {left : Storage} (refused : connection.insertOne type value
      (calls.foldl Storage.after start) = .error error left)
    (invalid : (∃ key field, error = .data (.invalidKey key field)) ∨
      ∃ key, error = .constraint (.keyExists key)) :
    ¬connection.InsertsFresh type start calls value := by
  rw [InsertsFresh, refused]
  rcases invalid with ⟨key, field, rfl⟩ | ⟨key, rfl⟩
  · rintro (exhausted | ⟨_, _, taken, _⟩)
    · cases exhausted
    · cases taken
  · rintro (exhausted | ⟨_, _, taken, _⟩)
    · cases exhausted
    · cases taken

/-- A default in the place of the key keeps some insertion from being fresh. -/
theorem exists_not_insertsFresh (reachable : start.Reachable)
    (held : connection.store? type start = some store)
    (synced : Database.SyncedFrom type none store) {default : Value}
    (declared : type.default? type.primaryField = some default) :
    ∃ calls, ¬connection.InsertsFresh type start calls (.object []) := by
  have filled := get?_withDefaults_of_default? synced declared
  cases keyed : Key.ofValue? default with
  | none =>
      have refused := insertOne_of_default_not_key held filled keyed
      exact ⟨[], not_insertsFresh_of_error refused (.inl ⟨_, _, rfl⟩)⟩
  | some key =>
      have own := Option.bind_eq_some_iff.mpr ⟨default, filled, keyed⟩
      obtain ⟨given, next, inserted, refused⟩ := insertOne_twice_of_default_key held
        (reachable_of_store? reachable held).consistent (get?_eq_none_of_syncedFrom synced) own
      have after : [Storage.Call.insertOne connection type (.object [])].foldl Storage.after start =
          next := by
        rw [List.foldl_cons, List.foldl_nil, Storage.after, inserted, left]
      rw [← after] at refused
      exact ⟨_, not_insertsFresh_of_error refused (.inr ⟨key, rfl⟩)⟩

/-! ## Fresh keys -/

/-- Insertions without a key get keys that no record has had exactly if the primary field has no
declared default. -/
theorem insertions_fresh_iff {configuration : Configuration}
    (valid : configuration.validate = .ok ()) :
    ∃ connection start, connect {} configuration = .ok connection start ∧
      ∀ type ∈ configuration.types, connection.recordType type.storeName = .ok type ∧
        (type.primaryKey.autoIncrement = true →
          ((∀ calls value record, value.asRecord = .ok record →
              record.get? type.primaryField = none →
                connection.InsertsFresh type start calls value) ↔
            type.default? type.primaryField = none)) := by
  obtain ⟨connection, start, connected, after, made⟩ :=
    exists_connect_empty (Configuration.validate_eq_ok_iff.mp valid)
  have reachable : start.Reachable := after ▸ Storage.Reachable.empty.after _
  refine ⟨connection, start, connected, ?_⟩
  intro type declared
  obtain ⟨known, store, held, synced⟩ := made type declared
  refine ⟨known, fun generates => ⟨?_, ?_⟩⟩
  · intro fresh
    by_contra defaulted
    obtain ⟨default, stands⟩ := Option.ne_none_iff_exists'.mp defaulted
    obtain ⟨calls, stale⟩ := exists_not_insertsFresh reachable held synced stands
    exact stale (fresh calls (.object []) .empty rfl rfl)
  · intro noDefault calls value record object keyless
    exact insertsFresh_of_default?_eq_none reachable held synced generates noDefault object
      keyless calls

/-- A student is inserted without a key after another was deleted, who had the same email. -/
theorem insertions_fresh_iff_after_deletion :
    let role : Field := { type := .string, default := some (.string "guest") }
    let type : RecordType :=
      { storeName := "student"
        fields := .ofList [("role", role)]
        indexes := [⟨"by_email", true, .single "email"⟩] }
    let configuration : Configuration := ⟨"school", 1, [type]⟩
    let student : Value := .object [("email", .string "a@x.io")]
    configuration.validate = .ok () ∧ ∃ connection start,
      connect {} configuration = .ok connection start ∧
        connection.InsertsFresh type start
          [.insertOne connection type student, .delete connection type {}] student := by
  intro role type configuration student
  have valid : configuration.validate = .ok () :=
    Configuration.validate_eq_ok_iff_isNone.mpr (by decide +kernel)
  have keyless : (SortedMap.ofList [("email", .string "a@x.io")] : Record).get? "_id" = none :=
    SortedMap.get?_insert_of_ne .empty _ (by decide)
  have noDefault : type.default? type.primaryField = none := by
    have absent : type.fields.get? "_id" = none := SortedMap.get?_insert_of_ne .empty _ (by decide)
    exact congrArg (Option.bind · Field.default) absent
  obtain ⟨connection, start, connected, all⟩ := insertions_fresh_iff valid
  have fresh := ((all type (List.mem_singleton_self type)).2 rfl).mpr noDefault
  exact ⟨valid, connection, start, connected, fresh _ student _ rfl keyless⟩

/-- For the primary field a default of `true` is refused on insertion, and a default of `5` is
the key of the first record and keeps out the second. -/
theorem default_taken_for_key :
    let declaring (field : Field) : RecordType :=
      { storeName := "s", primaryKey := { field := "id" }, fields := .ofList [("id", field)] }
    let flag := declaring { type := .boolean, default := some (.bool true) }
    let five := declaring { type := .number, default := some (.ofInt 5) }
    (Configuration.validate ⟨"main", 1, [flag]⟩ = .ok () ∧ flag.primaryKey.autoIncrement = true ∧
      ∃ connection start after, connect {} ⟨"main", 1, [flag]⟩ = .ok connection start ∧
        connection.insertOne flag (.object []) start =
          .error (.data (.invalidKey (.bool true) "id")) after) ∧
    Configuration.validate ⟨"main", 1, [five]⟩ = .ok () ∧ five.primaryKey.autoIncrement = true ∧
      ∃ connection start key next after, connect {} ⟨"main", 1, [five]⟩ = .ok connection start ∧
        connection.insertOne five (.object []) start = .ok key next ∧
        connection.insertOne five (.object []) next =
          .error (.constraint (.keyExists (.ofInt 5))) after := by
  intro declaring flag five
  have default (field : Field) : (declaring field).default? "id" = field.default :=
    congrArg (Option.bind · Field.default) (SortedMap.get?_insert_self .empty "id" field)
  have flagAccepted : Configuration.validate ⟨"main", 1, [flag]⟩ = .ok () :=
    Configuration.validate_eq_ok_iff_isNone.mpr (by decide +kernel)
  have fiveAccepted : Configuration.validate ⟨"main", 1, [five]⟩ = .ok () :=
    Configuration.validate_eq_ok_iff_isNone.mpr (by decide +kernel)
  refine ⟨⟨flagAccepted, rfl, ?_⟩, fiveAccepted, rfl, ?_⟩
  · obtain ⟨connection, start, connected, _, made⟩ :=
      exists_connect_empty (Configuration.validate_eq_ok_iff.mp flagAccepted)
    obtain ⟨_, store, held, synced⟩ := made flag (List.mem_singleton_self flag)
    have filled := get?_withDefaults_of_default? synced (default _)
    have refused := insertOne_of_default_not_key held filled rfl
    rw [synced.data.primaryKey] at refused
    exact ⟨connection, start, start, connected, refused⟩
  · obtain ⟨connection, start, connected, after, made⟩ :=
      exists_connect_empty (Configuration.validate_eq_ok_iff.mp fiveAccepted)
    have reachable : start.Reachable := after ▸ Storage.Reachable.empty.after _
    obtain ⟨_, store, held, synced⟩ := made five (List.mem_singleton_self five)
    have filled := get?_withDefaults_of_default? synced (default _)
    have own := Option.bind_eq_some_iff.mpr ⟨_, filled, Key.ofValue?_ofInt (by decide)⟩
    obtain ⟨given, next, inserted, refused⟩ := insertOne_twice_of_default_key held
      (reachable_of_store? reachable held).consistent (get?_eq_none_of_syncedFrom synced) own
    exact ⟨connection, start, given, next, next, connected, inserted, refused⟩

end Connection

end RecordBase
