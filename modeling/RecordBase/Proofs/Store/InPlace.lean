import RecordBase.Proofs.Storage.Action
import RecordBase.Proofs.Store.Write

/-!
# Writing in place

A write as it goes on in a store that is changed on the spot. The key is
resolved and the unique indexes are checked one by one. Then the old record is
taken out, first of the records and then of one index after the other, the new
one is entered into one index after the other, the generator moves, and the
record is stored. An error that comes up anywhere stops the work at once, with
the store as it stands then. As no error comes up after the first change, the
write in place is the write that makes a new store out of the old one.
-/

namespace RecordBase

open RecordBase.Action

namespace Store

/-- A change that makes a new store, as an action: the new store takes the place
of the old one, which stays if the change fails. -/
def replacing {α : Type} (change : Store → Except StorageError (α × Store)) :
    Action Store α := fun store =>
  match change store with
  | .ok (result, changed) => .ok result changed
  | .error error => .error error store

/-! ## Steps -/

/-- Resolves the key of a record. -/
def resolving (record : Record) : Action Store (Key × Record) := fun store =>
  match store.resolveKey record with
  | .ok resolution => .ok resolution store
  | .error error => .error error store

/-- Refuses a key that is in use, unless its record may be replaced. -/
def refuseTaken (key : Key) (overwrite : Bool) : Action Store Unit := do
  if !overwrite && (← get).records.contains key then
    throw (.constraint (.keyExists key))

/-- Refuses a record whose key another one has in a unique index. -/
def checkIndex (record : Record) (primary : Key) (index : StoreIndex) : Action Store Unit :=
  match index.collision? record primary with
  | some key => throw (.constraint (.indexTaken index.descriptor.name key))
  | none => return ()

/-- Checks the indexes one by one. -/
def checkIndexes (record : Record) (primary : Key) : Action Store Unit := do
  (← get).indexes.values.forM (checkIndex record primary)

/-- Changes the index of a name. -/
def changeIndex (change : StoreIndex → StoreIndex) (name : String) : Action Store Unit :=
  modify fun store =>
    { store with
      indexes :=
        match store.indexes.get? name with
        | some index => store.indexes.insert name (change index)
        | none => store.indexes }

/-- Changes the indexes one by one. -/
def changeIndexes (change : StoreIndex → StoreIndex) : Action Store Unit := do
  (← get).indexes.keys.forM (changeIndex change)

/-- Takes the record of a key out of the records and then out of the indexes. -/
def clear (key : Key) : Action Store Unit := do
  match (← get).records.get? key with
  | some record =>
      modify fun store => { store with records := store.records.erase key }
      changeIndexes (·.remove record key)
  | none => return ()

/-- Moves the generator past a key. -/
def advanceGenerator (key : Key) : Action Store Unit :=
  modify fun store =>
    { store with
      generator :=
        if store.primaryKey.autoIncrement then generatorPast store.generator key
        else store.generator }

/-- Puts a record in the place of the one that has its key, and gives the value of
that key. -/
def placing (key : Key) (record : Record) : Action Store Value := do
  clear key
  changeIndexes (·.insert record key)
  advanceGenerator key
  let store ← get
  set { store with records := store.records.insert key record }
  return (record.get? store.primaryKey.field).getD key.toValue

/-- Writes a record step by step. -/
def writing (record : Record) (overwrite : Bool) : Action Store Value := do
  let (key, record) ← resolving record
  refuseTaken key overwrite
  checkIndexes record key
  placing key record

/-- Drops an index, and fails afterwards if there was none. -/
def dropping (storeName name : String) : Action Store Unit := do
  let store ← get
  set { store with indexes := store.indexes.erase name }
  if (store.indexes.get? name).isNone then
    throw (.indexNotFound storeName name)

/-! ## What the steps come to -/

variable {store : Store} {key : Key} {record : Record}

/-- The indexes are checked one by one until the first fault. -/
theorem forM_checkIndex (indexes : List StoreIndex) :
    indexes.forM (checkIndex record key) store =
      match indexes.findSome? fun index =>
        (index.collision? record key).map (.indexTaken index.descriptor.name) with
      | some fault => .error (.constraint fault) store
      | none => .ok () store := by
  induction indexes with
  | nil => rfl
  | cons index rest inductionHypothesis =>
      rw [List.findSome?_cons]
      cases taken : index.collision? record key with
      | some indexKey =>
          have refused : checkIndex record key index store =
              .error (.constraint (.indexTaken index.descriptor.name indexKey)) store := by
            simp only [checkIndex, taken]
            rfl
          exact bind_of_error refused
      | none =>
          have passed : checkIndex record key index store = .ok () store := by
            simp only [checkIndex, taken]
            rfl
          exact (bind_of_ok passed).trans inductionHypothesis

theorem checkIndexes_eq :
    checkIndexes record key store =
      match store.collision? record key with
      | some fault => .error (.constraint fault) store
      | none => .ok () store :=
  forM_checkIndex store.indexes.values

theorem changeIndex_eq (change : StoreIndex → StoreIndex) (name : String) (store : Store) :
    ∃ indexes, changeIndex change name store = .ok () { store with indexes } ∧
      ∀ other, indexes.get? other =
        if other = name then (store.indexes.get? other).map change
        else store.indexes.get? other := by
  refine ⟨_, modify_eq _ _, ?_⟩
  intro other
  cases found : store.indexes.get? name with
  | none =>
      dsimp only
      split
      · rename_i same
        rw [same, found]
        rfl
      · rfl
  | some index =>
      dsimp only
      split
      · rename_i same
        rw [same, found, SortedMap.get?_insert_self]
        rfl
      · rename_i different
        exact SortedMap.get?_insert_of_ne _ _ (Ne.symm different)

/-- The indexes named are changed one by one, and the others stay. -/
theorem forM_changeIndex (change : StoreIndex → StoreIndex) {names : List String}
    (distinct : names.Nodup) (store : Store) :
    ∃ indexes, names.forM (changeIndex change) store = .ok () { store with indexes } ∧
      ∀ name, indexes.get? name =
        if name ∈ names then (store.indexes.get? name).map change else store.indexes.get? name := by
  induction names generalizing store with
  | nil => exact ⟨store.indexes, rfl, fun name => by simp⟩
  | cons first rest inductionHypothesis =>
      rw [List.nodup_cons] at distinct
      obtain ⟨new, distinct⟩ := distinct
      obtain ⟨between, changed, lookup⟩ := changeIndex_eq change first store
      obtain ⟨indexes, restChanged, restLookup⟩ :=
        inductionHypothesis distinct { store with indexes := between }
      refine ⟨indexes, (bind_of_ok changed).trans restChanged, ?_⟩
      intro name
      rw [restLookup name, lookup name]
      by_cases same : name = first
      · simp [same, new]
      · simp [same]

theorem changeIndexes_eq (change : StoreIndex → StoreIndex) (store : Store) :
    changeIndexes change store =
      .ok () { store with indexes := store.indexes.mapValues fun _ index => change index } := by
  obtain ⟨indexes, changed, lookup⟩ :=
    forM_changeIndex change (SortedMap.nodup_keys store.indexes) store
  have same : indexes = store.indexes.mapValues fun _ index => change index := by
    apply SortedMap.ext_get?
    intro name
    rw [lookup name, SortedMap.get?_mapValues]
    split
    · rfl
    · rename_i absent
      rw [SortedMap.get?_eq_none_iff.mpr absent]
      rfl
  exact same ▸ changed

theorem clear_eq (key : Key) (store : Store) : clear key store = .ok () (store.delete key).2 := by
  rw [clear, bind_of_ok (get_eq store), delete]
  cases store.records.get? key with
  | none => rfl
  | some record => exact (bind_of_ok (modify_eq _ _)).trans (changeIndexes_eq _ _)

theorem placing_eq (key : Key) (record : Record) (store : Store) :
    placing key record store =
      .ok ((record.get? store.primaryKey.field).getD key.toValue) (store.place key record) := by
  rw [placing, bind_of_ok (clear_eq key store), bind_of_ok (changeIndexes_eq _ _),
    advanceGenerator, bind_of_ok (modify_eq _ _), bind_of_ok (get_eq _)]
  simp only [place, primaryKey_delete, generator_delete]
  rfl

theorem refuseTaken_eq_ok {overwrite : Bool} (allowed : overwrite = true ∨ store.get? key = none) :
    refuseTaken key overwrite store = .ok () store := by
  rw [refuseTaken, bind_of_ok (get_eq store)]
  rcases allowed with rfl | absent
  · rfl
  · have unused : store.records.contains key = false := by
      simpa [SortedMap.contains, get?] using absent
    simp only [unused, Bool.and_false]
    rfl

theorem refuseTaken_eq_error (taken : store.get? key ≠ none) :
    refuseTaken key false store = .error (.constraint (.keyExists key)) store := by
  have used : store.records.contains key = true := by
    simpa [SortedMap.contains, get?, Option.isSome_iff_ne_none] using taken
  rw [refuseTaken, bind_of_ok (get_eq store)]
  simp only [used]
  rfl

/-! ## The calls -/

/-- The write in place is the write that makes a new store. In particular it
leaves the store as it was where it fails. -/
theorem writing_eq (record : Record) (overwrite : Bool) :
    writing record overwrite = replacing (·.write record overwrite) := by
  funext store
  cases resolved : store.resolveKey record with
  | error error =>
      have failed : resolving record store = .error error store := by
        rw [resolving, resolved]
      rw [replacing, write_of_resolveKey_eq_error resolved]
      exact bind_of_error failed
  | ok resolution =>
      obtain ⟨key, full⟩ := resolution
      have passed : resolving record store = .ok (key, full) store := by
        rw [resolving, resolved]
      refine (bind_of_ok passed).trans ?_
      by_cases allowed : overwrite = true ∨ store.get? key = none
      · refine (bind_of_ok (refuseTaken_eq_ok allowed)).trans ?_
        rw [replacing, write_of_resolveKey resolved allowed]
        have checked := @checkIndexes_eq store key full
        cases collision : store.collision? full key with
        | some fault =>
            rw [collision] at checked
            exact bind_of_error checked
        | none =>
            rw [collision] at checked
            exact (bind_of_ok checked).trans (placing_eq key full store)
      · obtain ⟨single, taken⟩ := not_or.mp allowed
        obtain rfl : overwrite = false := by simpa using single
        rw [replacing, write_of_taken resolved taken]
        exact bind_of_error (refuseTaken_eq_error taken)

/-- Dropping in place is dropping where the index is there, as nothing is dropped
where it is not. -/
theorem dropping_eq (storeName name : String) :
    dropping storeName name =
      replacing fun store => (store.deleteIndex storeName name).map ((), ·) := by
  funext store
  rw [dropping, bind_of_ok (get_eq store), replacing, deleteIndex, SortedMap.contains]
  cases found : store.indexes.get? name with
  | none =>
      rw [SortedMap.erase_of_get? found]
      rfl
  | some index => rfl

end Store

end RecordBase
