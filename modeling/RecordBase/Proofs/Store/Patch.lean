import RecordBase.Proofs.Record.Merge
import RecordBase.Proofs.Store.Identity
import RecordBase.Proofs.Walk.Entries

/-!
# Patching records one after the other

A patch is laid over the records of several keys, and each merged record is put
back before the next one is read. Unique indexes are checked at every put, when
some of the records still are what they were. This does not matter: a record
that stands in the way has the same index key once it is merged itself. So the
puts succeed exactly if the records, all patched at once, share no key of a
unique index, and the order in which they are made makes no difference.
-/

namespace RecordBase

namespace Store

/-- Lays a patch over the records of keys, one after the other. The first put
that fails ends this. -/
def patchEach (store : Store) (patch : Record) : List Key → Except StorageError Store
  | [] => .ok store
  | key :: rest =>
      match store.get? key with
      | none => patchEach store patch rest
      | some record =>
          match store.put (record.merge patch store.primaryKey.field) with
          | .error error => .error error
          | .ok (_, changed) => patchEach changed patch rest

/-- What the records are when a patch is laid over those of some keys all at
once. -/
def patched (store : Store) (patch : Record) (keys : List Key) (key : Key) : Option Record :=
  (store.get? key).map fun record =>
    if key ∈ keys then record.merge patch store.primaryKey.field else record

/-- No two records share a key of a unique index of a store. -/
def Separates (store : Store) (records : Key → Option Record) : Prop :=
  ∀ name descriptor, (store.indexes.get? name).map (·.descriptor) = some descriptor →
    descriptor.unique = true → ∀ key first second firstRecord secondRecord,
      records first = some firstRecord → records second = some secondRecord →
      Key.ofRecord? firstRecord descriptor.keyPath = some key →
      Key.ofRecord? secondRecord descriptor.keyPath = some key → first = second

variable {store after : Store} {patch record : Record} {key : Key} {keys rest : List Key}

/-! ## The records of a consistent store -/

theorem Consistent.separates (consistent : store.Consistent) : store.Separates store.get? := by
  intro name descriptor declared unique key first second firstRecord secondRecord firstStored
    secondStored firstKey secondKey
  obtain ⟨index, found, rfl⟩ := Option.map_eq_some_iff.mp declared
  have mirrors := consistent.mirrors found
  exact mirrors.unique unique (mirrors.mem_entries_iff.mpr ⟨firstRecord, firstStored, firstKey⟩)
    (mirrors.mem_entries_iff.mpr ⟨secondRecord, secondStored, secondKey⟩)

/-! ## One put -/

theorem patched_of_get? (stored : store.get? key = some record) :
    store.patched patch keys key =
      some (if key ∈ keys then record.merge patch store.primaryKey.field else record) := by
  rw [patched, stored]
  rfl

/-- A merged record that collides with a stored one still does when all are
merged. -/
theorem not_separates_of_collision? (consistent : store.Consistent)
    (stored : store.get? key = some record) {fault : ConstraintFault}
    (collision : store.collision? (record.merge patch store.primaryKey.field) key = some fault) :
    ¬ store.Separates (store.patched patch (key :: rest)) := by
  intro separates
  obtain ⟨name, descriptor, indexKey, other, held, declared, unique, _, different, otherStored,
    mergedKey, heldKey⟩ := consistent.exists_of_collision? collision
  have own := @patched_of_get? store patch record key (key :: rest) stored
  rw [if_pos List.mem_cons_self] at own
  have others := @patched_of_get? store patch held other (key :: rest) otherStored
  have shared : Key.ofRecord? (if other ∈ key :: rest then held.merge patch store.primaryKey.field
      else held) descriptor.keyPath = some indexKey := by
    split
    · exact Record.ofRecord?_merge_of_eq mergedKey heldKey
    · exact heldKey
  exact different
    (separates name descriptor declared unique indexKey other key _ _ others own shared mergedKey)

/-- The records of the other keys are patched in what the put makes of the
store. -/
theorem patched_place (stored : store.get? key = some record) (new : key ∉ rest) :
    (store.place key (record.merge patch store.primaryKey.field)).patched patch rest =
      store.patched patch (key :: rest) := by
  funext other
  rw [patched, patched, primaryKey_place, get?_place]
  by_cases same : key = other
  · subst same
    simp [stored, new]
  · simp [same, Ne.symm same]

theorem separates_place {records : Key → Option Record} (key : Key) (record : Record) :
    (store.place key record).Separates records ↔ store.Separates records := by
  simp only [Separates, (differsAt_place key record store).described]

theorem generator_place_of_get? (consistent : store.Consistent)
    (stored : store.get? key = some record) (placed : Record) :
    (store.place key placed).generator = store.generator := by
  rw [generator_place]
  split
  · rename_i generated
    exact consistent.settled generated stored
  · rfl

/-! ## All puts -/

/-- A store that differs from another in that the records of some keys are
patched. -/
structure PatchedInto (store : Store) (patch : Record) (keys : List Key) (after : Store) :
    Prop where
  reachable : after.Reachable
  primaryKey : after.primaryKey = store.primaryKey
  described : ∀ name, (after.indexes.get? name).map (·.descriptor) =
    (store.indexes.get? name).map (·.descriptor)
  records : ∀ key, after.get? key = store.patched patch keys key
  generator : after.generator = store.generator

theorem PatchedInto.nil (reachable : store.Reachable) : store.PatchedInto patch [] store where
  reachable := reachable
  primaryKey := rfl
  described := fun _ => rfl
  records := by
    intro key
    simp [patched]
  generator := rfl

theorem PatchedInto.cons (consistent : store.Consistent) (stored : store.get? key = some record)
    (new : key ∉ rest)
    (others : (store.place key (record.merge patch store.primaryKey.field)).PatchedInto patch rest
      after) : store.PatchedInto patch (key :: rest) after where
  reachable := others.reachable
  primaryKey := others.primaryKey.trans (primaryKey_place store key _)
  described := fun name => (others.described name).trans ((differsAt_place key _ store).described _)
  records := fun other => (others.records other).trans (congrFun (patched_place stored new) other)
  generator := others.generator.trans (generator_place_of_get? consistent stored _)

/-- Which records are patched does not depend on the order of their keys. -/
theorem patched_perm {others : List Key} (same : others.Perm keys) (store : Store)
    (patch : Record) : store.patched patch others = store.patched patch keys := by
  funext key
  simp only [patched, same.mem_iff]

theorem PatchedInto.perm {others : List Key} (into : store.PatchedInto patch keys after)
    (same : keys.Perm others) : store.PatchedInto patch others after :=
  ⟨into.reachable, into.primaryKey, into.described,
    fun key => (into.records key).trans (congrFun (patched_perm same store patch) key),
    into.generator⟩

/-- Patching the same records makes the same store. -/
theorem PatchedInto.unique {other : Store} (left : store.PatchedInto patch keys after)
    (right : store.PatchedInto patch keys other) : after = other := by
  apply left.reachable.consistent.ext right.reachable.consistent
  · exact left.primaryKey.trans right.primaryKey.symm
  · intro name
    exact (left.described name).trans (right.described name).symm
  · intro key
    exact (left.records key).trans (right.records key).symm
  · exact left.generator.trans right.generator.symm

theorem PatchedInto.separates (into : store.PatchedInto patch keys after) :
    store.Separates (store.patched patch keys) := by
  have separates := into.reachable.consistent.separates
  simp only [Separates, into.described] at separates
  have records : after.get? = store.patched patch keys := funext into.records
  exact records ▸ separates

/-- Patching records one after the other makes the store in which they are
patched, or fails of a constraint that these records violate. -/
theorem patchEach_cases (reachable : store.Reachable) (patch : Record) (distinct : keys.Nodup)
    (stored : ∀ key ∈ keys, ∃ record, store.get? key = some record) :
    (∃ after, store.patchEach patch keys = .ok after ∧ store.PatchedInto patch keys after) ∨
      ∃ fault, store.patchEach patch keys = .error (.constraint fault) ∧
        ¬ store.Separates (store.patched patch keys) := by
  induction keys generalizing store with
  | nil => exact .inl ⟨store, rfl, .nil reachable⟩
  | cons key rest inductionHypothesis =>
      have consistent := reachable.consistent
      obtain ⟨new, restDistinct⟩ := List.nodup_cons.mp distinct
      obtain ⟨record, found⟩ := stored key List.mem_cons_self
      have own : Key.ofField? (record.merge patch store.primaryKey.field) store.primaryKey.field =
          some key :=
        (Record.ofField?_merge record patch _).trans (consistent.ownKey found)
      simp only [patchEach, found, put_of_ofField? own]
      cases collision : store.collision? (record.merge patch store.primaryKey.field) key with
      | some fault =>
          exact .inr ⟨fault, rfl, not_separates_of_collision? consistent found collision⟩
      | none =>
          have restStored : ∀ other ∈ rest, ∃ held,
              (store.place key (record.merge patch store.primaryKey.field)).get? other =
                some held := by
            intro other member
            have different : key ≠ other := fun same => new (same ▸ member)
            rw [get?_place, if_neg different]
            exact stored other (List.mem_cons_of_mem _ member)
          rcases inductionHypothesis (reachable.place own collision) restDistinct restStored with
            ⟨after, ran, into⟩ | ⟨fault, failed, shared⟩
          · exact .inl ⟨after, ran, .cons consistent found new into⟩
          · rw [separates_place, patched_place found new] at shared
            exact .inr ⟨fault, failed, shared⟩

/-- Patching succeeds with the store in which the records are patched, if there is
one. -/
theorem patchEach_eq_ok_iff (reachable : store.Reachable) (distinct : keys.Nodup)
    (stored : ∀ key ∈ keys, ∃ record, store.get? key = some record) :
    store.patchEach patch keys = .ok after ↔ store.PatchedInto patch keys after := by
  constructor
  · intro ran
    rcases patchEach_cases reachable patch distinct stored with
      ⟨made, ok, into⟩ | ⟨fault, failed, _⟩
    · rw [ok] at ran
      cases ran
      exact into
    · rw [failed] at ran
      contradiction
  · intro into
    rcases patchEach_cases reachable patch distinct stored with ⟨made, ok, other⟩ | ⟨_, _, shared⟩
    · rw [ok, other.unique into]
    · exact absurd into.separates shared

/-- Laying a patch over several records succeeds exactly if the records, all patched at once,
share no key of a unique index, in whichever order they come. -/
theorem patchEach_order_irrelevant (reachable : store.Reachable) (patch : Record)
    (distinct : keys.Nodup) (stored : ∀ key ∈ keys, ∃ record, store.get? key = some record) :
    ((∃ after, store.patchEach patch keys = .ok after) ↔
      store.Separates (store.patched patch keys)) ∧
    (∀ error, store.patchEach patch keys = .error error → ∃ fault, error = .constraint fault) ∧
    (∀ after, store.patchEach patch keys = .ok after → after.Reachable ∧
      (∀ key, after.get? key = store.patched patch keys key) ∧
      after.generator = store.generator) ∧
    ∀ others, others.Perm keys → ∀ after,
      store.patchEach patch others = .ok after ↔ store.patchEach patch keys = .ok after := by
  have outcome := patchEach_cases reachable patch distinct stored
  refine ⟨?_, ?_, ?_, ?_⟩
  · constructor
    · rintro ⟨after, ran⟩
      exact ((patchEach_eq_ok_iff reachable distinct stored).mp ran).separates
    · intro separates
      rcases outcome with ⟨after, ran, _⟩ | ⟨_, _, shared⟩
      · exact ⟨after, ran⟩
      · exact absurd separates shared
  · intro error failed
    rcases outcome with ⟨after, ran, _⟩ | ⟨fault, ran, _⟩
    · rw [ran] at failed
      contradiction
    · rw [ran] at failed
      cases failed
      exact ⟨fault, rfl⟩
  · intro after ran
    have into := (patchEach_eq_ok_iff reachable distinct stored).mp ran
    exact ⟨into.reachable, into.records, into.generator⟩
  · intro others same after
    have otherDistinct : others.Nodup := same.nodup_iff.mpr distinct
    have otherStored : ∀ key ∈ others, ∃ record, store.get? key = some record :=
      fun key member => stored key (same.mem_iff.mp member)
    rw [patchEach_eq_ok_iff reachable otherDistinct otherStored,
      patchEach_eq_ok_iff reachable distinct stored]
    exact ⟨fun into => into.perm same, fun into => into.perm same.symm⟩

/-- In the order of the keys the first record runs into the second before that has changed, and
every other order fails as well. -/
theorem patchEach_order_irrelevant_colliding :
    let byBoth : IndexDescriptor :=
      { name := "by_both", unique := true, keyPath := .composite ["kind", "code"] }
    let store := ofHistory {}
      [ .createIndex "items" byBoth
      , .add (.ofList [("kind", .ofInt 1), ("code", .string "a")])
      , .add (.ofList [("kind", .ofInt 2), ("code", .string "a")])
      , .add (.ofList [("code", .string "a")]) ]
    let patch : Record := .ofList [("kind", .ofInt 2)]
    let keys := [Key.ofInt 1, Key.ofInt 2]
    store.Reachable ∧ keys.Nodup ∧ (∀ key ∈ keys, ∃ record, store.get? key = some record) ∧
      ¬ store.Separates (store.patched patch keys) ∧
      ∀ others, others.Perm keys → ∀ after, store.patchEach patch others ≠ .ok after := by
  intro byBoth store patch keys
  have reachable : store.Reachable := reachable_ofHistory _ _
  have distinct : keys.Nodup := by decide +kernel
  have present : keys.all (fun key => (store.get? key).isSome) = true := by decide +kernel
  have stored : ∀ key ∈ keys, ∃ record, store.get? key = some record := fun key member =>
    Option.isSome_iff_exists.mp (List.all_eq_true.mp present key member)
  have refused : (store.patchEach patch keys).toOption.isSome = false := by decide +kernel
  clear_value store patch keys
  have fails : ¬ ∃ after, store.patchEach patch keys = .ok after := by
    rintro ⟨after, ran⟩
    rw [ran] at refused
    contradiction
  obtain ⟨succeeds, _, _, perm⟩ := patchEach_order_irrelevant reachable patch distinct stored
  refine ⟨reachable, distinct, stored, fun separates => fails (succeeds.mpr separates), ?_⟩
  intro others same after ran
  exact fails ⟨after, (perm others same after).mp ran⟩

end Store

end RecordBase
