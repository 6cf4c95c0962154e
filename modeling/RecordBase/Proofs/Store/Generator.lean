import RecordBase.Proofs.Double.Integer
import RecordBase.Proofs.Store.Consistency

/-!
# Generated keys

The generator of a store is never turned back, and every number that is written
under moves it past that number, as long as there are integers left. So while it
has not run out it lies above all numbers that have ever been keys, whatever was
deleted since, and a key taken from it is new.
-/

namespace RecordBase

namespace Key

/-- A number whose floor is below an integer up to `2 ^ 53` comes before it as a
key. -/
theorem number_lt_ofInt {code : UInt64} {n : Nat} (positive : n ≠ 0) (small : n ≤ 2 ^ 53)
    (below : (decode code).floor < n) : number code < ofInt n := by
  have before := Double.ordinal_lt_ofInt positive small below
  have nonnegative : 0 ≤ (Double.ofInt n).ordinal := by
    simp [Double.ordinal, Double.isNegative_ofInt]
  have encoded := toNat_encode (Double.ofInt n)
  rw [if_pos nonnegative] at encoded
  change compare code (encode (Double.ofInt n)) = .lt
  rw [Std.compare_eq_lt, UInt64.lt_iff_toNat_lt]
  by_cases upper : 2 ^ 63 ≤ code.toNat
  · rw [ordinal_decode upper] at before
    omega
  · omega

end Key

namespace Store

variable {store changed : Store} {record : Record} {key : Key} {primaryKey : PrimaryKey}

/-! ## What moves the generator -/

/-- The generator stops one above the last key that it may give. -/
theorem generatorPast_le {generator : Nat} (bounded : generator ≤ lastGenerated + 1) (key : Key) :
    generatorPast generator key ≤ lastGenerated + 1 := by
  unfold generatorPast
  split
  · exact Nat.max_le.mpr ⟨bounded, Nat.min_le_right _ _⟩
  · exact bounded

/-- A generated key moves the generator by one. -/
theorem generatorPast_ofInt {generator : Nat} (positive : generator ≠ 0)
    (left : generator ≤ lastGenerated) :
    generatorPast generator (.ofInt generator) = generator + 1 := by
  have nonzero : (Double.ofInt generator).magnitude ≠ 0 :=
    Nat.pos_iff_ne_zero.mp (Double.magnitude_ofInt_pos positive left)
  have decoded : Key.decode (Key.encode (Double.ofInt generator)) = Double.ofInt generator :=
    (Key.decode_encode _).trans (if_neg nonzero)
  simp only [generatorPast, Key.ofInt, Key.toDouble?, decoded, Double.floor_ofInt positive left]
  omega

/-- Numbers that the generator has passed are below it, unless it has run out. -/
theorem lt_of_passed {generator : Nat} {code : UInt64}
    (passed : generatorPast generator (.number code) = generator) (positive : generator ≠ 0)
    (left : generator ≤ lastGenerated) :
    (Key.decode code).floor < generator ∧ Key.number code < Key.ofInt generator := by
  have below : (Key.decode code).floor < generator := by
    simp only [generatorPast, Key.toDouble?] at passed
    omega
  exact ⟨below, Key.number_lt_ofInt positive left below⟩

/-- A call leaves the primary key of a store alone, and it leaves its generator
or moves it past a key. -/
theorem generator_run {change : Change} (succeeded : change.run store = .ok changed) :
    changed.primaryKey = store.primaryKey ∧
      (changed.generator = store.generator ∨
        ∃ key, changed.generator = generatorPast store.generator key) := by
  have placed : ∀ key record, (store.place key record).primaryKey = store.primaryKey ∧
      ((store.place key record).generator = store.generator ∨
        ∃ used, (store.place key record).generator = generatorPast store.generator used) := by
    intro key record
    rw [generator_place]
    refine ⟨primaryKey_place store key record, ?_⟩
    split
    · exact .inr ⟨key, rfl⟩
    · exact .inl rfl
  cases change with
  | add record =>
      obtain ⟨value, written⟩ := write_of_map succeeded
      obtain ⟨key, full, _, _, _, _, rfl⟩ := write_eq_ok_iff.mp written
      exact placed key full
  | put record =>
      obtain ⟨value, written⟩ := write_of_map succeeded
      obtain ⟨key, full, _, _, _, _, rfl⟩ := write_eq_ok_iff.mp written
      exact placed key full
  | delete key =>
      cases succeeded
      exact ⟨primaryKey_delete store key, .inl (generator_delete store key)⟩
  | createIndex storeName descriptor =>
      obtain ⟨_, built, _, rfl⟩ := createIndex_eq_ok_iff.mp succeeded
      exact ⟨rfl, .inl rfl⟩
  | deleteIndex storeName index =>
      obtain ⟨_, rfl⟩ := deleteIndex_eq_ok_iff.mp succeeded
      exact ⟨rfl, .inl rfl⟩

theorem generator_after (store : Store) (change : Change) :
    (store.after change).primaryKey = store.primaryKey ∧
      ((store.after change).generator = store.generator ∨
        ∃ key, (store.after change).generator = generatorPast store.generator key) := by
  unfold after
  split
  · rename_i changed succeeded
    exact generator_run succeeded
  · exact ⟨rfl, .inl rfl⟩

@[simp]
theorem primaryKey_after (store : Store) (change : Change) :
    (store.after change).primaryKey = store.primaryKey :=
  (generator_after store change).1

/-- The generator never goes back. -/
theorem generator_le_after (store : Store) (change : Change) :
    store.generator ≤ (store.after change).generator := by
  rcases (generator_after store change).2 with same | ⟨key, past⟩
  · exact Nat.le_of_eq same.symm
  · rw [past]
    exact generatorPast_ge store.generator key

/-- The generator stays among the keys that it may give and the end of these. -/
theorem Reachable.generator_bounds (reachable : store.Reachable) :
    1 ≤ store.generator ∧ store.generator ≤ lastGenerated + 1 := by
  induction reachable with
  | empty primaryKey => exact ⟨Nat.le_refl 1, Nat.le_add_left 1 _⟩
  | @after before reachable change inductionHypothesis =>
      obtain ⟨lower, upper⟩ := inductionHypothesis
      refine ⟨Nat.le_trans lower (generator_le_after before change), ?_⟩
      rcases (generator_after before change).2 with same | ⟨key, past⟩
      · rw [same]
        exact upper
      · rw [past]
        exact generatorPast_le upper key

/-- A number that is a key is below the generator, now and later on. -/
theorem Reachable.lt_of_held (reachable : store.Reachable)
    (generates : store.primaryKey.autoIncrement = true) {code : UInt64}
    (held : store.get? (.number code) = some record) {generator : Nat}
    (notBelow : store.generator ≤ generator) (left : generator ≤ lastGenerated) :
    (Key.decode code).floor < generator ∧ Key.number code < Key.ofInt generator := by
  have passed := generatorPast_eq_of_le (reachable.consistent.settled generates held) notBelow
  have positive := Nat.le_trans reachable.generator_bounds.1 notBelow
  exact lt_of_passed passed (Nat.ne_of_gt positive) left

/-- The next key to be generated is not a key, nor are those after it. -/
theorem Reachable.unused (reachable : store.Reachable)
    (generates : store.primaryKey.autoIncrement = true) {generator : Nat}
    (notBelow : store.generator ≤ generator) (left : generator ≤ lastGenerated) :
    store.get? (.ofInt generator) = none := by
  by_contra used
  obtain ⟨record, held⟩ := Option.ne_none_iff_exists'.mp used
  exact Key.lt_irrefl _ (reachable.lt_of_held generates held notBelow left).2

/-! ## Generated keys -/

/-- No record without a key is written once the generator has run out. -/
theorem write_of_exhausted (generates : store.primaryKey.autoIncrement = true)
    (keyless : record.get? store.primaryKey.field = none)
    (exhausted : lastGenerated < store.generator) (overwrite : Bool) :
    store.write record overwrite =
      .error (.constraint (.generatorExhausted store.primaryKey.field)) := by
  have refused : store.resolveKey record =
      .error (.constraint (.generatorExhausted store.primaryKey.field)) := by
    simp [resolveKey, keyless, generates, exhausted]
  rw [write, refused]
  rfl

/-- Until then such a record is written under the generator, unless it collides
with another. -/
theorem Reachable.write_of_keyless (reachable : store.Reachable)
    (generates : store.primaryKey.autoIncrement = true)
    (keyless : record.get? store.primaryKey.field = none)
    (left : store.generator ≤ lastGenerated) (overwrite : Bool) :
    let full := record.insert store.primaryKey.field (.ofInt store.generator)
    store.write record overwrite =
      match store.collision? full (.ofInt store.generator) with
      | some fault => .error (.constraint fault)
      | none => .ok (.ofInt store.generator, store.place (.ofInt store.generator) full) := by
  intro full
  have resolved : store.resolveKey record = .ok (.ofInt store.generator, full) :=
    resolveKey_eq_ok_iff.mpr (.inr ⟨keyless, generates, left, rfl, rfl⟩)
  have unused := reachable.unused generates (Nat.le_refl _) left
  have held : full.get? store.primaryKey.field = some (.ofInt store.generator) :=
    SortedMap.get?_insert_self _ _ _
  rw [write_of_resolveKey resolved (.inr unused)]
  cases store.collision? full (.ofInt store.generator) with
  | some fault => rfl
  | none => rw [held, Option.getD_some]

/-- A write of a record without a key that succeeds uses the generator up. -/
theorem Reachable.generated_of_write (reachable : store.Reachable)
    (generates : store.primaryKey.autoIncrement = true)
    (keyless : record.get? store.primaryKey.field = none) {overwrite : Bool} {value : Value}
    (written : store.write record overwrite = .ok (value, changed)) :
    value = .ofInt store.generator ∧ store.generator ≤ lastGenerated ∧
      changed.generator = store.generator + 1 ∧
      changed.get? (.ofInt store.generator) =
        some (record.insert store.primaryKey.field value) := by
  by_cases exhausted : lastGenerated < store.generator
  · rw [write_of_exhausted generates keyless exhausted] at written
    contradiction
  · have left := Nat.not_lt.mp exhausted
    rw [reachable.write_of_keyless generates keyless left] at written
    split at written
    · contradiction
    · obtain ⟨rfl, rfl⟩ := Prod.mk.inj (Except.ok.inj written)
      have positive := Nat.ne_of_gt reachable.generator_bounds.1
      refine ⟨rfl, left, ?_, ?_⟩
      · rw [generator_place, if_pos generates, generatorPast_ofInt positive left]
      · rw [get?_place, if_pos rfl]

/-- A write of a record without a key that fails finds no generated key left, or
its record would share a key of a unique index with another. -/
theorem Reachable.error_of_write (reachable : store.Reachable)
    (generates : store.primaryKey.autoIncrement = true)
    (keyless : record.get? store.primaryKey.field = none) {overwrite : Bool} {error : StorageError}
    (failed : store.write record overwrite = .error error) :
    store.generator = lastGenerated + 1 ∧
        error = .constraint (.generatorExhausted store.primaryKey.field) ∨
      ∃ name descriptor indexKey other held,
        error = .constraint (.indexTaken name indexKey) ∧
        (store.indexes.get? name).map (·.descriptor) = some descriptor ∧
        descriptor.unique = true ∧ store.get? other = some held ∧
        Key.ofRecord? held descriptor.keyPath = some indexKey ∧
        Key.ofRecord? (record.insert store.primaryKey.field (.ofInt store.generator))
          descriptor.keyPath = some indexKey := by
  by_cases exhausted : lastGenerated < store.generator
  · rw [write_of_exhausted generates keyless exhausted] at failed
    have upper := reachable.generator_bounds.2
    exact .inl ⟨by omega, (Except.error.inj failed).symm⟩
  · rw [reachable.write_of_keyless generates keyless (Nat.not_lt.mp exhausted)] at failed
    split at failed
    · rename_i fault collision
      obtain ⟨name, descriptor, indexKey, other, held, declared, unique, rfl, _, stored, keyed,
        heldKey⟩ := reachable.consistent.exists_of_collision? collision
      exact .inr ⟨name, descriptor, indexKey, other, held, (Except.error.inj failed).symm,
        declared, unique, stored, heldKey, keyed⟩
    · contradiction

/-! ## Histories -/

/-- The value of the key that a write generates, if it succeeds and does so. -/
def generatedBy? (store : Store) (record : Record) (overwrite : Bool) : Option Value :=
  if record.contains store.primaryKey.field then none
  else (store.write record overwrite).toOption.map Prod.fst

/-- The value of the key that a call generates, if it does so. -/
def generated? (store : Store) : Change → Option Value
  | .add record => store.generatedBy? record false
  | .put record => store.generatedBy? record true
  | _ => none

/-- The values of the keys that are generated in a history. -/
def generatedKeys (store : Store) : List Change → List Value
  | [] => []
  | change :: rest => (store.generated? change).toList ++ (store.after change).generatedKeys rest

/-- A key that is generated is the generator, which then moves by one. -/
theorem Reachable.generated?_eq_some (reachable : store.Reachable)
    (generates : store.primaryKey.autoIncrement = true) {change : Change} {value : Value}
    (generated : store.generated? change = some value) :
    value = .ofInt store.generator ∧ store.generator ≤ lastGenerated ∧
      (store.after change).generator = store.generator + 1 := by
  have written : ∀ {record overwrite}, store.generatedBy? record overwrite = some value →
      ∃ changed, store.write record overwrite = .ok (value, changed) ∧
        value = .ofInt store.generator ∧ store.generator ≤ lastGenerated ∧
        changed.generator = store.generator + 1 := by
    intro record overwrite generated
    unfold generatedBy? at generated
    split at generated
    · contradiction
    · rename_i keyless
      have keyless : record.get? store.primaryKey.field = none := by
        simpa [SortedMap.contains] using keyless
      cases result : store.write record overwrite with
      | error error =>
          rw [result] at generated
          contradiction
      | ok outcome =>
          obtain ⟨given, changed⟩ := outcome
          rw [result] at generated
          obtain rfl : given = value := Option.some.inj generated
          obtain ⟨own, left, moved, _⟩ := reachable.generated_of_write generates keyless result
          exact ⟨changed, rfl, own, left, moved⟩
  cases change with
  | add record =>
      obtain ⟨changed, result, own, left, moved⟩ := written generated
      exact ⟨own, left, after_of_run (run_add result) ▸ moved⟩
  | put record =>
      obtain ⟨changed, result, own, left, moved⟩ := written generated
      exact ⟨own, left, after_of_run (run_put result) ▸ moved⟩
  | delete key => contradiction
  | createIndex storeName descriptor => contradiction
  | deleteIndex storeName index => contradiction

/-- The keys that are generated in a history ascend from the generator on. -/
theorem Reachable.generatedKeys_ascending (reachable : store.Reachable)
    (generates : store.primaryKey.autoIncrement = true) (history : List Change) :
    ∃ numbers : List Nat,
      store.generatedKeys history = numbers.map (fun number => .ofInt number) ∧
      numbers.Pairwise (· < ·) ∧
      ∀ number ∈ numbers, store.generator ≤ number ∧ number ≤ lastGenerated := by
  induction history generalizing store with
  | nil => exact ⟨[], rfl, .nil, nofun⟩
  | cons change rest inductionHypothesis =>
      obtain ⟨numbers, given, ascending, bounded⟩ :=
        inductionHypothesis (reachable.after change) (by rwa [primaryKey_after])
      have notBelow := generator_le_after store change
      cases generated : store.generated? change with
      | none =>
          refine ⟨numbers, ?_, ascending, ?_⟩
          · rw [generatedKeys, generated, given]
            rfl
          · intro number member
            exact ⟨Nat.le_trans notBelow (bounded number member).1, (bounded number member).2⟩
      | some value =>
          obtain ⟨own, left, moved⟩ := reachable.generated?_eq_some generates generated
          refine ⟨store.generator :: numbers, ?_, ?_, ?_⟩
          · rw [generatedKeys, generated, given, own]
            rfl
          · refine List.pairwise_cons.mpr ⟨?_, ascending⟩
            intro number member
            have above := (bounded number member).1
            rwa [moved] at above
          · intro number member
            rcases List.mem_cons.mp member with rfl | member
            · exact ⟨Nat.le_refl _, left⟩
            · exact ⟨Nat.le_trans notBelow (bounded number member).1, (bounded number member).2⟩

theorem primaryKey_ofHistory (primaryKey : PrimaryKey) (history : List Change) :
    (ofHistory primaryKey history).primaryKey = primaryKey := by
  have kept : ∀ store : Store, (history.foldl after store).primaryKey = store.primaryKey := by
    induction history with
    | nil => exact fun store => rfl
    | cons change rest inductionHypothesis =>
        intro store
        exact (inductionHypothesis (store.after change)).trans (primaryKey_after store change)
  exact kept { primaryKey }

/-- Later in a history the generator is no lower. -/
theorem generator_le_of_isPrefix {earlier history : List Change} (before : earlier <+: history) :
    (ofHistory primaryKey earlier).generator ≤ (ofHistory primaryKey history).generator := by
  obtain ⟨later, rfl⟩ := before
  rw [ofHistory, ofHistory, List.foldl_append]
  generalize earlier.foldl after { primaryKey } = store
  induction later generalizing store with
  | nil => exact Nat.le_refl _
  | cons change rest inductionHypothesis =>
      exact Nat.le_trans (generator_le_after store change) (inductionHypothesis _)

/-- The generator never goes back and stays above every number that was a key, so generated keys
ascend up to `2 ^ 53` and no record has had them. -/
theorem generated_keys_fresh (generates : primaryKey.autoIncrement = true)
    (history : List Change) :
    let store := ofHistory primaryKey history
    (1 ≤ store.generator ∧ store.generator ≤ 2 ^ 53 + 1) ∧
    (∀ change, store.generator ≤ (store.after change).generator) ∧
    (∀ earlier, earlier <+: history → store.generator ≠ 2 ^ 53 + 1 → ∀ code record,
      (ofHistory primaryKey earlier).get? (.number code) = some record →
        (Key.decode code).floor < store.generator ∧
        Key.number code < Key.ofInt store.generator) ∧
    (∃ numbers : List Nat,
      generatedKeys { primaryKey } history = numbers.map (fun number => .ofInt number) ∧
      numbers.Pairwise (· < ·) ∧ ∀ number ∈ numbers, 1 ≤ number ∧ number ≤ 2 ^ 53) ∧
    (∀ change error, change.run store = .error error → store.after change = store) ∧
    ∀ record overwrite, record.get? primaryKey.field = none →
      (∀ value changed, store.write record overwrite = .ok (value, changed) →
        value = .ofInt store.generator ∧ store.generator ≤ 2 ^ 53 ∧
        changed.generator = store.generator + 1 ∧
        changed.get? (.ofInt store.generator) = some (record.insert primaryKey.field value) ∧
        ∀ earlier, earlier <+: history →
          (ofHistory primaryKey earlier).get? (.ofInt store.generator) = none) ∧
      ∀ error, store.write record overwrite = .error error →
        store.generator = 2 ^ 53 + 1 ∧
            error = .constraint (.generatorExhausted primaryKey.field) ∨
          ∃ name descriptor indexKey other held,
            error = .constraint (.indexTaken name indexKey) ∧
            (store.indexes.get? name).map (·.descriptor) = some descriptor ∧
            descriptor.unique = true ∧ store.get? other = some held ∧
            Key.ofRecord? held descriptor.keyPath = some indexKey ∧
            Key.ofRecord? (record.insert primaryKey.field (.ofInt store.generator))
              descriptor.keyPath = some indexKey := by
  intro store
  have generating : ∀ history, (ofHistory primaryKey history).primaryKey.autoIncrement = true := by
    intro history
    rw [primaryKey_ofHistory]
    exact generates
  have reachable := reachable_ofHistory primaryKey history
  obtain ⟨lower, upper⟩ := reachable.generator_bounds
  refine ⟨⟨lower, upper⟩, generator_le_after store, ?_, ?_, ?_, ?_⟩
  · intro earlier before notExhausted code record held
    exact (reachable_ofHistory primaryKey earlier).lt_of_held (generating earlier) held
      (generator_le_of_isPrefix before) (Nat.le_of_lt_succ (Nat.lt_of_le_of_ne upper notExhausted))
  · exact (Reachable.empty primaryKey).generatedKeys_ascending generates history
  · intro change error failed
    rw [after, failed]
  · intro record overwrite absent
    have keyless : record.get? store.primaryKey.field = none := by
      rw [primaryKey_ofHistory]
      exact absent
    constructor
    · intro value changed written
      obtain ⟨own, left, moved, held⟩ :=
        reachable.generated_of_write (generating history) keyless written
      rw [primaryKey_ofHistory] at held
      refine ⟨own, left, moved, held, ?_⟩
      intro earlier before
      exact (reachable_ofHistory primaryKey earlier).unused (generating earlier)
        (generator_le_of_isPrefix before) left
    · intro error failed
      have cause := reachable.error_of_write (generating history) keyless failed
      rw [primaryKey_ofHistory] at cause
      exact cause

/-- A write that is refused uses no key up, a fraction moves the generator to the
next integer, and a key that was deleted does not come again. -/
theorem generated_keys_fresh_after_refusal_and_deletion :
    let history : List Change :=
      [ .createIndex "users" ⟨"by_email", true, .single "email"⟩
      , .add (.ofList [("email", .string "a")])
      , .add (.ofList [("email", .string "a")])
      , .add (.ofList [("_id", .ofDouble (Double.ofDecimal false 105 (-1)))])
      , .put .empty
      , .delete (Key.ofInt 11) ]
    let store := ofHistory {} history
    (generatedKeys { primaryKey := {} } history).map Value.text = ["1", "11"] ∧
      store.records.contains (Key.ofInt 11) = false ∧
      ∃ value changed, store.add .empty = .ok (value, changed) ∧ value = .ofInt 12 ∧
        changed.generator = 13 ∧
        ∀ earlier, earlier <+: history → (ofHistory {} earlier).get? (Key.ofInt 12) = none := by
  intro history store
  have generator : store.generator = 12 := by decide +kernel
  have succeeds : (store.write .empty false).toOption.isSome = true := by decide +kernel
  have given : (generatedKeys { primaryKey := {} } history).map Value.text = ["1", "11"] := by
    decide +kernel
  have deleted : store.records.contains (Key.ofInt 11) = false := by decide +kernel
  obtain ⟨_, _, _, _, _, writes⟩ := @generated_keys_fresh {} rfl history
  have fresh := (writes .empty false rfl).1
  change ∀ value changed, store.write .empty false = .ok (value, changed) → _ at fresh
  cases written : store.write .empty false with
  | error error =>
      rw [written] at succeeds
      contradiction
  | ok outcome =>
      obtain ⟨value, changed⟩ := outcome
      obtain ⟨own, _, moved, _, unused⟩ := fresh value changed written
      change value = .ofInt store.generator at own
      change changed.generator = store.generator + 1 at moved
      change ∀ earlier, earlier <+: history →
        (ofHistory {} earlier).get? (.ofInt store.generator) = none at unused
      rw [generator] at own moved unused
      exact ⟨given, deleted, value, changed, written, own, moved, unused⟩

end Store

end RecordBase
