import RecordBase.Proofs.Walk.Cursor

/-!
# Turns of a cursor

A cursor is called to advance, and to delete or update the record that it stands
at. What a call comes to is an event: a record met at a position, the end, a
record deleted or updated, or a failure. The calls come in any order, and one that
fails has no effect, so that there are five turns a walk can take. Every turn
keeps the cursor steady and leaves the entries ahead of it as they are, but for
the entry of the record that the turn is about.
-/

namespace RecordBase

namespace Cursor

/-- A call of a cursor. -/
inductive Call where
  | advance
  | delete
  | update (record : Record)

/-- What a call came to. A position is the key that is walked along with a primary key, and a
change is told with the primary key changed. -/
inductive Event where
  | met (position : Key × Key) (record : Record)
  | ended
  | deleted (standing : Option Key)
  | updated (standing : Option Key) (record : Record)
  | failed (error : StorageError)

/-- The end of the walk was found. -/
def Event.isEnd : Event → Bool
  | ended => true
  | _ => false

theorem Event.isEnd_iff {event : Event} : event.isEnd = true ↔ event = .ended := by
  cases event <;> simp [isEnd]

/-- The event of a result, and the cursor that the result leaves. -/
def report {α : Type} (tell : α → Cursor → Event) :
    EStateM.Result StorageError Cursor α → Event × Cursor
  | .ok result next => (tell result next, next)
  | .error error next => (.failed error, next)

/-- Makes a call. -/
def perform (cursor : Cursor) : Call → Event × Cursor
  | .advance =>
      report (fun met next =>
        match met with
        | some (primary, record) => .met (next.position.getD (primary, primary)) record
        | none => .ended) (advance cursor)
  | .delete => report (fun _ _ => .deleted cursor.current) (delete cursor)
  | .update record => report (fun _ _ => .updated cursor.current record) (update record cursor)

/-- The events of calls that are made one after the other. -/
def play (cursor : Cursor) : List Call → List Event
  | [] => []
  | call :: rest => (cursor.perform call).1 :: (cursor.perform call).2.play rest

/-! ## Cursors after a turn -/

/-- The cursor at the end of its walk. -/
def finished (cursor : Cursor) : Cursor :=
  { cursor with done := true, current := none }

/-- The cursor after it deleted a record. -/
def deleted (cursor : Cursor) (primary : Key) : Cursor :=
  { cursor with
    transaction :=
      { cursor.transaction with store := (cursor.transaction.store.delete primary).2 }
    current := none }

/-- The cursor after it put a record in the place of another. -/
def replaced (cursor : Cursor) (primary : Key) (record : Record) : Cursor :=
  { cursor with
    transaction :=
      { cursor.transaction with store := cursor.transaction.store.place primary record } }

/-- What a call may come to: the first entry ahead is met, or there is none, the current record
is deleted or replaced, or nothing happens. -/
inductive Turn (cursor : Cursor) : Event → Cursor → Prop
  | met {entry : Key × Key} {rest : List (Key × Key)} {record : Record}
      (running : cursor.done = false) (going : cursor.ahead = entry :: rest)
      (stored : cursor.transaction.store.get? entry.2 = some record) :
      Turn cursor (.met entry record) (cursor.moved entry)
  | ended (nothing : cursor.ahead = []) : Turn cursor .ended cursor.finished
  | deleted {primary : Key} (standing : cursor.current = some primary) :
      Turn cursor (.deleted (some primary)) (cursor.deleted primary)
  | updated {primary : Key} {record : Record} (standing : cursor.current = some primary)
      (own : Key.ofField? record cursor.transaction.store.primaryKey.field = some primary)
      (free : cursor.transaction.store.collision? record primary = none) :
      Turn cursor (.updated (some primary) record) (cursor.replaced primary record)
  | failed (error : StorageError) : Turn cursor (.failed error) cursor

/-- A cursor between two calls: it is sound, but for the end that it may have
reached, and the record that it stands at is stored and lies at its position. -/
structure Steady (cursor : Cursor) : Prop where
  sound : Sound { cursor with done := false }
  standing : ∀ primary ∈ cursor.current,
    (∃ key, cursor.position = some (key, primary)) ∧
      ∃ record, cursor.transaction.store.get? primary = some record
  ended : cursor.done = true → cursor.ahead = [] ∧ cursor.current = none

variable {cursor next : Cursor} {event : Event}

theorem steady_start {transaction : Transaction} {source : ScanSource} {direction : Direction}
    (consistent : transaction.store.Consistent) (present : source.Present transaction.store) :
    Steady { transaction, source, direction } where
  sound := sound_start consistent present
  standing := by simp
  ended := by simp

/-! ## Turns of calls -/

theorem turn_advance (steady : cursor.Steady) :
    Turn cursor (cursor.perform .advance).1 (cursor.perform .advance).2 := by
  cases running : cursor.done with
  | true =>
      obtain ⟨nothing, nowhere⟩ := steady.ended running
      have same : cursor = cursor.finished := by
        obtain ⟨transaction, source, direction, position, current, done⟩ := cursor
        cases running
        cases nowhere
        rfl
      have advanced : cursor.perform .advance = (.ended, cursor.finished) := by
        simp only [perform, advance, running, if_true, report, ← same]
      rw [advanced]
      exact .ended nothing
  | false =>
      have sound : cursor.Sound := by
        have sound := steady.sound
        rwa [← running] at sound
      cases going : cursor.ahead with
      | nil =>
          have advanced : cursor.perform .advance = (.ended, cursor.finished) := by
            simp only [perform, advance_of_ahead_nil sound going, report, finished]
          rw [advanced]
          exact .ended going
      | cons entry rest =>
          obtain ⟨record, stored, advanced⟩ := advance_of_ahead_cons sound going
          have advanced : cursor.perform .advance = (.met entry record, cursor.moved entry) := by
            simp only [perform, advanced, report, moved, Option.getD_some]
          rw [advanced]
          exact .met running going stored

theorem turn_delete (cursor : Cursor) :
    Turn cursor (cursor.perform .delete).1 (cursor.perform .delete).2 := by
  obtain ⟨⟨storeName, mode, store⟩, source, direction, position, current, done⟩ := cursor
  cases current with
  | none => exact .failed _
  | some primary =>
      cases mode with
      | readOnly => exact .failed _
      | readWrite => exact .deleted rfl

theorem turn_update (cursor : Cursor) (record : Record) :
    Turn cursor (cursor.perform (.update record)).1 (cursor.perform (.update record)).2 := by
  obtain ⟨⟨storeName, mode, store⟩, source, direction, position, current, done⟩ := cursor
  cases current with
  | none => exact .failed _
  | some primary =>
      cases mode with
      | readOnly => exact .failed _
      | readWrite =>
          simp only [perform, update, inTransaction, Transaction.change, replace]
          by_cases own : Key.ofField? record store.primaryKey.field = some primary
          · simp only [if_pos own, Store.put_of_ofField? own]
            cases free : store.collision? record primary with
            | some fault => exact .failed _
            | none => exact .updated rfl own free
          · simp only [if_neg own]
            exact .failed _

/-- Every call takes one of the turns. -/
theorem Steady.turn (steady : cursor.Steady) (call : Call) :
    Turn cursor (cursor.perform call).1 (cursor.perform call).2 := by
  cases call with
  | advance => exact turn_advance steady
  | delete => exact turn_delete cursor
  | update record => exact turn_update cursor record

/-! ## What a turn leaves -/

theorem Steady.consistent (steady : cursor.Steady) : cursor.transaction.store.Consistent :=
  steady.sound.consistent

theorem get?_deleted (cursor : Cursor) (primary other : Key) :
    (cursor.deleted primary).transaction.store.get? other =
      if primary = other then none else cursor.transaction.store.get? other :=
  Store.get?_delete cursor.transaction.store primary other

theorem get?_replaced (cursor : Cursor) (primary : Key) (record : Record) (other : Key) :
    (cursor.replaced primary record).transaction.store.get? other =
      if primary = other then some record else cursor.transaction.store.get? other :=
  Store.get?_place cursor.transaction.store primary record other

/-- A turn keeps a cursor steady. -/
theorem Steady.after (steady : cursor.Steady) (turn : Turn cursor event next) : next.Steady := by
  cases turn with
  | @met entry rest record running going stored =>
      have member : entry ∈ cursor.ahead := going ▸ List.mem_cons_self
      constructor
      · exact steady.sound.moved member
      · rintro _ ⟨⟩
        exact ⟨⟨entry.1, rfl⟩, record, stored⟩
      · intro done
        change cursor.done = true at done
        rw [running] at done
        contradiction
  | ended nothing =>
      have sound := steady.sound
      exact ⟨⟨sound.consistent, sound.present, sound.inside, sound.own, rfl⟩, nofun,
        fun _ => ⟨nothing, rfl⟩⟩
  | @deleted primary standing =>
      constructor
      · exact steady.sound.of_differsAt (Store.differsAt_delete primary _)
          (steady.consistent.delete primary) none
      · exact nofun
      · intro done
        have nowhere := (steady.ended done).2
        rw [standing] at nowhere
        contradiction
  | @updated primary record standing own free =>
      constructor
      · exact steady.sound.of_differsAt (Store.differsAt_place primary record _)
          (steady.consistent.place own free) cursor.current
      · intro other stands
        obtain rfl : primary = other := Option.some.inj (standing.symm.trans stands)
        refine ⟨(steady.standing primary standing).1, record, ?_⟩
        rw [get?_replaced, if_pos rfl]
      · intro done
        have nowhere := (steady.ended done).2
        rw [standing] at nowhere
        contradiction
  | failed error => exact steady

/-- Deleting leaves the entries of the other records ahead. -/
theorem ahead_deleted (steady : cursor.Steady) (primary : Key) :
    ((cursor.deleted primary).ahead.filter fun entry => entry.2 ≠ primary) =
      cursor.ahead.filter fun entry => entry.2 ≠ primary :=
  ahead_filter_of_differsAt none (Store.differsAt_delete primary _) steady.consistent
    (steady.consistent.delete primary)

/-- Replacing leaves the entries of the other records ahead. -/
theorem ahead_replaced (steady : cursor.Steady) {primary : Key} {record : Record}
    (own : Key.ofField? record cursor.transaction.store.primaryKey.field = some primary)
    (free : cursor.transaction.store.collision? record primary = none) :
    ((cursor.replaced primary record).ahead.filter fun entry => entry.2 ≠ primary) =
      cursor.ahead.filter fun entry => entry.2 ≠ primary :=
  ahead_filter_of_differsAt cursor.current (Store.differsAt_place primary record _)
    steady.consistent (steady.consistent.place own free)

/-- What lies ahead is stored, and lies ahead under its key. -/
theorem Steady.stored_of_ahead (steady : cursor.Steady) {entry : Key × Key}
    (member : entry ∈ cursor.ahead) :
    ∃ record, cursor.transaction.store.get? entry.2 = some record ∧
      cursor.source.key? cursor.transaction.store entry.2 record = some entry.1 :=
  ((ScanSource.mem_entries_iff steady.consistent).mp (mem_ahead_iff.mp member).1).2

/-- A record that was deleted has no entry ahead. -/
theorem Steady.ne_of_deleted (steady : cursor.Steady) {primary : Key}
    (standing : cursor.current = some primary) {entry : Key × Key}
    (member : entry ∈ (cursor.deleted primary).ahead) : entry.2 ≠ primary := by
  obtain ⟨record, stored, _⟩ := (steady.after (.deleted standing)).stored_of_ahead member
  rintro rfl
  rw [get?_deleted, if_pos rfl] at stored
  contradiction

/-- A record that was met has no second entry ahead. -/
theorem Steady.ne_of_met (steady : cursor.Steady) {entry other : Key × Key}
    {rest : List (Key × Key)} (going : cursor.ahead = entry :: rest)
    (member : other ∈ (cursor.moved entry).ahead) : entry.2 ≠ other.2 := by
  have distinct : cursor.ahead.Pairwise fun first second => first.2 ≠ second.2 :=
    steady.sound.pairwise_primaries
  rw [going, List.pairwise_cons] at distinct
  rw [ahead_moved going] at member
  exact distinct.1 other member

/-- A turn leaves the keys under which records are met. -/
theorem Turn.key?_eq (turn : Turn cursor event next) (primary : Key) (record : Record) :
    next.source.key? next.transaction.store primary record =
      cursor.source.key? cursor.transaction.store primary record := by
  cases turn with
  | met running going stored => rfl
  | ended nothing => rfl
  | @deleted other standing => exact (Store.differsAt_delete other _).key?_eq _ _ _
  | @updated other held standing own free =>
      exact (Store.differsAt_place other held _).key?_eq _ _ _
  | failed error => rfl

/-- An entry that a change leaves ahead was ahead before, if it is that of another
record. -/
theorem mem_ahead_of_elsewhere {primary : Key} {entry : Key × Key}
    (others : (next.ahead.filter fun entry => entry.2 ≠ primary) =
      cursor.ahead.filter fun entry => entry.2 ≠ primary)
    (different : primary ≠ entry.2) (member : entry ∈ next.ahead) : entry ∈ cursor.ahead := by
  have kept : entry ∈ next.ahead.filter fun entry => entry.2 ≠ primary :=
    List.mem_filter.mpr ⟨member, decide_eq_true different.symm⟩
  rw [others] at kept
  exact (List.mem_filter.mp kept).1

/-- A record that is ahead after a turn was so before, and the turn is not about it;
or the turn has updated it to what it is. -/
theorem Turn.origin (steady : cursor.Steady) (turn : Turn cursor event next)
    {position : Key × Key} {record : Record} (member : position ∈ next.ahead)
    (stored : next.transaction.store.get? position.2 = some record) :
    (position ∈ cursor.ahead ∧ cursor.transaction.store.get? position.2 = some record ∧
      (∀ visited held, event = .met visited held → visited.2 ≠ position.2) ∧
      ∀ held, event ≠ .updated (some position.2) held) ∨
    event = .updated (some position.2) record ∧
      cursor.source.key? cursor.transaction.store position.2 record = some position.1 := by
  cases turn with
  | @met entry rest held running going entryStored =>
      refine .inl ⟨?_, stored, ?_, nofun⟩
      · rw [ahead_moved going] at member
        exact going ▸ List.mem_cons_of_mem _ member
      · rintro _ _ ⟨⟩
        exact steady.ne_of_met going member
  | ended nothing => exact .inl ⟨member, stored, nofun, nofun⟩
  | @deleted primary standing =>
      rw [get?_deleted] at stored
      split at stored
      · contradiction
      · rename_i different
        exact .inl ⟨mem_ahead_of_elsewhere (ahead_deleted steady primary) different member, stored,
          nofun, nofun⟩
  | @updated primary held standing own free =>
      have turn : Turn cursor (.updated (some primary) held) (cursor.replaced primary held) :=
        .updated standing own free
      obtain ⟨found, foundStored, keyed⟩ := (steady.after turn).stored_of_ahead member
      obtain rfl : record = found := Option.some.inj (stored.symm.trans foundStored)
      rw [turn.key?_eq] at keyed
      rw [get?_replaced] at stored
      split at stored
      · rename_i same
        subst same
        cases stored
        exact .inr ⟨rfl, keyed⟩
      · rename_i different
        refine .inl ⟨mem_ahead_of_elsewhere (ahead_replaced steady own free) different member,
          stored, nofun, ?_⟩
        rintro _ ⟨⟩
        exact different rfl
  | failed error => exact .inl ⟨member, stored, nofun, nofun⟩

/-! ## Walks along primary keys -/

/-- Where no index is walked, the record that a cursor stands at lies behind it. -/
theorem Steady.ne_of_standing (steady : cursor.Steady)
    (primaryOrder : cursor.source.isPrimaryOrder = true) {primary : Key}
    (standing : cursor.current = some primary) {entry : Key × Key} (member : entry ∈ cursor.ahead) :
    entry.2 ≠ primary := by
  obtain ⟨key, reached⟩ := (steady.standing primary standing).1
  obtain ⟨record, _, keyed⟩ := steady.stored_of_ahead member
  rw [ScanSource.key?_of_isPrimaryOrder primaryOrder] at keyed
  have own : key = primary := steady.sound.own primaryOrder (key, primary) reached
  have before : cursor.direction.Precedes (key, primary) entry :=
    (mem_ahead_iff.mp member).2 (key, primary) reached
  rintro rfl
  have same : (key, entry.2) = entry := Prod.ext (own.trans (Option.some.inj keyed)) rfl
  rw [same] at before
  exact Direction.precedes_irrefl entry before

/-- Where no index is walked, a change of the record that a cursor stands at leaves
the entries ahead as they are. -/
theorem ahead_of_isPrimaryOrder (steady : cursor.Steady)
    (primaryOrder : cursor.source.isPrimaryOrder = true) {primary : Key}
    (standing : cursor.current = some primary)
    (others : (next.ahead.filter fun entry => entry.2 ≠ primary) =
      cursor.ahead.filter fun entry => entry.2 ≠ primary)
    (apart : ∀ entry ∈ next.ahead, entry.2 ≠ primary) : next.ahead = cursor.ahead := by
  have whole := List.filter_eq_self.mpr fun entry member => decide_eq_true (apart entry member)
  have wholeBefore := List.filter_eq_self.mpr fun entry member =>
    decide_eq_true (steady.ne_of_standing primaryOrder standing member)
  exact whole.symm.trans (others.trans wholeBefore)

end Cursor

end RecordBase
