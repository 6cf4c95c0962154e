import Mathlib.Data.List.Basic
import RecordBase.Proofs.Walk.Turns

/-!
# Walks that change their store

A cursor may be called in any order, and what it deletes and updates is the store
that it walks. Its positions ascend in its direction all the same. A record in the
range of the walk that is not updated is met exactly once; a record that is met
again was moved there by an update of the walk itself. Where no index is walked, the
walk meets the records that were there at its start, each once and in the order of
their keys, whatever becomes of them.
-/

namespace RecordBase

namespace Cursor

/-! ## Runs -/

/-- The meeting with a record that an event is: the position and the record. -/
def Event.visit? : Event → Option ((Key × Key) × Record)
  | met position record => some (position, record)
  | _ => none

theorem Event.visit?_eq_some_iff {event : Event} {visit : (Key × Key) × Record} :
    event.visit? = some visit ↔ event = .met visit.1 visit.2 := by
  cases event <;> simp [visit?, Prod.ext_iff]

/-- The meetings among events. -/
def visits (events : List Event) : List ((Key × Key) × Record) :=
  events.filterMap Event.visit?

/-- The events of turns that a cursor takes one after the other. -/
inductive Run : Cursor → List Event → Prop
  | nil (cursor : Cursor) : Run cursor []
  | cons {cursor next : Cursor} {event : Event} {events : List Event} (steady : cursor.Steady)
      (turn : Turn cursor event next) (rest : Run next events) : Run cursor (event :: events)

variable {cursor next : Cursor} {event : Event} {events : List Event} {primary : Key}

/-- Calls one after the other make a run. -/
theorem run_play (steady : cursor.Steady) (calls : List Call) : Run cursor (cursor.play calls) := by
  induction calls generalizing cursor with
  | nil => exact .nil cursor
  | cons call rest inductionHypothesis =>
      have turn := steady.turn call
      exact .cons steady turn (inductionHypothesis (steady.after turn))

theorem Run.suffix {earlier later : List Event} (run : Run cursor (earlier ++ later)) :
    ∃ middle, Run middle later := by
  induction earlier generalizing cursor with
  | nil => exact ⟨cursor, run⟩
  | cons event earlier inductionHypothesis =>
      cases run with
      | cons steady turn rest => exact inductionHypothesis rest

/-! ## The order of positions -/

/-- The positions of a run are past that of its cursor, and each is past those
before. -/
theorem Run.ordered (run : Run cursor events) :
    (∀ visit ∈ visits events, cursor.direction.Past cursor.position visit.1) ∧
      ((visits events).map Prod.fst).Pairwise cursor.direction.Precedes := by
  induction run with
  | nil cursor => exact ⟨nofun, .nil⟩
  | @cons cursor next event events steady turn rest inductionHypothesis =>
      cases turn with
      | @met entry later record running going stored =>
          obtain ⟨beyond, sorted⟩ := inductionHypothesis
          have past : cursor.direction.Past cursor.position entry :=
            (mem_ahead_iff.mp (going ▸ List.mem_cons_self)).2
          have after : ∀ visit ∈ visits events, cursor.direction.Precedes entry visit.1 :=
            fun visit member => beyond visit member entry rfl
          constructor
          · intro visit member
            rcases List.mem_cons.mp member with rfl | member
            · exact past
            · intro reached atReached
              exact (past reached atReached).trans (after visit member)
          · apply List.pairwise_cons.mpr
            refine ⟨?_, sorted⟩
            intro position member
            obtain ⟨visit, visitMember, rfl⟩ := List.mem_map.mp member
            exact after visit visitMember
      | ended nothing => exact inductionHypothesis
      | deleted standing => exact inductionHypothesis
      | updated standing own free => exact inductionHypothesis
      | failed error => exact inductionHypothesis

/-- What is met lies past everything met before. -/
theorem Run.precedes_of_met {earlier later : List Event} {position : Key × Key} {record : Record}
    (run : Run cursor (earlier ++ .met position record :: later)) :
    ∀ visit ∈ visits earlier, cursor.direction.Precedes visit.1 position := by
  have sorted := run.ordered.2
  rw [visits, List.filterMap_append, List.map_append] at sorted
  obtain ⟨_, _, apart⟩ := List.pairwise_append.mp sorted
  intro visit member
  exact apart visit.1 (List.mem_map_of_mem member) position List.mem_cons_self

/-- Nothing is met after the end. -/
theorem Run.visits_of_done (run : Run cursor events) (done : cursor.done = true) :
    visits events = [] := by
  induction run with
  | nil cursor => rfl
  | cons steady turn rest inductionHypothesis =>
      have nowhere := (steady.ended done).2
      cases turn with
      | met running going stored =>
          rw [running] at done
          contradiction
      | ended nothing => exact inductionHypothesis rfl
      | deleted standing =>
          rw [standing] at nowhere
          contradiction
      | updated standing own free =>
          rw [standing] at nowhere
          contradiction
      | failed error => exact inductionHypothesis done

/-! ## Records that are gone -/

/-- A record that is not stored is never met. -/
theorem Run.ne_of_absent (run : Run cursor events)
    (absent : cursor.transaction.store.get? primary = none) :
    ∀ visit ∈ visits events, visit.1.2 ≠ primary := by
  induction run with
  | nil cursor => exact nofun
  | cons steady turn rest inductionHypothesis =>
      cases turn with
      | @met entry later record running going stored =>
          intro visit member
          rcases List.mem_cons.mp member with rfl | member
          · rintro rfl
            rw [stored] at absent
            contradiction
          · exact inductionHypothesis absent visit member
      | ended nothing => exact inductionHypothesis absent
      | @deleted other standing =>
          apply inductionHypothesis
          rw [get?_deleted, absent, ite_self]
      | @updated other record standing own free =>
          apply inductionHypothesis
          obtain ⟨held, stored⟩ := (steady.standing other standing).2
          rw [get?_replaced, if_neg, absent]
          rintro rfl
          rw [stored] at absent
          contradiction
      | failed error => exact inductionHypothesis absent

/-- A record that was deleted is never met again. -/
theorem Run.ne_of_deleted {earlier later : List Event}
    (run : Run cursor (earlier ++ .deleted (some primary) :: later)) :
    ∀ visit ∈ visits later, visit.1.2 ≠ primary := by
  obtain ⟨middle, run⟩ := run.suffix
  cases run with
  | cons steady turn rest =>
      cases turn with
      | deleted standing =>
          apply rest.ne_of_absent
          rw [get?_deleted, if_pos rfl]

/-! ## Records that are not updated -/

/-- The meeting at an entry with the record that is stored. -/
def visit? (cursor : Cursor) (entry : Key × Key) : Option ((Key × Key) × Record) :=
  (cursor.transaction.store.get? entry.2).map (entry, ·)

/-- The meetings with one record that lie ahead. -/
def due (cursor : Cursor) (primary : Key) : List ((Key × Key) × Record) :=
  (cursor.ahead.filter fun entry => entry.2 = primary).filterMap cursor.visit?

theorem due_of_ahead_cons {entry : Key × Key} {later : List (Key × Key)} {record : Record}
    (going : cursor.ahead = entry :: later)
    (stored : cursor.transaction.store.get? entry.2 = some record) :
    cursor.due primary =
      [(entry, record)].filter (fun visit => visit.1.2 = primary) ++
        (cursor.moved entry).due primary := by
  have met : cursor.visit? entry = some (entry, record) := by
    rw [visit?, stored]
    rfl
  rw [due, due, going, ahead_moved going]
  by_cases same : entry.2 = primary
  · simp [same, met]
    rfl
  · simp [same]
    rfl

/-- No meeting with a record is due that has no entry ahead. -/
theorem due_eq_nil (away : ∀ entry ∈ cursor.ahead, entry.2 ≠ primary) :
    cursor.due primary = [] := by
  have none' : (cursor.ahead.filter fun entry => entry.2 = primary) = [] :=
    List.filter_eq_nil_iff.mpr fun entry member => by simpa using away entry member
  rw [due, none', List.filterMap_nil]

/-- A change of another record leaves the meetings that are due. -/
theorem due_of_elsewhere {other : Key} (different : other ≠ primary)
    (ahead : (next.ahead.filter fun entry => entry.2 ≠ other) =
      cursor.ahead.filter fun entry => entry.2 ≠ other)
    (stored : next.transaction.store.get? primary = cursor.transaction.store.get? primary) :
    next.due primary = cursor.due primary := by
  have inner (entries : List (Key × Key)) :
      (entries.filter fun entry => entry.2 = primary) =
        (entries.filter fun entry => entry.2 ≠ other).filter fun entry => entry.2 = primary := by
    rw [List.filter_filter]
    apply List.filter_congr
    intro entry _
    by_cases same : entry.2 = primary
    · simp [same, different.symm]
    · simp [same]
  rw [due, due, inner next.ahead, ahead, ← inner]
  apply List.filterMap_congr
  intro entry member
  obtain rfl : entry.2 = primary := by simpa using (List.mem_filter.mp member).2
  rw [visit?, visit?, stored]

/-- In a run to its end, a record that is not updated has the meetings that were due: a cursor
deletes only what it has met. -/
theorem Run.visits_eq_due (run : Run cursor events) (ended : Event.ended ∈ events)
    (kept : ∀ record, Event.updated (some primary) record ∉ events)
    (away : cursor.current = some primary → ∀ entry ∈ cursor.ahead, entry.2 ≠ primary) :
    (visits events).filter (fun visit => visit.1.2 = primary) = cursor.due primary := by
  induction run with
  | nil cursor => contradiction
  | @cons cursor next event events steady turn rest inductionHypothesis =>
      have restKept : ∀ record, Event.updated (some primary) record ∉ events :=
        fun record member => kept record (List.mem_cons_of_mem _ member)
      cases turn with
      | @met entry later record running going stored =>
          have restEnded : Event.ended ∈ events := by simpa using ended
          have met := inductionHypothesis restEnded restKept (by
            rintro ⟨⟩ other member
            exact (steady.ne_of_met going member).symm)
          rw [due_of_ahead_cons going stored, ← met]
          exact List.filter_append [(entry, record)] (visits events)
      | ended nothing =>
          rw [due_eq_nil (by simp [nothing])]
          exact congrArg (List.filter _) (rest.visits_of_done rfl)
      | @deleted other standing =>
          have restEnded : Event.ended ∈ events := by simpa using ended
          have met := inductionHypothesis restEnded restKept nofun
          refine met.trans ?_
          by_cases same : other = primary
          · subst same
            rw [due_eq_nil (away standing)]
            exact due_eq_nil fun entry member => steady.ne_of_deleted standing member
          · exact due_of_elsewhere same (ahead_deleted steady other)
              ((get?_deleted cursor other primary).trans (if_neg same))
      | @updated other record standing own free =>
          have restEnded : Event.ended ∈ events := by simpa using ended
          have different : other ≠ primary := by
            rintro rfl
            exact kept record List.mem_cons_self
          have met := inductionHypothesis restEnded restKept (by
            intro stands
            exact absurd (Option.some.inj (standing.symm.trans stands)) different)
          refine met.trans ?_
          exact due_of_elsewhere different (ahead_replaced steady own free)
            ((get?_replaced cursor other record primary).trans (if_neg different))
      | failed error =>
          have restEnded : Event.ended ∈ events := by simpa using ended
          exact inductionHypothesis restEnded restKept away

/-! ## Records that are met again -/

/-- A record is met as it lay ahead of the cursor, for the first time and before any
update, or else as the last update of the run has left it. -/
theorem Run.origin {earlier later : List Event} {position : Key × Key} {record : Record}
    (run : Run cursor (earlier ++ .met position record :: later)) :
    (position ∈ cursor.ahead ∧ cursor.transaction.store.get? position.2 = some record ∧
      (∀ visit ∈ visits earlier, visit.1.2 ≠ position.2) ∧
      ∀ other, Event.updated (some position.2) other ∉ earlier) ∨
    ∃ before between, earlier = before ++ .updated (some position.2) record :: between ∧
      cursor.source.key? cursor.transaction.store position.2 record = some position.1 ∧
      ∀ other, Event.updated (some position.2) other ∉ between := by
  induction earlier generalizing cursor with
  | nil =>
      cases run with
      | cons steady turn rest =>
          cases turn with
          | met running going stored =>
              exact .inl ⟨going ▸ List.mem_cons_self, stored, nofun, nofun⟩
  | cons event earlier inductionHypothesis =>
      cases run with
      | cons steady turn rest =>
          rcases inductionHypothesis rest with
            ⟨member, stored, new, kept⟩ | ⟨before, between, rfl, keyed, kept⟩
          · rcases turn.origin steady member stored with
              ⟨wasAhead, wasStored, apart, unchanged⟩ | ⟨rfl, keyed⟩
            · refine .inl ⟨wasAhead, wasStored, ?_, ?_⟩
              · intro visit visitMember
                obtain ⟨told, toldMember, meeting⟩ := List.mem_filterMap.mp visitMember
                rcases List.mem_cons.mp toldMember with rfl | toldMember
                · exact apart visit.1 visit.2 (Event.visit?_eq_some_iff.mp meeting)
                · exact new visit (List.mem_filterMap.mpr ⟨told, toldMember, meeting⟩)
              · intro other member
                rcases List.mem_cons.mp member with same | member
                · exact unchanged other same.symm
                · exact kept other member
            · exact .inr ⟨[], earlier, rfl, keyed, kept⟩
          · rw [turn.key?_eq] at keyed
            exact .inr ⟨event :: before, between, rfl, keyed, kept⟩

/-! ## Walks along primary keys -/

/-- A change of the record that a cursor stands at leaves the meetings ahead, where no
index is walked. -/
theorem filterMap_visit?_of_isPrimaryOrder (steady : cursor.Steady)
    (primaryOrder : cursor.source.isPrimaryOrder = true)
    (standing : cursor.current = some primary)
    (others : (next.ahead.filter fun entry => entry.2 ≠ primary) =
      cursor.ahead.filter fun entry => entry.2 ≠ primary)
    (apart : ∀ entry ∈ next.ahead, entry.2 ≠ primary)
    (stored : ∀ other, primary ≠ other →
      next.transaction.store.get? other = cursor.transaction.store.get? other) :
    next.ahead.filterMap next.visit? = cursor.ahead.filterMap cursor.visit? := by
  rw [ahead_of_isPrimaryOrder steady primaryOrder standing others apart]
  apply List.filterMap_congr
  intro entry member
  have different := steady.ne_of_standing primaryOrder standing member
  rw [visit?, visit?, stored entry.2 different.symm]

/-- Where no index is walked, a run to its end meets what was ahead of its cursor. -/
theorem Run.visits_of_isPrimaryOrder (run : Run cursor events)
    (primaryOrder : cursor.source.isPrimaryOrder = true) (ended : Event.ended ∈ events) :
    visits events = cursor.ahead.filterMap cursor.visit? := by
  induction run with
  | nil cursor => contradiction
  | @cons cursor next event events steady turn rest inductionHypothesis =>
      cases turn with
      | @met entry later record running going stored =>
          have met := inductionHypothesis primaryOrder (by simpa using ended)
          have visited : cursor.visit? entry = some (entry, record) := by
            rw [visit?, stored]
            rfl
          rw [going, List.filterMap_cons_some visited]
          rw [ahead_moved going] at met
          exact congrArg (List.cons (entry, record)) met
      | ended nothing =>
          rw [nothing]
          exact rest.visits_of_done rfl
      | @deleted other standing =>
          have met := inductionHypothesis primaryOrder (by simpa using ended)
          refine met.trans (filterMap_visit?_of_isPrimaryOrder steady primaryOrder standing
            (ahead_deleted steady other) ?_ ?_)
          · exact fun entry member => steady.ne_of_deleted standing member
          · exact fun primary different => (get?_deleted cursor other primary).trans
              (if_neg different)
      | @updated other record standing own free =>
          have nextSteady := steady.after (.updated standing own free)
          have met := inductionHypothesis primaryOrder (by simpa using ended)
          refine met.trans (filterMap_visit?_of_isPrimaryOrder steady primaryOrder standing
            (ahead_replaced steady own free) ?_ ?_)
          · exact fun entry member => nextSteady.ne_of_standing primaryOrder standing member
          · exact fun primary different => (get?_replaced cursor other record primary).trans
              (if_neg different)
      | failed error => exact inductionHypothesis primaryOrder (by simpa using ended)

/-! ## Whole walks -/

/-- What a cursor has ahead when it starts is the range of its source. -/
theorem mem_ahead_start_iff {transaction : Transaction} {source : ScanSource}
    {direction : Direction} (consistent : transaction.store.Consistent) {entry : Key × Key} :
    entry ∈ ahead { transaction, source, direction } ↔
      source.range.contains entry.1 = true ∧ ∃ record,
        transaction.store.get? entry.2 = some record ∧
        source.key? transaction.store entry.2 record = some entry.1 := by
  rw [ahead_start, Direction.mem_arrange, ScanSource.mem_entries_iff consistent]

/-- A record in the range of the source is the one meeting that is due with it when a
cursor starts. -/
theorem due_start {transaction : Transaction} {source : ScanSource} {direction : Direction}
    (consistent : transaction.store.Consistent) {key : Key} {record : Record}
    (stored : transaction.store.get? primary = some record)
    (keyed : source.key? transaction.store primary record = some key)
    (inside : source.range.contains key = true) :
    due { transaction, source, direction } primary = [((key, primary), record)] := by
  have member : (key, primary) ∈ ahead { transaction, source, direction } :=
    (mem_ahead_start_iff consistent).mpr ⟨inside, record, stored, keyed⟩
  have distinct : (ahead { transaction, source, direction }).Pairwise
      fun first second => first.2 ≠ second.2 := by
    rw [ahead_start]
    exact ScanSource.pairwise_arrange_primaries consistent
  have single : ((ahead { transaction, source, direction }).filter fun entry =>
      entry.2 = primary) = [(key, primary)] := by
    obtain ⟨before, after, split⟩ := List.append_of_mem member
    rw [split] at distinct ⊢
    obtain ⟨_, later, apart⟩ := List.pairwise_append.mp distinct
    rw [List.filter_append, List.filter_cons_of_pos (by simp),
      List.filter_eq_nil_iff.mpr, List.filter_eq_nil_iff.mpr, List.nil_append]
    · intro entry entryMember
      simpa using ((List.pairwise_cons.mp later).1 entry entryMember).symm
    · intro entry entryMember
      simpa using apart entry entryMember (key, primary) List.mem_cons_self
  rw [due, single]
  simp [visit?, stored]

/-- A cursor visits ascending positions, whatever it changes on its way. Records of its range
that are left alone are met once, and updated ones again just where they were moved. -/
theorem walk_stable_under_own_changes {transaction : Transaction} {source : ScanSource}
    {direction : Direction} (reachable : transaction.store.Reachable)
    (started : start transaction source direction = .ok cursor) (calls : List Call) :
    ((visits (cursor.play calls)).map Prod.fst).Pairwise direction.Precedes ∧
    (.ended ∈ cursor.play calls → ∀ primary key record,
      transaction.store.get? primary = some record →
      source.key? transaction.store primary record = some key →
      source.range.contains key = true →
      (∀ other, .updated (some primary) other ∉ cursor.play calls) →
      (visits (cursor.play calls)).filter (fun visit => visit.1.2 = primary) =
        [((key, primary), record)]) ∧
    (∀ earlier later position record,
      cursor.play calls = earlier ++ .met position record :: later →
      source.key? transaction.store position.2 record = some position.1 ∧
      ((source.range.contains position.1 = true ∧
        transaction.store.get? position.2 = some record ∧
        (∀ visit ∈ visits earlier, visit.1.2 ≠ position.2) ∧
        ∀ other, .updated (some position.2) other ∉ earlier) ∨
      ∃ before between, earlier = before ++ .updated (some position.2) record :: between ∧
        (∀ visit ∈ visits before, direction.Precedes visit.1 position) ∧
        ∀ other, .updated (some position.2) other ∉ between)) ∧
    (∀ earlier later primary, cursor.play calls = earlier ++ .deleted (some primary) :: later →
      ∀ visit ∈ visits later, visit.1.2 ≠ primary) ∧
    (source.isPrimaryOrder = true → .ended ∈ cursor.play calls →
      (visits (cursor.play calls)).map (fun visit => (visit.1.2, visit.2)) =
        source.rows transaction.store direction) := by
  obtain ⟨present, rfl⟩ := present_of_start started
  have consistent := reachable.consistent
  have steady : Steady { transaction, source, direction } := steady_start consistent present
  have run := run_play steady calls
  refine ⟨run.ordered.2, ?_, ?_, ?_, ?_⟩
  · intro ended primary key record stored keyed inside kept
    rw [run.visits_eq_due ended kept nofun, due_start consistent stored keyed inside]
  · intro earlier later position record split
    rw [split] at run
    rcases run.origin with ⟨member, stored, new, kept⟩ | ⟨before, between, rfl, keyed, kept⟩
    · obtain ⟨inside, held, heldStored, keyed⟩ := (mem_ahead_start_iff consistent).mp member
      obtain rfl : record = held := Option.some.inj (stored.symm.trans heldStored)
      exact ⟨keyed, .inl ⟨inside, stored, new, kept⟩⟩
    · refine ⟨keyed, .inr ⟨before, between, rfl, ?_, kept⟩⟩
      intro visit member
      obtain ⟨told, toldMember, meeting⟩ := List.mem_filterMap.mp member
      exact run.precedes_of_met visit
        (List.mem_filterMap.mpr ⟨told, List.mem_append_left _ toldMember, meeting⟩)
  · intro earlier later primary split
    rw [split] at run
    exact run.ne_of_deleted
  · intro primaryOrder ended
    rw [run.visits_of_isPrimaryOrder primaryOrder ended, ahead_start, ScanSource.rows,
      List.map_filterMap]
    apply List.filterMap_congr
    intro entry _
    rw [visit?, Store.row?, Option.map_map]
    rfl

/-- A walk deletes the first of two records of one age and moves the second ahead, where it is
met again. The third record is met once. -/
theorem walk_stable_deleting_and_moving :
    let byAge : IndexDescriptor := { name := "by_age", keyPath := .single "age" }
    let store := Store.ofHistory {}
      [ .createIndex "people" byAge
      , .add (.ofList [("age", .ofInt 5)])
      , .add (.ofList [("age", .ofInt 5)])
      , .add (.ofList [("age", .ofInt 6)]) ]
    let calls : List Call :=
      [ .advance, .delete, .delete
      , .advance, .update (.ofList [("_id", .ofInt 2), ("age", .ofInt 7)])
      , .update (.ofList [("_id", .ofInt 9)])
      , .advance, .advance, .advance ]
    store.Reachable ∧ ∃ cursor,
      start ⟨"people", .readWrite, store⟩ (.index "by_age" .unbounded) .forward = .ok cursor ∧
      .ended ∈ cursor.play calls ∧
      (visits (cursor.play calls)).map Prod.fst =
        [ (.ofInt 5, .ofInt 1), (.ofInt 5, .ofInt 2), (.ofInt 6, .ofInt 3)
        , (.ofInt 7, .ofInt 2) ] ∧
      (∃ record, store.get? (.ofInt 3) = some record ∧
        (visits (cursor.play calls)).filter (fun visit => visit.1.2 = .ofInt 3) =
          [((.ofInt 6, .ofInt 3), record)]) ∧
      ∀ earlier later record,
        cursor.play calls = earlier ++ .met (.ofInt 7, .ofInt 2) record :: later →
        ∃ before between, earlier = before ++ .updated (some (.ofInt 2)) record :: between := by
  intro byAge store calls
  let cursor : Cursor :=
    { transaction := ⟨"people", .readWrite, store⟩
      source := .index "by_age" .unbounded
      direction := .forward }
  have reachable : store.Reachable := Store.reachable_ofHistory _ _
  have present : store.indexes.contains "by_age" = true := by decide +kernel
  have found : (cursor.play calls).any Event.isEnd = true := by decide +kernel
  have positions : (visits (cursor.play calls)).map Prod.fst =
      [ (.ofInt 5, .ofInt 1), (.ofInt 5, .ofInt 2), (.ofInt 6, .ofInt 3)
      , (.ofInt 7, .ofInt 2) ] := by
    decide +kernel
  have third : (store.get? (.ofInt 3)).bind (cursor.source.key? store (.ofInt 3)) =
      some (.ofInt 6) := by
    decide +kernel
  have second : (store.get? (.ofInt 2)).bind (cursor.source.key? store (.ofInt 2)) ≠
      some (.ofInt 7) := by
    decide +kernel
  have kept : ((cursor.play calls).all fun event =>
      match event with
      | .updated standing _ => standing ≠ some (.ofInt 3)
      | _ => true) = true := by
    decide +kernel
  have started : start ⟨"people", .readWrite, store⟩ (.index "by_age" .unbounded) .forward =
      .ok cursor :=
    start_eq (by rintro _ ⟨⟩; exact present)
  clear_value cursor store calls
  obtain ⟨event, member, isEnd⟩ := List.any_eq_true.mp found
  have ended : .ended ∈ cursor.play calls := Event.isEnd_iff.mp isEnd ▸ member
  obtain ⟨_, once, origin, _, _⟩ := walk_stable_under_own_changes reachable started calls
  refine ⟨reachable, cursor, started, ended, positions, ?_, ?_⟩
  · obtain ⟨record, stored, keyed⟩ := Option.bind_eq_some_iff.mp third
    obtain ⟨_, same⟩ := present_of_start started
    subst same
    refine ⟨record, stored, once ended _ _ record stored keyed rfl ?_⟩
    intro other updated
    simpa using List.all_eq_true.mp kept _ updated
  · intro earlier later record split
    obtain ⟨keyed, ⟨_, stored, _⟩ | ⟨before, between, same, _⟩⟩ :=
      origin earlier later _ record split
    · obtain ⟨_, same⟩ := present_of_start started
      subst same
      exact absurd (Option.bind_eq_some_iff.mpr ⟨record, stored, keyed⟩) second
    · exact ⟨before, between, same⟩

end Cursor

end RecordBase
