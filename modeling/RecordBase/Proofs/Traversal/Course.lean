import RecordBase.Proofs.Query.Coverage
import RecordBase.Proofs.Storage.Action
import RecordBase.Proofs.Traversal.Snapshot

/-!
# The course of a traversal

The loops of a traversal go round until the cursor finds the end, enough was found or a
call fails; nothing counts their rounds. A course is such a run of the loops from start to
outcome, with the primary keys of the records acted on. Every traversal of a store that
agrees with its record type has one course. It acts on no record twice and meets no more
records than the source has entries, but for those that it has updated and moved ahead of
itself along an index.
-/

namespace RecordBase

namespace Traversal

/-! ## Loops -/

/-- Whether a record that was met is a match, and not one that was updated before. -/
def wants (traversal : Traversal) (progress : Progress) (key : Key) (record : Record) : Bool :=
  !progress.updated.contains key && traversal.plan.clause.accepts record

/-- The loop of a streaming traversal, from how far it has come and its cursor to the
outcome. A record that the store refuses to change is acted on, too. -/
inductive Streams (traversal : Traversal) :
    Progress → Cursor → List Key → EStateM.Result StorageError Cursor Found → Prop
  | ended {progress : Progress} {cursor next : Cursor}
      (advanced : Cursor.advance cursor = .ok none next) :
      Streams traversal progress cursor [] (.ok progress.result next)
  | lost {progress : Progress} {cursor next : Cursor} {error : StorageError}
      (advanced : Cursor.advance cursor = .error error next) :
      Streams traversal progress cursor [] (.error error next)
  | passed {progress : Progress} {cursor next : Cursor} {key : Key} {record : Record}
      {keys : List Key} {outcome : EStateM.Result StorageError Cursor Found}
      (advanced : Cursor.advance cursor = .ok (some (key, record)) next)
      (unwanted : traversal.wants progress key record = false)
      (onward : Streams traversal progress.passed next keys outcome) :
      Streams traversal progress cursor keys outcome
  | skipped {progress : Progress} {cursor next : Cursor} {key : Key} {record : Record}
      {keys : List Key} {outcome : EStateM.Result StorageError Cursor Found}
      (advanced : Cursor.advance cursor = .ok (some (key, record)) next)
      (wanted : traversal.wants progress key record = true)
      (early : progress.skipped < traversal.plan.skip)
      (onward : Streams traversal progress.skippedOver next keys outcome) :
      Streams traversal progress cursor keys outcome
  | refused {progress : Progress} {cursor next last : Cursor} {key : Key} {record : Record}
      {error : StorageError}
      (advanced : Cursor.advance cursor = .ok (some (key, record)) next)
      (wanted : traversal.wants progress key record = true)
      (late : ¬ progress.skipped < traversal.plan.skip)
      (failed : traversal.act record next = .error error last) :
      Streams traversal progress cursor [key] (.error error last)
  | sated {progress : Progress} {cursor next last : Cursor} {key : Key} {record result : Record}
      (advanced : Cursor.advance cursor = .ok (some (key, record)) next)
      (wanted : traversal.wants progress key record = true)
      (late : ¬ progress.skipped < traversal.plan.skip)
      (succeeded : traversal.act record next = .ok result last)
      (enough : traversal.isSated (traversal.acted progress key result) = true) :
      Streams traversal progress cursor [key]
        (.ok (traversal.acted progress key result).result last)
  | acted {progress : Progress} {cursor next last : Cursor} {key : Key} {record result : Record}
      {keys : List Key} {outcome : EStateM.Result StorageError Cursor Found}
      (advanced : Cursor.advance cursor = .ok (some (key, record)) next)
      (wanted : traversal.wants progress key record = true)
      (late : ¬ progress.skipped < traversal.plan.skip)
      (succeeded : traversal.act record next = .ok result last)
      (hungry : traversal.isSated (traversal.acted progress key result) = false)
      (onward : Streams traversal (traversal.acted progress key result) last keys outcome) :
      Streams traversal progress cursor (key :: keys) outcome

/-- The loop that collects the records of a walk behind those met already, the last one
first. -/
inductive Scans :
    List (Key × Record) → Cursor → EStateM.Result StorageError Cursor (List (Key × Record)) → Prop
  | ended {met : List (Key × Record)} {cursor next : Cursor}
      (advanced : Cursor.advance cursor = .ok none next) : Scans met cursor (.ok met.reverse next)
  | lost {met : List (Key × Record)} {cursor next : Cursor} {error : StorageError}
      (advanced : Cursor.advance cursor = .error error next) : Scans met cursor (.error error next)
  | met {met : List (Key × Record)} {cursor next : Cursor} {entry : Key × Record}
      {outcome : EStateM.Result StorageError Cursor (List (Key × Record))}
      (advanced : Cursor.advance cursor = .ok (some entry) next)
      (onward : Scans (entry :: met) next outcome) : Scans met cursor outcome

/-- The loop that acts on rows by their keys, with the results collected already, the last
one first. -/
inductive Acts (traversal : Traversal) :
    List Record → List (Key × Record) → Transaction → List Key →
      EStateM.Result StorageError Transaction (List Record) → Prop
  | ended {results : List Record} {transaction : Transaction} :
      Acts traversal results [] transaction [] (.ok results.reverse transaction)
  | refused {results : List Record} {row : Key × Record} {rest : List (Key × Record)}
      {transaction after : Transaction} {error : StorageError}
      (failed : traversal.actOn row transaction = .error error after) :
      Acts traversal results (row :: rest) transaction [row.1] (.error error after)
  | acted {results : List Record} {row : Key × Record} {rest : List (Key × Record)}
      {transaction after : Transaction} {result : Record} {keys : List Key}
      {outcome : EStateM.Result StorageError Transaction (List Record)}
      (succeeded : traversal.actOn row transaction = .ok result after)
      (onward : Acts traversal (result :: results) rest after keys outcome) :
      Acts traversal results (row :: rest) transaction (row.1 :: keys) outcome

/-- The course of a traversal: it does nothing, cannot start to walk, streams, loses its way
while it collects, or acts on what is selected of the records collected. -/
inductive Runs (traversal : Traversal) (transaction : Transaction) :
    List Key → EStateM.Result StorageError Transaction Found → Prop
  | idle (zero : traversal.plan.isZeroLimit = true) :
      Runs traversal transaction [] (.ok {} transaction)
  | unopened {error : StorageError} (limited : traversal.plan.isZeroLimit = false)
      (failed : Cursor.start transaction traversal.plan.source traversal.plan.direction =
        .error error) :
      Runs traversal transaction [] (.error error transaction)
  | streamed {cursor : Cursor} {keys : List Key}
      {outcome : EStateM.Result StorageError Cursor Found}
      (limited : traversal.plan.isZeroLimit = false)
      (streaming : traversal.plan.isStreaming = true)
      (opened : Cursor.start transaction traversal.plan.source traversal.plan.direction =
        .ok cursor)
      (course : traversal.Streams {} cursor keys outcome) :
      Runs traversal transaction keys (Cursor.leave id outcome)
  | lost {cursor last : Cursor} {error : StorageError}
      (limited : traversal.plan.isZeroLimit = false)
      (collecting : traversal.plan.isStreaming = false)
      (opened : Cursor.start transaction traversal.plan.source traversal.plan.direction =
        .ok cursor)
      (scan : Scans [] cursor (.error error last)) :
      Runs traversal transaction [] (.error error last.transaction)
  | materialized {cursor last : Cursor} {met : List (Key × Record)} {keys : List Key}
      {outcome : EStateM.Result StorageError Transaction (List Record)}
      (limited : traversal.plan.isZeroLimit = false)
      (collecting : traversal.plan.isStreaming = false)
      (opened : Cursor.start transaction traversal.plan.source traversal.plan.direction =
        .ok cursor)
      (scan : Scans [] cursor (.ok met last))
      (course : traversal.Acts [] (traversal.select (traversal.matching met)) last.transaction keys
        outcome) :
      Runs traversal transaction keys
        (match outcome with
          | .ok records after => .ok ⟨records, met.length, (traversal.matching met).length⟩ after
          | .error error after => .error error after)

/-! ## One course -/

variable {traversal : Traversal}

/-- What the cursor and its calls give decides what the next round does. -/
theorem Streams.round {progress : Progress} {cursor : Cursor} {keys : List Key}
    {outcome : EStateM.Result StorageError Cursor Found}
    (course : traversal.Streams progress cursor keys outcome) :
    match Cursor.advance cursor with
    | .error error next => keys = [] ∧ outcome = .error error next
    | .ok none next => keys = [] ∧ outcome = .ok progress.result next
    | .ok (some (key, record)) next =>
        if traversal.wants progress key record = false then
          traversal.Streams progress.passed next keys outcome
        else if progress.skipped < traversal.plan.skip then
          traversal.Streams progress.skippedOver next keys outcome
        else
          match traversal.act record next with
          | .error error last => keys = [key] ∧ outcome = .error error last
          | .ok result last =>
              if traversal.isSated (traversal.acted progress key result) = true then
                keys = [key] ∧ outcome = .ok (traversal.acted progress key result).result last
              else
                ∃ later, keys = key :: later ∧
                  traversal.Streams (traversal.acted progress key result) last later outcome := by
  cases course with
  | ended advanced => simp [advanced]
  | lost advanced => simp [advanced]
  | passed advanced unwanted onward => simpa [advanced, unwanted] using onward
  | skipped advanced wanted early onward => simpa [advanced, wanted, early] using onward
  | refused advanced wanted late failed => simp [advanced, wanted, late, failed]
  | sated advanced wanted late succeeded enough =>
      simp [advanced, wanted, late, succeeded, enough]
  | acted advanced wanted late succeeded hungry onward =>
      simpa [advanced, wanted, late, succeeded, hungry] using onward

/-- A streaming loop has one course. -/
theorem Streams.unique {progress : Progress} {cursor : Cursor} {keys others : List Key}
    {outcome other : EStateM.Result StorageError Cursor Found}
    (first : traversal.Streams progress cursor keys outcome)
    (second : traversal.Streams progress cursor others other) :
    keys = others ∧ outcome = other := by
  induction first generalizing others with
  | ended advanced =>
      have round := second.round
      simp only [advanced] at round
      exact ⟨round.1.symm, round.2.symm⟩
  | lost advanced =>
      have round := second.round
      simp only [advanced] at round
      exact ⟨round.1.symm, round.2.symm⟩
  | passed advanced unwanted onward inductionHypothesis =>
      have round := second.round
      simp only [advanced, unwanted, if_true] at round
      exact inductionHypothesis round
  | skipped advanced wanted early onward inductionHypothesis =>
      have round := second.round
      simp only [advanced, wanted, early, reduceCtorEq, if_true, if_false] at round
      exact inductionHypothesis round
  | refused advanced wanted late failed =>
      have round := second.round
      simp only [advanced, wanted, late, failed, reduceCtorEq, if_false] at round
      exact ⟨round.1.symm, round.2.symm⟩
  | sated advanced wanted late succeeded enough =>
      have round := second.round
      simp only [advanced, wanted, late, succeeded, enough, reduceCtorEq, if_true,
        if_false] at round
      exact ⟨round.1.symm, round.2.symm⟩
  | acted advanced wanted late succeeded hungry onward inductionHypothesis =>
      have round := second.round
      simp only [advanced, wanted, late, succeeded, hungry, reduceCtorEq, Bool.false_eq_true,
        if_false] at round
      rcases round with ⟨later, rfl, following⟩
      rcases inductionHypothesis following with ⟨rfl, rfl⟩
      exact ⟨rfl, rfl⟩

theorem Scans.round {met : List (Key × Record)} {cursor : Cursor}
    {outcome : EStateM.Result StorageError Cursor (List (Key × Record))}
    (scan : Scans met cursor outcome) :
    match Cursor.advance cursor with
    | .error error next => outcome = .error error next
    | .ok none next => outcome = .ok met.reverse next
    | .ok (some entry) next => Scans (entry :: met) next outcome := by
  cases scan with
  | ended advanced => simp [advanced]
  | lost advanced => simp [advanced]
  | met advanced onward => simpa [advanced] using onward

theorem Scans.unique {met : List (Key × Record)} {cursor : Cursor}
    {outcome other : EStateM.Result StorageError Cursor (List (Key × Record))}
    (first : Scans met cursor outcome) (second : Scans met cursor other) : outcome = other := by
  induction first with
  | ended advanced =>
      have round := second.round
      simp only [advanced] at round
      exact round.symm
  | lost advanced =>
      have round := second.round
      simp only [advanced] at round
      exact round.symm
  | met advanced onward inductionHypothesis =>
      have round := second.round
      simp only [advanced] at round
      exact inductionHypothesis round

theorem Acts.round {results : List Record} {row : Key × Record} {rest : List (Key × Record)}
    {transaction : Transaction} {keys : List Key}
    {outcome : EStateM.Result StorageError Transaction (List Record)}
    (course : traversal.Acts results (row :: rest) transaction keys outcome) :
    match traversal.actOn row transaction with
    | .error error after => keys = [row.1] ∧ outcome = .error error after
    | .ok result after => ∃ later, keys = row.1 :: later ∧
        traversal.Acts (result :: results) rest after later outcome := by
  cases course with
  | refused failed => simp [failed]
  | acted succeeded onward => simpa [succeeded] using onward

theorem Acts.unique {results : List Record} {rows : List (Key × Record)}
    {transaction : Transaction} {keys others : List Key}
    {outcome other : EStateM.Result StorageError Transaction (List Record)}
    (first : traversal.Acts results rows transaction keys outcome)
    (second : traversal.Acts results rows transaction others other) :
    keys = others ∧ outcome = other := by
  induction first generalizing others with
  | ended =>
      cases second
      exact ⟨rfl, rfl⟩
  | refused failed =>
      have round := second.round
      simp only [failed] at round
      exact ⟨round.1.symm, round.2.symm⟩
  | acted succeeded onward inductionHypothesis =>
      have round := second.round
      simp only [succeeded] at round
      rcases round with ⟨later, rfl, following⟩
      rcases inductionHypothesis following with ⟨rfl, rfl⟩
      exact ⟨rfl, rfl⟩

/-- The plan, the cursor that it starts with and the scan decide which way a traversal goes. -/
theorem Runs.route {transaction : Transaction} {keys : List Key}
    {outcome : EStateM.Result StorageError Transaction Found}
    (course : traversal.Runs transaction keys outcome) :
    if traversal.plan.isZeroLimit = true then
      keys = [] ∧ outcome = .ok {} transaction
    else
      match Cursor.start transaction traversal.plan.source traversal.plan.direction with
      | .error error => keys = [] ∧ outcome = .error error transaction
      | .ok cursor =>
          if traversal.plan.isStreaming = true then
            ∃ streamed, traversal.Streams {} cursor keys streamed ∧
              outcome = Cursor.leave id streamed
          else
            ∃ scanned, Scans [] cursor scanned ∧
              match scanned with
              | .error error last => keys = [] ∧ outcome = .error error last.transaction
              | .ok met last => ∃ acting,
                  traversal.Acts [] (traversal.select (traversal.matching met)) last.transaction
                    keys acting ∧
                  outcome = match acting with
                    | .ok records after =>
                        .ok ⟨records, met.length, (traversal.matching met).length⟩ after
                    | .error error after => .error error after := by
  cases course with
  | idle zero => simp [zero]
  | unopened limited failed => simp [limited, failed]
  | streamed limited streaming opened course =>
      rw [limited, streaming, opened]
      exact ⟨_, course, rfl⟩
  | lost limited collecting opened scan =>
      rw [limited, collecting, opened]
      exact ⟨_, scan, rfl, rfl⟩
  | @materialized _ _ _ _ acting limited collecting opened scan course =>
      rw [limited, collecting, opened]
      refine ⟨_, scan, acting, course, ?_⟩
      cases acting <;> rfl

/-- A traversal has one course. -/
theorem Runs.unique {transaction : Transaction} {keys others : List Key}
    {outcome other : EStateM.Result StorageError Transaction Found}
    (first : traversal.Runs transaction keys outcome)
    (second : traversal.Runs transaction others other) : keys = others ∧ outcome = other := by
  have route := second.route
  cases first with
  | idle zero =>
      rw [if_pos zero] at route
      exact ⟨route.1.symm, route.2.symm⟩
  | unopened limited failed =>
      simp only [limited, failed, Bool.false_eq_true, if_false] at route
      exact ⟨route.1.symm, route.2.symm⟩
  | streamed limited streaming opened course =>
      simp only [limited, streaming, opened, Bool.false_eq_true, if_true, if_false] at route
      rcases route with ⟨streamed, following, rfl⟩
      rcases course.unique following with ⟨rfl, rfl⟩
      exact ⟨rfl, rfl⟩
  | lost limited collecting opened scan =>
      simp only [limited, collecting, opened, Bool.false_eq_true, if_false] at route
      rcases route with ⟨scanned, sameScan, ended⟩
      cases scan.unique sameScan
      exact ⟨ended.1.symm, ended.2.symm⟩
  | @materialized _ _ _ _ acting limited collecting opened scan course =>
      simp only [limited, collecting, opened, Bool.false_eq_true, if_false] at route
      rcases route with ⟨scanned, sameScan, ended⟩
      cases scan.unique sameScan
      rcases ended with ⟨_, following, rfl⟩
      rcases course.unique following with ⟨rfl, rfl⟩
      refine ⟨rfl, ?_⟩
      cases acting <;> rfl

/-! ## Steps of the streaming loop -/

/-- How many records met may have been met before, with the records found. -/
def revisits (traversal : Traversal) (found : List Record) : Nat :=
  if traversal.tracksUpdates then found.length else 0

/-- A streaming traversal acts on pending records, on each once, and changes no others. What it
meets was ahead of the cursor or is an update met again. -/
structure Visits (traversal : Traversal) (progress : Progress) (cursor : Cursor) (keys : List Key)
    (outcome : EStateM.Result StorageError Cursor Found) : Prop where
  once : keys.Sublist ((cursor.pending progress.updated).map Prod.snd)
  elsewhere : ∀ key ∉ keys,
    (Action.left outcome).transaction.store.get? key = cursor.transaction.store.get? key
  bounded : ∀ found last, outcome = .ok found last →
    found.scanned + traversal.revisits progress.found ≤
      progress.scanned + cursor.ahead.length + traversal.revisits found.records

section Steps

variable {progress next : Progress} {cursor : Cursor} {entry : Key × Key}
  {rest : List (Key × Key)} {record result : Record} {after : Transaction} {keys : List Key}
  {outcome : EStateM.Result StorageError Cursor Found} {steps : Nat}

theorem visits_of_stop {last : Cursor} (unchanged : last.transaction = cursor.transaction) :
    traversal.Visits progress cursor [] (.ok progress.result last) where
  once := List.nil_sublist _
  elsewhere := by
    intro key _
    rw [Action.left, unchanged]
  bounded := by
    rintro _ _ ⟨⟩
    simp only [Progress.result, revisits, List.length_reverse]
    omega

/-- A record that is met and left alone is one record less ahead. -/
theorem Visits.met (visits : traversal.Visits next (cursor.moved entry) keys outcome)
    (going : cursor.ahead = entry :: rest) (updated : next.updated = progress.updated)
    (found : next.found = progress.found) (scanned : next.scanned = progress.scanned + 1) :
    traversal.Visits progress cursor keys outcome where
  once := by
    have fewer : ((cursor.moved entry).pending progress.updated).Sublist
        (cursor.pending progress.updated) := by
      rw [Cursor.pending, Cursor.pending, going, Cursor.ahead_moved going]
      exact (List.sublist_cons_self entry rest).filter _
    have once := visits.once
    rw [updated] at once
    exact once.trans (fewer.map Prod.snd)
  elsewhere := visits.elsewhere
  bounded := by
    intro given last succeeded
    have bounded := visits.bounded given last succeeded
    rw [found, scanned, Cursor.ahead_moved going] at bounded
    rw [going, List.length_cons]
    omega

theorem wants_eq_true (new : entry.2 ∉ progress.updated)
    (accepted : traversal.plan.clause.accepts record = true) :
    traversal.wants progress entry.2 record = true := by
  simp [wants, new, accepted]

/-- The cursor of a traversal acts on the record met. -/
theorem act_moved (underway : Underway traversal (steps + 1) progress cursor)
    (stored : cursor.transaction.store.get? entry.2 = some record) :
    traversal.act record (cursor.moved entry) =
      match traversal.actOn (entry.2, record) cursor.transaction with
      | .ok result after => .ok result (traversal.actedCursor cursor entry after)
      | .error error after => .error error { cursor.moved entry with transaction := after } :=
  @act_eq traversal (entry.2, record) (cursor.moved entry) underway.suits underway.sound.consistent
    stored rfl

/-- Only an update that is kept track of puts an entry ahead. -/
theorem length_ahead_actedCursor (underway : Underway traversal (steps + 1) progress cursor)
    (going : cursor.ahead = entry :: rest)
    (stored : cursor.transaction.store.get? entry.2 = some record)
    (actedOn : traversal.actOn (entry.2, record) cursor.transaction = .ok result after) :
    (traversal.actedCursor cursor entry after).ahead.length ≤
      rest.length + traversal.revisits [result] := by
  cases tracks : traversal.tracksUpdates with
  | true =>
      simp only [revisits, tracks, if_true, List.length_singleton]
      exact length_ahead_of_actOn underway.sound underway.suits going stored actedOn _
  | false =>
      have others := ahead_filter_of_actOn underway.sound underway.suits going stored actedOn
        (traversal.currentAfter entry.2)
      rw [List.filter_eq_self.mpr fun other member => decide_eq_true
        (ne_of_mem_ahead_of_actOn underway.sound underway.suits underway.walks going stored
          actedOn _ tracks member)] at others
      exact Nat.le_trans (Nat.le_of_eq (congrArg List.length others)) (Nat.le_add_right _ _)

/-- A record acted on was pending, and those acted on later have stayed so. -/
theorem sublist_pending_of_cons (going : cursor.ahead = entry :: rest)
    (new : entry.2 ∉ progress.updated)
    (later : keys.Sublist
      ((rest.filter fun other => !progress.updated.contains other.2).map Prod.snd)) :
    (entry.2 :: keys).Sublist ((cursor.pending progress.updated).map Prod.snd) := by
  rw [Cursor.pending_of_not_mem going new, Cursor.pending, Cursor.ahead_moved going, List.map_cons]
  exact later.cons_cons entry.2

/-- A record that cannot be acted on stays as it is. -/
theorem visits_of_refused (underway : Underway traversal (steps + 1) progress cursor)
    (going : cursor.ahead = entry :: rest)
    (stored : cursor.transaction.store.get? entry.2 = some record)
    (new : entry.2 ∉ progress.updated) {error : StorageError}
    (refused : traversal.actOn (entry.2, record) cursor.transaction = .error error after) :
    traversal.Visits progress cursor [entry.2]
      (.error error { cursor.moved entry with transaction := after }) where
  once := sublist_pending_of_cons going new (List.nil_sublist _)
  elsewhere := by
    intro key _
    cases eq_of_actOn_eq_error underway.suits underway.sound.consistent stored refused
    rfl
  bounded := by
    rintro _ _ ⟨⟩

/-- A record acted on is one record less ahead, and one more if it was moved there. -/
theorem Visits.acted (underway : Underway traversal (steps + 1) progress cursor)
    (going : cursor.ahead = entry :: rest)
    (stored : cursor.transaction.store.get? entry.2 = some record)
    (new : entry.2 ∉ progress.updated)
    (actedOn : traversal.actOn (entry.2, record) cursor.transaction = .ok result after)
    (onward : traversal.Visits (traversal.acted progress entry.2 result)
      (traversal.actedCursor cursor entry after) keys outcome) :
    traversal.Visits progress cursor (entry.2 :: keys) outcome where
  once := by
    have once := onward.once
    rw [pending_actedCursor underway going stored actedOn] at once
    exact sublist_pending_of_cons going new once
  elsewhere := by
    intro key absent
    rw [List.mem_cons, not_or] at absent
    have differs := (differsAt_of_actOn underway.suits underway.sound.consistent stored actedOn).2
    exact (onward.elsewhere key absent.2).trans (differs.elsewhere absent.1)
  bounded := by
    intro found last succeeded
    have bounded := onward.bounded found last succeeded
    have ahead := length_ahead_actedCursor underway going stored actedOn
    have found : traversal.revisits (traversal.acted progress entry.2 result).found =
        traversal.revisits progress.found + traversal.revisits [result] := by
      unfold revisits
      split <;> rfl
    have scanned : (traversal.acted progress entry.2 result).scanned = progress.scanned + 1 := rfl
    rw [going, List.length_cons]
    omega

end Steps

/-- A streaming traversal that is given enough steps takes the course of its loop. -/
theorem exists_streams {steps : Nat} {progress : Progress} {cursor : Cursor}
    (underway : Underway traversal steps progress cursor) :
    ∃ keys, traversal.Streams progress cursor keys (traversal.streamFrom steps progress cursor) ∧
      traversal.Visits progress cursor keys (traversal.streamFrom steps progress cursor) := by
  induction steps generalizing progress cursor with
  | zero => exact absurd underway.enough (Nat.not_lt_zero _)
  | succ steps inductionHypothesis =>
      have sound := underway.sound
      cases going : cursor.ahead with
      | nil =>
          have advanced := Cursor.advance_of_ahead_nil sound going
          have stopped : traversal.streamFrom (steps + 1) progress cursor =
              .ok progress.result { cursor with done := true, current := none } := by
            simp only [streamFrom, bind, EStateM.bind, advanced]
            rfl
          rw [stopped]
          exact ⟨[], .ended advanced, visits_of_stop rfl⟩
      | cons entry rest =>
          obtain ⟨record, stored, advanced⟩ := Cursor.advance_of_ahead_cons sound going
          by_cases met : entry.2 ∈ progress.updated ∨ traversal.plan.clause.accepts record = false
          · rw [streamFrom_of_passed advanced (by simpa using met)]
            obtain ⟨keys, course, visits⟩ := inductionHypothesis (underway.passed going)
            have unwanted : traversal.wants progress entry.2 record = false := by
              simpa [wants, Classical.or_iff_not_imp_left] using met
            exact ⟨keys, .passed advanced unwanted course, visits.met going rfl rfl rfl⟩
          obtain ⟨new, accepted⟩ : entry.2 ∉ progress.updated ∧
              traversal.plan.clause.accepts record = true := by simpa using met
          have wanted : traversal.wants progress entry.2 record = true :=
            wants_eq_true new accepted
          by_cases early : progress.skipped < traversal.plan.skip
          · rw [streamFrom_of_skipped advanced new accepted early]
            obtain ⟨keys, course, visits⟩ := inductionHypothesis (underway.skippedOver going)
            exact ⟨keys, .skipped advanced wanted early course, visits.met going rfl rfl rfl⟩
          rw [streamFrom_of_acted sound underway.suits advanced stored new accepted early]
          have act := act_moved underway stored
          cases actedOn : traversal.actOn (entry.2, record) cursor.transaction with
          | error error after =>
              rw [actedOn] at act
              exact ⟨[entry.2], .refused advanced wanted early act,
                visits_of_refused underway going stored new actedOn⟩
          | ok result after =>
              rw [actedOn] at act
              cases sated : traversal.isSated (traversal.acted progress entry.2 result) with
              | true =>
                  simp only [sated, if_true]
                  exact ⟨[entry.2], .sated advanced wanted early act sated,
                    .acted underway going stored new actedOn (visits_of_stop rfl)⟩
              | false =>
                  simp only [sated, Bool.false_eq_true, if_false]
                  obtain ⟨keys, course, visits⟩ := inductionHypothesis
                    (underway.acted going stored new actedOn sated)
                  exact ⟨entry.2 :: keys, .acted advanced wanted early act sated course,
                    .acted underway going stored new actedOn visits⟩

/-! ## Collecting and acting -/

/-- A cursor that changes nothing collects the records ahead. -/
theorem exists_scans {cursor : Cursor} (sound : cursor.Sound) (met : List (Key × Record)) :
    ∃ last : Cursor, last.transaction = cursor.transaction ∧ Scans met cursor
      (.ok (met.reverse ++ cursor.ahead.filterMap cursor.transaction.store.row?) last) := by
  induction going : cursor.ahead generalizing cursor met with
  | nil =>
      refine ⟨{ cursor with done := true, current := none }, rfl, ?_⟩
      rw [List.filterMap_nil, List.append_nil]
      exact .ended (Cursor.advance_of_ahead_nil sound going)
  | cons entry rest inductionHypothesis =>
      obtain ⟨record, stored, advanced⟩ := Cursor.advance_of_ahead_cons sound going
      have row : cursor.transaction.store.row? entry = some (entry.2, record) :=
        Store.row?_eq_some_iff.mpr ⟨rfl, stored⟩
      obtain ⟨last, unchanged, scan⟩ := inductionHypothesis
        (sound.moved (going ▸ List.mem_cons_self)) ((entry.2, record) :: met)
        (Cursor.ahead_moved going)
      refine ⟨last, unchanged, .met advanced ?_⟩
      rw [List.filterMap_cons_some row]
      rw [List.reverse_cons, List.append_assoc] at scan
      exact scan

/-- Acting on stored rows of different keys acts on each once at most and changes no other
records. -/
theorem exists_acts {rows : List (Key × Record)} {transaction : Transaction}
    (suits : traversal.Suits transaction.store) (consistent : transaction.store.Consistent)
    (stored : ∀ row ∈ rows, transaction.store.get? row.1 = some row.2)
    (distinct : (rows.map Prod.fst).Nodup) (results : List Record) :
    let outcome := ((results.reverse ++ ·) <$> rows.mapM traversal.actOn) transaction
    ∃ keys, traversal.Acts results rows transaction keys outcome ∧
      keys.Sublist (rows.map Prod.fst) ∧
      ∀ key ∉ keys, (Action.left outcome).store.get? key = transaction.store.get? key := by
  induction rows generalizing transaction results with
  | nil =>
      intro outcome
      have stopped : outcome = .ok results.reverse transaction := by
        simp [outcome, Functor.map, EStateM.map, pure, EStateM.pure]
      rw [stopped]
      exact ⟨[], .ended, List.nil_sublist _, fun _ _ => rfl⟩
  | cons row rest inductionHypothesis =>
      intro outcome
      have first := stored row List.mem_cons_self
      rw [List.map_cons, List.nodup_cons] at distinct
      have step := mapM_append_cons traversal.actOn results.reverse row rest transaction
      rw [show outcome = _ from step]
      cases actedOn : traversal.actOn row transaction with
      | error error after =>
          refine ⟨[row.1], .refused actedOn, ?_, ?_⟩
          · exact (List.nil_sublist _).cons_cons row.1
          · intro key _
            cases eq_of_actOn_eq_error suits consistent first actedOn
            rfl
      | ok result after =>
          obtain ⟨afterConsistent, differs⟩ := differsAt_of_actOn suits consistent first actedOn
          have still : ∀ other ∈ rest, after.store.get? other.1 = some other.2 := by
            intro other member
            rw [differs.elsewhere fun same => distinct.1 (same ▸ List.mem_map_of_mem member)]
            exact stored other (List.mem_cons_of_mem _ member)
          obtain ⟨keys, course, once, elsewhere⟩ := inductionHypothesis (suits.of_differsAt differs)
            afterConsistent still distinct.2 (result :: results)
          rw [List.reverse_cons] at course elsewhere
          refine ⟨row.1 :: keys, .acted actedOn course, once.cons_cons row.1, ?_⟩
          intro key absent
          rw [List.mem_cons, not_or] at absent
          exact (elsewhere key absent.2).trans (differs.elsewhere absent.1)

/-! ## Whole courses -/

/-- The course of a traversal acts on no record twice, changes no other, and meets no more
records than its source has, but for updates met again. -/
structure Ends (traversal : Traversal) (transaction : Transaction) (acted : List Key)
    (outcome : EStateM.Result StorageError Transaction Found) : Prop where
  course : traversal.Runs transaction acted outcome
  once : acted.Nodup
  elsewhere : ∀ key ∉ acted,
    (Action.left outcome).store.get? key = transaction.store.get? key
  bounded : ∀ found after, outcome = .ok found after →
    found.scanned ≤ (traversal.plan.source.entries transaction.store).length +
      if traversal.plan.isStreaming && traversal.tracksUpdates then found.records.length else 0

section Whole

variable {transaction : Transaction}

theorem ends_of_isZeroLimit (zero : traversal.plan.isZeroLimit = true) :
    traversal.Ends transaction [] (traversal.run transaction) := by
  have ran : traversal.run transaction = .ok {} transaction := by
    simp only [run, zero, if_true]
    rfl
  rw [ran]
  refine ⟨.idle zero, List.nodup_nil, fun _ _ => rfl, ?_⟩
  rintro _ _ ⟨⟩
  exact Nat.zero_le _

/-- A traversal whose index is missing fails before it walks. -/
theorem ends_of_start_eq_error {error : StorageError}
    (limited : traversal.plan.isZeroLimit = false)
    (failed : Cursor.start transaction traversal.plan.source traversal.plan.direction =
      .error error) :
    traversal.Ends transaction [] (traversal.run transaction) := by
  have ran : traversal.run transaction = .error error transaction := by
    simp only [run, limited, Bool.false_eq_true, if_false]
    split
    · simp only [stream, Transaction.withCursor, failed]
    · simp only [materialize, bind, EStateM.bind, Transaction.scan, Transaction.withCursor, failed]
  rw [ran]
  exact ⟨.unopened limited failed, List.nodup_nil, fun _ _ => rfl, by rintro _ _ ⟨⟩⟩

theorem exists_ends_of_streaming (consistent : transaction.store.Consistent)
    (suits : traversal.Suits transaction.store) (limited : traversal.plan.isZeroLimit = false)
    (streaming : traversal.plan.isStreaming = true) :
    ∃ acted, traversal.Ends transaction acted (traversal.run transaction) := by
  let start : Cursor :=
    { transaction, source := traversal.plan.source, direction := traversal.plan.direction }
  have opened : Cursor.start transaction traversal.plan.source traversal.plan.direction =
      .ok start := Cursor.start_eq suits.present
  have underway : Underway traversal transaction.store.walkSteps {} start :=
    underway_start consistent suits limited
  obtain ⟨keys, course, visits⟩ := exists_streams underway
  have ran : traversal.run transaction =
      Cursor.leave id (traversal.streamFrom transaction.store.walkSteps {} start) := by
    simp only [run, limited, streaming, Bool.false_eq_true, if_false, if_true, stream,
      Transaction.withCursor, opened]
    cases traversal.streamFrom transaction.store.walkSteps {} start <;> rfl
  rw [ran]
  refine ⟨keys, .streamed limited streaming opened course, ?_, ?_, ?_⟩
  · have distinct : (start.ahead.map Prod.snd).Nodup :=
      List.pairwise_map.mpr underway.sound.pairwise_primaries
    exact (visits.once.trans (List.filter_sublist.map Prod.snd)).nodup distinct
  · intro key absent
    have elsewhere := visits.elsewhere key absent
    cases outcome : traversal.streamFrom transaction.store.walkSteps {} start <;>
      rw [outcome] at elsewhere <;> exact elsewhere
  · intro found after succeeded
    cases outcome : traversal.streamFrom transaction.store.walkSteps {} start with
    | error error last =>
        rw [outcome] at succeeded
        cases succeeded
    | ok streamed last =>
        rw [outcome] at succeeded
        cases succeeded
        have bounded := visits.bounded streamed last outcome
        rw [Cursor.ahead_start, Direction.length_arrange] at bounded
        rw [streaming, Bool.true_and]
        simpa [revisits] using bounded

theorem exists_ends_of_materializing (consistent : transaction.store.Consistent)
    (suits : traversal.Suits transaction.store) (limited : traversal.plan.isZeroLimit = false)
    (collecting : traversal.plan.isStreaming = false) :
    ∃ acted, traversal.Ends transaction acted (traversal.run transaction) := by
  let start : Cursor :=
    { transaction, source := traversal.plan.source, direction := traversal.plan.direction }
  have sound : start.Sound := Cursor.sound_start consistent suits.present
  have opened : Cursor.start transaction traversal.plan.source traversal.plan.direction =
      .ok start := Cursor.start_eq suits.present
  obtain ⟨last, unchanged, scan⟩ := exists_scans sound []
  have met : start.ahead.filterMap start.transaction.store.row? =
      traversal.plan.source.rows transaction.store traversal.plan.direction := by
    rw [Cursor.ahead_start]
    rfl
  have chosen : traversal.chosen transaction.store = traversal.select (traversal.matching
      (traversal.plan.source.rows transaction.store traversal.plan.direction)) := by
    simp only [Traversal.chosen, limited, collecting, Bool.false_eq_true, if_false]
  have stored := fun row => @get?_of_mem_chosen traversal _ consistent row
  have distinct := @nodup_keys_chosen traversal _ consistent
  have few := traversal.plan.source.length_rows_le transaction.store traversal.plan.direction
  have ran : traversal.run transaction = traversal.materialize transaction := by
    simp only [run, limited, collecting, Bool.false_eq_true, if_false]
  rw [materialize_eq consistent suits] at ran
  rw [chosen] at stored distinct
  rw [List.reverse_nil, List.nil_append, met] at scan
  generalize traversal.plan.source.rows transaction.store traversal.plan.direction = rows at *
  obtain ⟨keys, course, once, elsewhere⟩ := exists_acts suits consistent stored distinct []
  simp only [List.reverse_nil, List.nil_append, id_map'] at course elsewhere
  have same : last.transaction = transaction := unchanged
  rw [ran]
  cases acting : (traversal.select (traversal.matching rows)).mapM traversal.actOn transaction with
  | error error after =>
      rw [acting] at course elsewhere
      rw [← same] at course
      refine ⟨keys, .materialized limited collecting opened scan course, once.nodup distinct,
        elsewhere, ?_⟩
      rintro _ _ ⟨⟩
  | ok records after =>
      rw [acting] at course elsewhere
      rw [← same] at course
      refine ⟨keys, .materialized limited collecting opened scan course, once.nodup distinct,
        elsewhere, ?_⟩
      rintro _ _ ⟨⟩
      exact Nat.le_trans few (Nat.le_add_right _ _)

end Whole

/-- A traversal comes to an end by one course alone, which acts on no record twice and meets no
more than its source holds, but for updates met again. -/
theorem run_ends_acting_once {type : RecordType} {transaction : Transaction}
    (reachable : transaction.store.Reachable) (agrees : type.Agrees transaction.store)
    (plan : Plan) (operation : Operation) (single : Bool) :
    let traversal : Traversal := ⟨plan, type.primaryField, operation, single⟩
    let outcome := traversal.run transaction
    ∃ acted : List Key,
      traversal.Runs transaction acted outcome ∧
      (∀ others other, traversal.Runs transaction others other →
        others = acted ∧ other = outcome) ∧
      acted.Nodup ∧
      (∀ key ∉ acted, (Action.left outcome).store.get? key = transaction.store.get? key) ∧
      ∀ found after, outcome = .ok found after →
        found.scanned ≤ (plan.source.entries transaction.store).length +
          if plan.isStreaming && traversal.tracksUpdates then found.records.length else 0 := by
  intro traversal outcome
  have ending : ∃ acted, traversal.Ends transaction acted outcome := by
    cases limited : plan.isZeroLimit with
    | true => exact ⟨[], ends_of_isZeroLimit limited⟩
    | false =>
        cases opened : Cursor.start transaction plan.source plan.direction with
        | error error => exact ⟨[], ends_of_start_eq_error limited opened⟩
        | ok cursor =>
            have suits : traversal.Suits transaction.store :=
              ⟨(Cursor.present_of_start opened).1, agrees.primaryField⟩
            cases streaming : plan.isStreaming with
            | true => exact exists_ends_of_streaming reachable.consistent suits limited streaming
            | false =>
                exact exists_ends_of_materializing reachable.consistent suits limited streaming
  obtain ⟨acted, ends⟩ := ending
  exact ⟨acted, ends.course, fun others other course => course.unique ends.course, ends.once,
    ends.elsewhere, ends.bounded⟩

/-- An update that moves each of three records behind the others along the index meets each
of them twice and updates it once. -/
theorem run_ends_acting_once_moving :
    let byAge : IndexDescriptor := { name := "by_age", keyPath := .single "age" }
    let type : RecordType := { storeName := "people", indexes := [byAge] }
    let store := Store.ofHistory {}
      [ .createIndex "people" byAge
      , .add (.ofList [("age", .ofInt 7)])
      , .add (.ofList [("age", .ofInt 5)])
      , .add (.ofList [("age", .ofInt 6)]) ]
    let transaction : Transaction := ⟨"people", .readWrite, store⟩
    let plan := Plan.ofRequest type
      { clause := .ofList [("age", .compare (.above ⟨.ofInt 1, false⟩))] }
    let update : Operation := .update (.ofList [("age", .ofInt 9)])
    let traversal : Traversal := ⟨plan, type.primaryField, update, false⟩
    store.Reachable ∧ type.Agrees store ∧ (plan.source.entries store).length = 3 ∧
      ∃ (acted : List Key) (found : Found) (after : Transaction),
        traversal.Runs transaction acted (.ok found after) ∧ acted.Nodup ∧
          found.records.length = 3 ∧ found.scanned = 6 ∧
          found.scanned ≤ (plan.source.entries store).length + found.records.length := by
  intro byAge type store transaction plan update traversal
  have reachable : store.Reachable := Store.reachable_ofHistory _ _
  have agrees : type.Agrees store := by decide +kernel
  have entries : (plan.source.entries store).length = 3 := by decide +kernel
  have tracked : (plan.isStreaming && traversal.tracksUpdates) = true := by decide +kernel
  have counted :
      (match traversal.run transaction with
        | .ok found _ => some (found.records.length, found.scanned)
        | .error _ _ => none) = some (3, 6) := by
    decide +kernel
  clear_value store plan update type
  obtain ⟨acted, course, _, once, _, bounded⟩ :=
    @run_ends_acting_once type transaction reachable agrees plan update false
  cases ran : traversal.run transaction with
  | error error after =>
      rw [ran] at counted
      contradiction
  | ok found after =>
      rw [ran] at counted
      obtain ⟨records, scanned⟩ := Prod.mk.inj (Option.some.inj counted)
      have few := bounded found after ran
      rw [if_pos tracked] at few
      exact ⟨reachable, agrees, entries, acted, found, after, ran ▸ course, once, records, scanned,
        few⟩

end Traversal

end RecordBase
