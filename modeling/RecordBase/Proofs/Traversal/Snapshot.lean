import Mathlib.Data.List.Basic
import RecordBase.Proofs.Traversal.Action

/-!
# Traversals over a snapshot

A traversal acts, one after the other, on records that are chosen from the store
as it is at the start. A materializing traversal does so by its construction. A
streaming traversal chooses as it goes on, while its own changes move records
along the index: a record that it has updated may be met again, and is passed
over. What is left to be met are at every step the records of the snapshot that
were not met yet.
-/

namespace RecordBase

/-! ## Pages -/

section Pages

variable {α : Type}

@[simp]
theorem page_nil (skip : Nat) (limit : Option Nat) : page skip limit ([] : List α) = [] := by
  cases limit <;> simp [page]

@[simp]
theorem page_succ_cons (skip : Nat) (limit : Option Nat) (item : α) (rest : List α) :
    page (skip + 1) limit (item :: rest) = page skip limit rest := by
  cases limit <;> simp [page]

@[simp]
theorem page_zero_some_zero (items : List α) : page 0 (some 0) items = [] := by
  simp [page]

@[simp]
theorem page_zero_some_succ (limit : Nat) (item : α) (rest : List α) :
    page 0 (some (limit + 1)) (item :: rest) = item :: page 0 (some limit) rest := by
  simp [page]

theorem page_map {β : Type} (transform : α → β) (skip : Nat) (limit : Option Nat)
    (items : List α) :
    page skip limit (items.map transform) = (page skip limit items).map transform := by
  cases limit <;> simp [page]

theorem page_sublist (skip : Nat) (limit : Option Nat) (items : List α) :
    (page skip limit items).Sublist items := by
  cases limit with
  | none => exact List.drop_sublist skip items
  | some limit => exact (List.take_sublist limit _).trans (List.drop_sublist skip items)

end Pages

/-! ## Actions one after the other -/

theorem map_eq_ok_iff {σ α β : Type} {project : α → β} {act : Action σ α} {state after : σ}
    {result : β} :
    (project <$> act) state = .ok result after ↔
      ∃ value, act state = .ok value after ∧ project value = result := by
  simp only [Functor.map, EStateM.map]
  cases act state with
  | ok value last => simp [and_comm]
  | error error last => simp

theorem map_eq_error_iff {σ α β : Type} {project : α → β} {act : Action σ α} {state after : σ}
    {error : StorageError} :
    (project <$> act) state = .error error after ↔ act state = .error error after := by
  simp only [Functor.map, EStateM.map]
  cases act state with
  | ok value last => simp
  | error error last => simp

theorem mapM_cons_eq {σ α β : Type} (act : α → Action σ β) (item : α) (rest : List α)
    (state : σ) :
    (item :: rest).mapM act state =
      match act item state with
      | .error error after => .error error after
      | .ok result after =>
          match rest.mapM act after with
          | .error error last => .error error last
          | .ok results last => .ok (result :: results) last := by
  rw [List.mapM_cons]
  simp only [bind, EStateM.bind]
  cases act item state with
  | error error after => rfl
  | ok result after =>
      dsimp only
      cases rest.mapM act after <;> rfl

/-- Collecting results behind those found already goes on with the first
action. -/
theorem mapM_append_cons {σ α β : Type} (act : α → Action σ β) (found : List β) (item : α)
    (rest : List α) (state : σ) :
    ((found ++ ·) <$> (item :: rest).mapM act) state =
      match act item state with
      | .error error after => .error error after
      | .ok result after => (((found ++ [result]) ++ ·) <$> rest.mapM act) after := by
  simp only [Functor.map, EStateM.map, mapM_cons_eq]
  cases act item state with
  | error error after => rfl
  | ok result after =>
      cases collected : rest.mapM act after with
      | error error last => simp [collected]
      | ok results last => simp [collected]

namespace Cursor

/-- What a transaction gets from an action of its cursor. -/
def leave {α β : Type} (project : α → β) :
    EStateM.Result StorageError Cursor α → EStateM.Result StorageError Transaction β
  | .ok result cursor => .ok (project result) cursor.transaction
  | .error error cursor => .error error cursor.transaction

/-- The entries ahead of a cursor whose records it has not updated. -/
def pending (cursor : Cursor) (updated : List Key) : List (Key × Key) :=
  cursor.ahead.filter fun entry => !updated.contains entry.2

variable {cursor : Cursor} {entry : Key × Key} {rest : List (Key × Key)}

theorem pending_of_mem (going : cursor.ahead = entry :: rest) {updated : List Key}
    (met : entry.2 ∈ updated) : cursor.pending updated = (cursor.moved entry).pending updated := by
  rw [pending, pending, going, ahead_moved going, List.filter_cons_of_neg (by simp [met])]

theorem pending_of_not_mem (going : cursor.ahead = entry :: rest) {updated : List Key}
    (new : entry.2 ∉ updated) :
    cursor.pending updated = entry :: (cursor.moved entry).pending updated := by
  rw [pending, pending, going, ahead_moved going, List.filter_cons_of_pos (by simp [new])]

/-- An advance leaves no more to be met and no more pending. -/
theorem length_moved_lt {steps : Nat} (going : cursor.ahead = entry :: rest) {updated : List Key}
    (enough : cursor.ahead.length + (cursor.pending updated).length < steps + 1) :
    (cursor.moved entry).ahead.length + ((cursor.moved entry).pending updated).length < steps := by
  have fewer :
      ((cursor.moved entry).pending updated).length ≤ (cursor.pending updated).length := by
    rw [pending, pending, going, ahead_moved going]
    exact ((List.sublist_cons_self entry rest).filter _).length_le
  rw [going, List.length_cons] at enough
  rw [ahead_moved going]
  omega

/-- A list in which a primary key stands at most once is not much shorter
without it. -/
theorem length_le_of_pairwise_primaries {entries : List (Key × Key)}
    (distinct : entries.Pairwise fun first second => first.2 ≠ second.2) (key : Key) :
    entries.length ≤ (entries.filter fun entry => entry.2 ≠ key).length + 1 := by
  induction entries with
  | nil => exact Nat.zero_le _
  | cons entry rest inductionHypothesis =>
      obtain ⟨others, restDistinct⟩ := List.pairwise_cons.mp distinct
      by_cases same : entry.2 = key
      · have kept : (rest.filter fun entry => entry.2 ≠ key) = rest :=
          List.filter_eq_self.mpr fun other member =>
            decide_eq_true fun equal => others other member (same.trans equal.symm)
        apply Nat.le_of_eq
        rw [List.filter_cons_of_neg (by simpa using same), kept, List.length_cons]
      · have shorter := inductionHypothesis restDistinct
        rw [List.filter_cons_of_pos (by simpa using same), List.length_cons, List.length_cons]
        omega

end Cursor

/-! ## One action of a streaming traversal -/

namespace Traversal

section Acting

variable {traversal : Traversal} {cursor : Cursor} {entry : Key × Key} {rest : List (Key × Key)}
  {record result : Record} {after : Transaction}

/-- A cursor that has acted on a record is still on its way. -/
theorem sound_of_actOn (sound : cursor.Sound) (suits : traversal.Suits cursor.transaction.store)
    (member : entry ∈ cursor.ahead)
    (stored : cursor.transaction.store.get? entry.2 = some record)
    (acted : traversal.actOn (entry.2, record) cursor.transaction = .ok result after)
    (current : Option Key) :
    Cursor.Sound { cursor.moved entry with transaction := after, current } := by
  obtain ⟨consistent, differs⟩ := differsAt_of_actOn suits sound.consistent stored acted
  exact (sound.moved member).of_differsAt differs consistent current

/-- The entries of the other records stay ahead. -/
theorem ahead_filter_of_actOn (sound : cursor.Sound)
    (suits : traversal.Suits cursor.transaction.store) (going : cursor.ahead = entry :: rest)
    (stored : cursor.transaction.store.get? entry.2 = some record)
    (acted : traversal.actOn (entry.2, record) cursor.transaction = .ok result after)
    (current : Option Key) :
    ((Cursor.ahead { cursor.moved entry with transaction := after, current }).filter fun other =>
      other.2 ≠ entry.2) = rest := by
  obtain ⟨consistent, differs⟩ := differsAt_of_actOn suits sound.consistent stored acted
  have others := sound.pairwise_primaries
  rw [going, List.pairwise_cons] at others
  have kept : (rest.filter fun other => other.2 ≠ entry.2) = rest :=
    List.filter_eq_self.mpr fun other member =>
      decide_eq_true fun equal => others.1 other member equal.symm
  have ahead : _ = (cursor.moved entry).ahead.filter fun other => other.2 ≠ entry.2 :=
    Cursor.ahead_filter_of_differsAt current differs sound.consistent consistent
  rw [Cursor.ahead_moved going, kept] at ahead
  exact ahead

/-- An action puts at most one entry ahead. -/
theorem length_ahead_of_actOn (sound : cursor.Sound)
    (suits : traversal.Suits cursor.transaction.store) (going : cursor.ahead = entry :: rest)
    (stored : cursor.transaction.store.get? entry.2 = some record)
    (acted : traversal.actOn (entry.2, record) cursor.transaction = .ok result after)
    (current : Option Key) :
    (Cursor.ahead { cursor.moved entry with transaction := after, current }).length ≤
      rest.length + 1 := by
  have member : entry ∈ cursor.ahead := going ▸ List.mem_cons_self
  have nextSound := sound_of_actOn sound suits member stored acted current
  have longer := Cursor.length_le_of_pairwise_primaries nextSound.pairwise_primaries entry.2
  rw [ahead_filter_of_actOn sound suits going stored acted current] at longer
  exact longer

/-- A record that was acted on is met again only if the traversal keeps track of
its updates. -/
theorem ne_of_mem_ahead_of_actOn (sound : cursor.Sound)
    (suits : traversal.Suits cursor.transaction.store)
    (walks : cursor.source = traversal.plan.source) (going : cursor.ahead = entry :: rest)
    (stored : cursor.transaction.store.get? entry.2 = some record)
    (acted : traversal.actOn (entry.2, record) cursor.transaction = .ok result after)
    (current : Option Key) (untracked : traversal.tracksUpdates = false) {other : Key × Key}
    (member : other ∈ Cursor.ahead { cursor.moved entry with transaction := after, current }) :
    other.2 ≠ entry.2 := by
  have entryMember : entry ∈ cursor.ahead := going ▸ List.mem_cons_self
  have moved := sound_of_actOn sound suits entryMember stored acted current
  obtain ⟨entered, past⟩ := Cursor.mem_ahead_iff.mp member
  obtain ⟨_, held, otherStored, keyed⟩ := (ScanSource.mem_entries_iff moved.consistent).mp entered
  intro same
  cases operation : traversal.operation with
  | find =>
      simp only [actOn, operation] at acted
      cases acted
      have others := sound.pairwise_primaries
      rw [going, List.pairwise_cons] at others
      have later : other ∈ rest := Cursor.ahead_moved going ▸ member
      exact others.1 other later same.symm
  | delete =>
      simp only [actOn, operation, bind, EStateM.bind, Transaction.delete, Transaction.change]
        at acted
      cases mode : cursor.transaction.mode with
      | readOnly => simp [mode] at acted
      | readWrite =>
          simp only [mode] at acted
          cases acted
          rw [Store.get?_delete, if_pos same.symm] at otherStored
          contradiction
  | update patch =>
      have primaryOrder : cursor.source.isPrimaryOrder = true := by
        simpa [walks, tracksUpdates, operation] using untracked
      have otherKey : some other.2 = some other.1 :=
        (ScanSource.key?_of_isPrimaryOrder primaryOrder _ _).symm.trans keyed
      have entryKey : entry.1 = entry.2 := moved.own primaryOrder entry rfl
      have equal : other = entry :=
        Prod.ext ((Option.some.inj otherKey).symm.trans (same.trans entryKey.symm)) same
      exact Direction.precedes_irrefl entry (equal ▸ past entry rfl)

/-- After an action the same records are pending as before, but for the one acted
on. -/
theorem pending_of_actOn (sound : cursor.Sound)
    (suits : traversal.Suits cursor.transaction.store)
    (walks : cursor.source = traversal.plan.source) (going : cursor.ahead = entry :: rest)
    (stored : cursor.transaction.store.get? entry.2 = some record)
    (acted : traversal.actOn (entry.2, record) cursor.transaction = .ok result after)
    (current : Option Key) {updated : List Key}
    (untracked : traversal.tracksUpdates = false → updated = []) :
    Cursor.pending { cursor.moved entry with transaction := after, current }
        (if traversal.tracksUpdates then entry.2 :: updated else []) =
      rest.filter fun other => !updated.contains other.2 := by
  have others := ahead_filter_of_actOn sound suits going stored acted current
  unfold Cursor.pending
  cases tracks : traversal.tracksUpdates with
  | true =>
      rw [if_pos rfl, ← others, List.filter_filter]
      apply congrArg (List.filter · _)
      funext other
      simp [Bool.and_comm]
  | false =>
      have absent : ∀ other ∈
          Cursor.ahead { cursor.moved entry with transaction := after, current },
            other.2 ≠ entry.2 := fun other member =>
        ne_of_mem_ahead_of_actOn sound suits walks going stored acted current tracks member
      have kept := List.filter_eq_self.mpr fun other member =>
        decide_eq_true (absent other member)
      rw [kept] at others
      rw [untracked tracks, others]
      rfl

/-- The records pending are the ones that they were. -/
theorem rows_of_actOn (sound : cursor.Sound)
    (suits : traversal.Suits cursor.transaction.store) (going : cursor.ahead = entry :: rest)
    (stored : cursor.transaction.store.get? entry.2 = some record)
    (acted : traversal.actOn (entry.2, record) cursor.transaction = .ok result after)
    (test : Key × Key → Bool) :
    (rest.filter test).filterMap after.store.row? =
      (rest.filter test).filterMap cursor.transaction.store.row? := by
  obtain ⟨_, differs⟩ := differsAt_of_actOn suits sound.consistent stored acted
  have others := sound.pairwise_primaries
  rw [going, List.pairwise_cons] at others
  apply List.filterMap_congr
  intro other member
  have different : other.2 ≠ entry.2 := (others.1 other (List.mem_of_mem_filter member)).symm
  rw [Store.row?, Store.row?, differs.elsewhere different]

end Acting

/-! ## Steps of a streaming traversal -/

/-- The progress when a record was met that is not acted on for itself. -/
def Progress.passed (progress : Progress) : Progress :=
  { progress with scanned := progress.scanned + 1 }

/-- The progress when a match was passed over to skip it. -/
def Progress.skippedOver (progress : Progress) : Progress :=
  { progress with
    scanned := progress.scanned + 1
    matched := progress.matched + 1
    skipped := progress.skipped + 1 }

/-- The progress when a record was acted on. -/
def acted (traversal : Traversal) (progress : Progress) (key : Key) (result : Record) : Progress :=
  { progress with
    found := result :: progress.found
    scanned := progress.scanned + 1
    matched := progress.matched + 1
    updated := if traversal.tracksUpdates then key :: progress.updated else [] }

section Steps

variable {traversal : Traversal} {steps : Nat} {progress : Progress} {cursor : Cursor}
  {entry : Key × Key} {record : Record}

theorem streamFrom_of_end (sound : cursor.Sound) (ended : cursor.ahead = []) :
    Cursor.leave Found.records (traversal.streamFrom (steps + 1) progress cursor) =
      .ok progress.found.reverse cursor.transaction := by
  simp only [streamFrom, bind, EStateM.bind, Cursor.advance_of_ahead_nil sound ended]
  rfl

theorem streamFrom_of_passed
    (advanced : Cursor.advance cursor = .ok (some (entry.2, record)) (cursor.moved entry))
    (passed : (progress.updated.contains entry.2 ||
      !traversal.plan.clause.accepts record) = true) :
    traversal.streamFrom (steps + 1) progress cursor =
      traversal.streamFrom steps progress.passed (cursor.moved entry) := by
  simp only [streamFrom, bind, EStateM.bind, advanced]
  rw [if_pos passed]
  rfl

theorem streamFrom_of_skipped
    (advanced : Cursor.advance cursor = .ok (some (entry.2, record)) (cursor.moved entry))
    (new : entry.2 ∉ progress.updated)
    (accepted : traversal.plan.clause.accepts record = true)
    (early : progress.skipped < traversal.plan.skip) :
    traversal.streamFrom (steps + 1) progress cursor =
      traversal.streamFrom steps progress.skippedOver (cursor.moved entry) := by
  simp only [streamFrom, bind, EStateM.bind, advanced]
  rw [if_neg (by simp [new, accepted]), if_pos early]
  rfl

/-- A match that is not passed over is acted on, and the traversal goes on in
what this makes of the store. -/
theorem streamFrom_of_acted (sound : cursor.Sound)
    (suits : traversal.Suits cursor.transaction.store)
    (advanced : Cursor.advance cursor = .ok (some (entry.2, record)) (cursor.moved entry))
    (stored : cursor.transaction.store.get? entry.2 = some record)
    (new : entry.2 ∉ progress.updated)
    (accepted : traversal.plan.clause.accepts record = true)
    (late : ¬ progress.skipped < traversal.plan.skip) :
    traversal.streamFrom (steps + 1) progress cursor =
      match traversal.actOn (entry.2, record) cursor.transaction with
      | .error error after => .error error { cursor.moved entry with transaction := after }
      | .ok result after =>
          let next : Cursor :=
            { cursor.moved entry with
              transaction := after
              current := traversal.currentAfter entry.2 }
          if traversal.isSated (traversal.acted progress entry.2 result) then
            .ok (traversal.acted progress entry.2 result).result next
          else
            traversal.streamFrom steps (traversal.acted progress entry.2 result) next := by
  have act := @act_eq traversal (entry.2, record) (cursor.moved entry) suits sound.consistent
    stored rfl
  simp only [streamFrom, bind, EStateM.bind, advanced]
  rw [if_neg (by simp [new, accepted]), if_neg late]
  dsimp only [Cursor.moved] at act ⊢
  cases outcome : traversal.actOn (entry.2, record) cursor.transaction with
  | error error after => simp only [EStateM.bind, act, outcome]
  | ok result after =>
      simp only [EStateM.bind, act, outcome]
      by_cases sated : traversal.isSated (traversal.acted progress entry.2 result) = true
      · rw [if_pos sated]
        exact congrFun (if_pos sated) _
      · rw [if_neg sated]
        exact congrFun (if_neg sated) _

end Steps

/-! ## Whole traversals -/

/-- The records that match, of those that are met. -/
def matching (traversal : Traversal) (rows : List (Key × Record)) : List (Key × Record) :=
  rows.filter fun row => traversal.plan.clause.accepts row.2

/-- The records that are still to be acted on, of those that are still to be
met. -/
def due (traversal : Traversal) (progress : Progress) (rows : List (Key × Record)) :
    List (Key × Record) :=
  page (traversal.plan.skip - progress.skipped)
    (traversal.limit.map (· - progress.found.length)) (traversal.matching rows)

section Due

variable {traversal : Traversal} {progress : Progress} {row : Key × Record}
  {rows : List (Key × Record)}

theorem matching_cons_of_accepts (accepted : traversal.plan.clause.accepts row.2 = true) :
    traversal.matching (row :: rows) = row :: traversal.matching rows :=
  List.filter_cons_of_pos accepted

theorem due_cons_of_not_accepts (refused : traversal.plan.clause.accepts row.2 = false) :
    traversal.due progress (row :: rows) = traversal.due progress rows := by
  simp [due, matching, refused]

theorem due_cons_of_skipped (accepted : traversal.plan.clause.accepts row.2 = true)
    (early : progress.skipped < traversal.plan.skip) :
    traversal.due progress (row :: rows) = traversal.due progress.skippedOver rows := by
  have left : traversal.plan.skip - progress.skipped =
      traversal.plan.skip - (progress.skipped + 1) + 1 := by
    omega
  rw [due, due, Progress.skippedOver, matching_cons_of_accepts accepted, left, page_succ_cons]

/-- A match that is not passed over is the next record acted on, and it is the
last one if it fills the limit. -/
theorem due_cons_of_acted (accepted : traversal.plan.clause.accepts row.2 = true)
    (late : ¬ progress.skipped < traversal.plan.skip) (hungry : traversal.isSated progress = false)
    (key : Key) (result : Record) :
    traversal.due progress (row :: rows) =
      row :: if traversal.isSated (traversal.acted progress key result) then []
        else traversal.due (traversal.acted progress key result) rows := by
  have passed : traversal.plan.skip - progress.skipped = 0 := by omega
  unfold isSated at hungry ⊢
  rw [due, due, acted, matching_cons_of_accepts accepted, passed]
  cases limited : traversal.limit with
  | none => rfl
  | some limit =>
      simp only [limited, decide_eq_false_iff_not] at hungry
      have room : limit - progress.found.length =
          limit - (progress.found.length + 1) + 1 := by
        omega
      simp only [Option.map_some, List.length_cons, room, page_zero_some_succ, decide_eq_true_eq]
      by_cases full : limit ≤ progress.found.length + 1
      · rw [if_pos full, Nat.sub_eq_zero_of_le full, page_zero_some_zero]
      · rw [if_neg full]

end Due

/-- The records that are still to be acted on, as the store of a cursor holds
them. -/
def remaining (traversal : Traversal) (progress : Progress) (cursor : Cursor) :
    List (Key × Record) :=
  traversal.due progress
    ((cursor.pending progress.updated).filterMap cursor.transaction.store.row?)

/-- A streaming traversal on its way, with steps enough left: one for every entry
ahead, and one for every record that an action may put ahead again. -/
structure Underway (traversal : Traversal) (steps : Nat) (progress : Progress) (cursor : Cursor) :
    Prop where
  sound : cursor.Sound
  suits : traversal.Suits cursor.transaction.store
  walks : cursor.source = traversal.plan.source
  untracked : traversal.tracksUpdates = false → progress.updated = []
  hungry : traversal.isSated progress = false
  enough : cursor.ahead.length + (cursor.pending progress.updated).length < steps

section Underway

variable {traversal : Traversal} {steps : Nat} {progress : Progress} {cursor : Cursor}
  {entry : Key × Key} {rest : List (Key × Key)} {record result : Record} {after : Transaction}

theorem Underway.passed (underway : Underway traversal (steps + 1) progress cursor)
    (going : cursor.ahead = entry :: rest) :
    Underway traversal steps progress.passed (cursor.moved entry) where
  sound := underway.sound.moved (going ▸ List.mem_cons_self)
  suits := underway.suits
  walks := underway.walks
  untracked := underway.untracked
  hungry := underway.hungry
  enough := Cursor.length_moved_lt going underway.enough

theorem Underway.skippedOver (underway : Underway traversal (steps + 1) progress cursor)
    (going : cursor.ahead = entry :: rest) :
    Underway traversal steps progress.skippedOver (cursor.moved entry) :=
  have passed := underway.passed going
  ⟨passed.sound, passed.suits, passed.walks, passed.untracked, passed.hungry, passed.enough⟩

/-- The cursor after a record was acted on. -/
def actedCursor (traversal : Traversal) (cursor : Cursor) (entry : Key × Key)
    (after : Transaction) : Cursor :=
  { cursor.moved entry with
    transaction := after
    current := traversal.currentAfter entry.2 }

theorem pending_actedCursor (underway : Underway traversal (steps + 1) progress cursor)
    (going : cursor.ahead = entry :: rest)
    (stored : cursor.transaction.store.get? entry.2 = some record)
    (actedOn : traversal.actOn (entry.2, record) cursor.transaction = .ok result after) :
    (traversal.actedCursor cursor entry after).pending
        (traversal.acted progress entry.2 result).updated =
      rest.filter fun other => !progress.updated.contains other.2 :=
  pending_of_actOn underway.sound underway.suits underway.walks going stored actedOn _
    underway.untracked

/-- Acting on a record may put one entry ahead, but takes one from those pending. -/
theorem Underway.acted (underway : Underway traversal (steps + 1) progress cursor)
    (going : cursor.ahead = entry :: rest)
    (stored : cursor.transaction.store.get? entry.2 = some record)
    (new : entry.2 ∉ progress.updated)
    (actedOn : traversal.actOn (entry.2, record) cursor.transaction = .ok result after)
    (hungry : traversal.isSated (traversal.acted progress entry.2 result) = false) :
    Underway traversal steps (traversal.acted progress entry.2 result)
      (traversal.actedCursor cursor entry after) where
  sound := sound_of_actOn underway.sound underway.suits
    (going ▸ List.mem_cons_self) stored actedOn _
  suits := underway.suits.of_differsAt
    (differsAt_of_actOn underway.suits underway.sound.consistent stored actedOn).2
  walks := underway.walks
  untracked := by
    intro untracks
    simp [Traversal.acted, untracks]
  hungry := hungry
  enough := by
    have length : (traversal.actedCursor cursor entry after).ahead.length ≤ rest.length + 1 :=
      length_ahead_of_actOn underway.sound underway.suits going stored actedOn _
    have still := pending_actedCursor underway going stored actedOn
    have enough := underway.enough
    rw [Cursor.pending_of_not_mem going new, Cursor.pending, Cursor.ahead_moved going, going,
      List.length_cons, List.length_cons] at enough
    rw [still]
    omega

theorem remaining_of_mem (going : cursor.ahead = entry :: rest)
    (met : entry.2 ∈ progress.updated) :
    traversal.remaining progress cursor =
      traversal.remaining progress.passed (cursor.moved entry) := by
  rw [remaining, Cursor.pending_of_mem going met]
  rfl

theorem remaining_of_not_mem (going : cursor.ahead = entry :: rest)
    (stored : cursor.transaction.store.get? entry.2 = some record)
    (new : entry.2 ∉ progress.updated) :
    traversal.remaining progress cursor =
      traversal.due progress ((entry.2, record) ::
        ((cursor.moved entry).pending progress.updated).filterMap
          cursor.transaction.store.row?) := by
  have row : cursor.transaction.store.row? entry = some (entry.2, record) :=
    Store.row?_eq_some_iff.mpr ⟨rfl, stored⟩
  rw [remaining, Cursor.pending_of_not_mem going new, List.filterMap_cons_some row]

/-- The record acted on was the first one to be acted on, and the others stay. -/
theorem remaining_of_acted (underway : Underway traversal (steps + 1) progress cursor)
    (going : cursor.ahead = entry :: rest)
    (stored : cursor.transaction.store.get? entry.2 = some record)
    (new : entry.2 ∉ progress.updated)
    (accepted : traversal.plan.clause.accepts record = true)
    (late : ¬ progress.skipped < traversal.plan.skip)
    (actedOn : traversal.actOn (entry.2, record) cursor.transaction = .ok result after) :
    traversal.remaining progress cursor =
      (entry.2, record) :: if traversal.isSated (traversal.acted progress entry.2 result) then []
        else traversal.remaining (traversal.acted progress entry.2 result)
          (traversal.actedCursor cursor entry after) := by
  have still := pending_actedCursor underway going stored actedOn
  have rows := rows_of_actOn underway.sound underway.suits going stored actedOn
    fun other => !progress.updated.contains other.2
  rw [remaining_of_not_mem going stored new,
    due_cons_of_acted accepted late underway.hungry entry.2 result, remaining, still,
    Cursor.pending, Cursor.ahead_moved going, ← rows]
  rfl

end Underway

/-- A streaming traversal acts on the records that remain, one after the other. -/
theorem leave_streamFrom {traversal : Traversal} {steps : Nat} {progress : Progress}
    {cursor : Cursor} (underway : Underway traversal steps progress cursor) :
    Cursor.leave Found.records (traversal.streamFrom steps progress cursor) =
      ((progress.found.reverse ++ ·) <$>
        (traversal.remaining progress cursor).mapM traversal.actOn) cursor.transaction := by
  induction steps generalizing progress cursor with
  | zero => exact absurd underway.enough (Nat.not_lt_zero _)
  | succ steps inductionHypothesis =>
      have sound := underway.sound
      cases going : cursor.ahead with
      | nil =>
          rw [streamFrom_of_end sound going, remaining, Cursor.pending, going]
          simp [due, matching, Functor.map, EStateM.map, pure, EStateM.pure]
      | cons entry rest =>
          obtain ⟨record, stored, advanced⟩ := Cursor.advance_of_ahead_cons sound going
          by_cases met : entry.2 ∈ progress.updated
          · rw [streamFrom_of_passed advanced (by simp [met]), remaining_of_mem going met]
            exact inductionHypothesis (underway.passed going)
          · cases accepted : traversal.plan.clause.accepts record with
            | false =>
                rw [streamFrom_of_passed advanced (by simp [accepted]),
                  remaining_of_not_mem going stored met, due_cons_of_not_accepts accepted]
                exact inductionHypothesis (underway.passed going)
            | true =>
                by_cases early : progress.skipped < traversal.plan.skip
                · rw [streamFrom_of_skipped advanced met accepted early,
                    remaining_of_not_mem going stored met, due_cons_of_skipped accepted early]
                  exact inductionHypothesis (underway.skippedOver going)
                · rw [streamFrom_of_acted sound underway.suits advanced stored met accepted early]
                  cases actedOn : traversal.actOn (entry.2, record) cursor.transaction with
                  | error error after =>
                      rw [remaining_of_not_mem going stored met,
                        due_cons_of_acted accepted early underway.hungry entry.2 record,
                        mapM_append_cons, actedOn]
                      rfl
                  | ok result after =>
                      rw [remaining_of_acted underway going stored met accepted early actedOn,
                        mapM_append_cons, actedOn]
                      by_cases sated :
                          traversal.isSated (traversal.acted progress entry.2 result) = true
                      · simp only [if_pos sated]
                        simp [Cursor.leave, Progress.result, acted, Functor.map, EStateM.map, pure,
                          EStateM.pure]
                      · simp only [if_neg sated]
                        have onward := inductionHypothesis
                          (underway.acted going stored met actedOn (by simpa using sated))
                        rw [acted, List.reverse_cons] at onward
                        exact onward

/-- The records that a traversal acts on, as a store holds them. -/
def chosen (traversal : Traversal) (store : Store) : List (Key × Record) :=
  let candidates :=
    traversal.matching (traversal.plan.source.rows store traversal.plan.direction)
  if traversal.plan.isZeroLimit then
    []
  else if traversal.plan.isStreaming then
    page traversal.plan.skip traversal.limit candidates
  else
    traversal.select candidates

/-- The records chosen are some of the matches, in some order. -/
theorem exists_sublist_chosen (traversal : Traversal) (store : Store) :
    ∃ ordered, ordered.Perm (traversal.matching
        (traversal.plan.source.rows store traversal.plan.direction)) ∧
      (traversal.chosen store).Sublist ordered := by
  simp only [chosen]
  split
  · exact ⟨_, .rfl, List.nil_sublist _⟩
  · split
    · exact ⟨_, .rfl, page_sublist _ _ _⟩
    · exact ⟨_, List.mergeSort_perm _ _, page_sublist _ _ _⟩

/-- No record is chosen twice. -/
theorem nodup_keys_chosen {traversal : Traversal} {store : Store} (consistent : store.Consistent) :
    ((traversal.chosen store).map Prod.fst).Nodup := by
  obtain ⟨ordered, permutation, chosen⟩ := traversal.exists_sublist_chosen store
  have met : (traversal.matching
      (traversal.plan.source.rows store traversal.plan.direction)).Sublist
        (traversal.plan.source.rows store traversal.plan.direction) := List.filter_sublist
  have distinct := (met.map Prod.fst).nodup (ScanSource.nodup_keys_rows consistent)
  exact (chosen.map Prod.fst).nodup ((permutation.map Prod.fst).nodup_iff.mpr distinct)

/-- Every record chosen is stored under its key. -/
theorem get?_of_mem_chosen {traversal : Traversal} {store : Store} (consistent : store.Consistent)
    {row : Key × Record} (member : row ∈ traversal.chosen store) :
    store.get? row.1 = some row.2 := by
  obtain ⟨ordered, permutation, chosen⟩ := traversal.exists_sublist_chosen store
  have matched := permutation.mem_iff.mp (chosen.mem member)
  exact ((ScanSource.mem_rows_iff consistent).mp (List.mem_filter.mp matched).1).1

theorem isSated_start {traversal : Traversal} (limited : traversal.plan.isZeroLimit = false) :
    traversal.isSated {} = false := by
  simp only [isSated, limit]
  split
  · rename_i limit given
    cases single : traversal.single with
    | true =>
        simp only [single, if_pos] at given
        cases given
        rfl
    | false =>
        simp only [single, Bool.false_eq_true, if_false] at given
        cases limit with
        | zero => simp [Plan.isZeroLimit, given] at limited
        | succ limit => simp
  · rfl

/-- A streaming traversal starts with all entries of its source ahead, and with steps enough
to meet each of them twice. -/
theorem underway_start {traversal : Traversal} {transaction : Transaction}
    (consistent : transaction.store.Consistent) (suits : traversal.Suits transaction.store)
    (limited : traversal.plan.isZeroLimit = false) :
    Underway traversal transaction.store.walkSteps {}
      { transaction, source := traversal.plan.source, direction := traversal.plan.direction } where
  sound := Cursor.sound_start consistent suits.present
  suits := suits
  walks := rfl
  untracked := fun _ => rfl
  hungry := isSated_start limited
  enough := by
    have few := traversal.plan.source.length_entries_le consistent
    have pending (cursor : Cursor) : cursor.pending [] = cursor.ahead := by simp [Cursor.pending]
    rw [pending, Cursor.ahead_start, Direction.length_arrange, Store.walkSteps]
    omega

/-- A streaming traversal acts on the records of a page of the matches. -/
theorem stream_eq_mapM {traversal : Traversal} {transaction : Transaction}
    (consistent : transaction.store.Consistent) (suits : traversal.Suits transaction.store)
    (limited : traversal.plan.isZeroLimit = false) :
    (Found.records <$> traversal.stream) transaction =
      ((page traversal.plan.skip traversal.limit (traversal.matching
        (traversal.plan.source.rows transaction.store traversal.plan.direction))).mapM
          traversal.actOn) transaction := by
  let start : Cursor :=
    { transaction, source := traversal.plan.source, direction := traversal.plan.direction }
  have ahead : start.ahead =
      traversal.plan.direction.arrange (traversal.plan.source.entries transaction.store) :=
    Cursor.ahead_start _ _ _
  have pending : start.pending [] = start.ahead := by simp [Cursor.pending]
  have underway : Underway traversal transaction.store.walkSteps {} start :=
    underway_start consistent suits limited
  have streamed := leave_streamFrom underway
  have whole (rows : List (Key × Record)) : traversal.due {} rows =
      page traversal.plan.skip traversal.limit (traversal.matching rows) := by
    simp [due]
  rw [remaining, whole, pending, ahead] at streamed
  have left : (Found.records <$> traversal.stream) transaction =
      Cursor.leave Found.records (traversal.streamFrom transaction.store.walkSteps {} start) := by
    simp only [Functor.map, EStateM.map, stream, Transaction.withCursor,
      Cursor.start_eq suits.present]
    cases traversal.streamFrom transaction.store.walkSteps {} start <;> rfl
  rw [left, streamed]
  simp only [List.reverse_nil, List.nil_append, id_map', ScanSource.rows]
  rfl

/-- A materializing traversal collects the rows of its source and acts on those selected. -/
theorem materialize_eq {traversal : Traversal} {transaction : Transaction}
    (consistent : transaction.store.Consistent) (suits : traversal.Suits transaction.store) :
    let met := traversal.plan.source.rows transaction.store traversal.plan.direction
    traversal.materialize transaction =
      match (traversal.select (traversal.matching met)).mapM traversal.actOn transaction with
      | .ok records after => .ok ⟨records, met.length, (traversal.matching met).length⟩ after
      | .error error after => .error error after := by
  simp only [materialize, bind, EStateM.bind, Transaction.scan_eq consistent suits.present,
    matching]
  generalize traversal.plan.source.rows transaction.store traversal.plan.direction = rows
  cases (traversal.select (rows.filter fun row => traversal.plan.clause.accepts row.2)).mapM
    traversal.actOn transaction <;> rfl

/-- A materializing traversal acts on the records selected from the matches. -/
theorem materialize_eq_mapM {traversal : Traversal} {transaction : Transaction}
    (consistent : transaction.store.Consistent) (suits : traversal.Suits transaction.store) :
    (Found.records <$> traversal.materialize) transaction =
      ((traversal.select (traversal.matching
        (traversal.plan.source.rows transaction.store traversal.plan.direction))).mapM
          traversal.actOn) transaction := by
  simp only [Functor.map, EStateM.map, materialize_eq consistent suits]
  generalize traversal.plan.source.rows transaction.store traversal.plan.direction = rows
  cases (traversal.select (traversal.matching rows)).mapM traversal.actOn transaction <;> rfl

/-- A traversal acts on the records chosen from the store that it starts from,
one after the other. -/
theorem run_eq_mapM {traversal : Traversal} {transaction : Transaction}
    (consistent : transaction.store.Consistent) (suits : traversal.Suits transaction.store) :
    (Found.records <$> traversal.run) transaction =
      ((traversal.chosen transaction.store).mapM traversal.actOn) transaction := by
  unfold run chosen
  cases limited : traversal.plan.isZeroLimit with
  | true => rfl
  | false =>
      cases streaming : traversal.plan.isStreaming with
      | true => exact stream_eq_mapM consistent suits limited
      | false =>
          exact materialize_eq_mapM consistent suits

end Traversal

end RecordBase
