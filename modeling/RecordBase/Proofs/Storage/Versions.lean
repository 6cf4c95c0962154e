import RecordBase.Connection.Basic
import RecordBase.Proofs.Storage.Stores

/-!
# Versions over runs

A run is a sequence of openings, with whatever upgrades, and of transactions on
whatever databases, from the storage without a database on. The version of a
database is the one that its last successful upgrade was asked for, as far as that
shows in the answers, so it never decreases and upgrades are told the right one.

An opening that fails leaves an entry for its database behind, be it an empty one.
No call can tell that from no entry, so the run goes on as if the opening had not
been made.
-/

namespace RecordBase

open RecordBase.Action

namespace Storage

/-! ## Runs -/

/-- A call on a storage. Upgrades leave reports in `ρ`, transactions have results in
`α`. -/
inductive Access (ρ α : Type) where
  | opening (name : String) (version : Nat) (upgrade : Upgrade ρ)
  | transaction (name store : String) (mode : TransactionMode) (action : Action Transaction α)

/-- What a call gives: an opening the report of its upgrade, if that ran, and the open
database, and a transaction its result. -/
inductive Answer (ρ α : Type) where
  | opened (report : Option ρ) (ended : Except StorageError Handle)
  | transacted (ended : Except StorageError α)

variable {ρ α : Type}

/-- The answer to a call, and the storage after it. -/
def Access.run (storage : Storage) : Access ρ α → Answer ρ α × Storage
  | opening name version upgrade =>
      let opened := storage.openDatabase name version upgrade
      (.opened opened.1 (ending opened.2), left opened.2)
  | transaction name store mode action =>
      let ended := transact name store mode action storage
      (.transacted (ending ended), left ended)

/-- The answers to calls in turn, and the storage after all of them. -/
def runAll (storage : Storage) : List (Access ρ α) → List (Answer ρ α) × Storage
  | [] => ([], storage)
  | access :: rest =>
      let (answer, next) := access.run storage
      let (answers, last) := next.runAll rest
      (answer :: answers, last)

/-- The version that an opening has upgraded a database to, seen from its answer: its
upgrade ran and it gave a handle. -/
def Answer.upgraded? (name : String) : Answer ρ α → Option Nat
  | opened (some _) (.ok handle) => if handle.name = name then some handle.version else none
  | _ => none

/-- The version of the last successful upgrade of a database. -/
def lastUpgrade? (name : String) (answers : List (Answer ρ α)) : Option Nat :=
  (answers.filterMap (·.upgraded? name)).getLast?

theorem lastUpgrade?_cons (name : String) (answer : Answer ρ α) (answers : List (Answer ρ α)) :
    lastUpgrade? name (answer :: answers) =
      (lastUpgrade? name answers).or (answer.upgraded? name) := by
  unfold lastUpgrade?
  cases upgraded : answer.upgraded? name with
  | none => rw [List.filterMap_cons_none upgraded, Option.or_none]
  | some version =>
      rw [List.filterMap_cons_some upgraded, List.getLast?_cons]
      cases (answers.filterMap (·.upgraded? name)).getLast? <;> rfl

variable {storage other : Storage} {name : String} {version : Nat} {upgrade : Upgrade ρ}

/-! ## Versions -/

/-- Keeping a database that was found changes no database, though it may leave an
entry where there was none. -/
@[simp]
theorem database_keep_found (storage : Storage) (found name : String) :
    (storage.keep found (storage.database found)).database name = storage.database name := by
  by_cases same : found = name
  · subst same
    exact database_keep _ _ _
  · exact database_keep_of_ne _ _ same

/-- Transactions leave the version alone. -/
theorem version_commit (storage : Storage) (used name : String) (transaction : Transaction) :
    ((storage.commit used transaction).database name).version =
      (storage.database name).version := by
  unfold commit
  by_cases same : used = name
  · subst same
    rw [database_keep]
  · rw [database_keep_of_ne _ _ same]

theorem version_transact (storage : Storage) (used name store : String) (mode : TransactionMode)
    (action : Action Transaction α) :
    ((left (transact used store mode action storage)).database name).version =
      (storage.database name).version := by
  unfold transact
  split
  · rfl
  · split
    · exact version_commit _ _ _ _
    · exact version_commit _ _ _ _

/-- The version of a database after a call is the one that the call has upgraded it to,
which is above the one before, and else the one before. -/
theorem version_run (storage : Storage) (name : String) (access : Access ρ α) :
    ((access.run storage).2.database name).version =
        ((access.run storage).1.upgraded? name).getD (storage.database name).version ∧
      ∀ version ∈ (access.run storage).1.upgraded? name,
        (storage.database name).version < version := by
  cases access with
  | transaction used store mode action =>
      exact ⟨version_transact storage used name store mode action, nofun⟩
  | opening opened version upgrade =>
      simp only [Access.run]
      rcases openDatabase_cases storage opened version upgrade with ⟨_, ended⟩ | ⟨_, ended⟩ |
        ⟨above, upgraded, _, ended⟩ | ⟨_, error, given, _, ended⟩
      · simp [ended, left, ending, Answer.upgraded?]
      · simp [ended, left, ending, Answer.upgraded?]
      · simp only [ended, left, ending, Answer.upgraded?]
        by_cases same : opened = name
        · subst same
          simp [above]
        · simp [same, database_keep_of_ne]
      · simp [ended, left, ending, Answer.upgraded?]

/-- The version of a database after calls is that of its last successful upgrade, which is
above the one before, and else the one before. -/
theorem version_runAll (storage : Storage) (name : String) (accesses : List (Access ρ α)) :
    ((storage.runAll accesses).2.database name).version =
        (lastUpgrade? name (storage.runAll accesses).1).getD (storage.database name).version ∧
      (∀ version ∈ lastUpgrade? name (storage.runAll accesses).1,
        (storage.database name).version < version) := by
  induction accesses generalizing storage with
  | nil => exact ⟨rfl, nofun⟩
  | cons access rest inductionHypothesis =>
      obtain ⟨stepVersion, stepAbove⟩ := version_run storage name access
      obtain ⟨restVersion, restAbove⟩ := inductionHypothesis (access.run storage).2
      simp only [runAll, lastUpgrade?_cons]
      cases latest : lastUpgrade? name ((access.run storage).2.runAll rest).1 with
      | none =>
          rw [latest] at restVersion
          exact ⟨restVersion.trans stepVersion, stepAbove⟩
      | some last =>
          rw [latest] at restVersion
          have above := restAbove last latest
          refine ⟨restVersion, ?_⟩
          rintro version ⟨⟩
          cases stepped : (access.run storage).1.upgraded? name with
          | none =>
              rw [stepVersion, stepped] at above
              exact above
          | some middle =>
              rw [stepVersion, stepped] at above
              exact Nat.lt_trans (stepAbove middle stepped) above

theorem version_le_runAll (storage : Storage) (name : String) (accesses : List (Access ρ α)) :
    (storage.database name).version ≤ ((storage.runAll accesses).2.database name).version := by
  obtain ⟨version, above⟩ := version_runAll storage name accesses
  rw [version]
  cases latest : lastUpgrade? name (storage.runAll accesses).1 with
  | none => exact Nat.le_refl _
  | some last => exact Nat.le_of_lt (above last latest)

/-- From the empty storage on, an upgrade is told the version of the last successful one,
and none if there was none. -/
theorem previous?_runAll (name : String) (accesses : List (Access ρ α)) :
    (runAll {} accesses).2.previous? name = lastUpgrade? name (runAll {} accesses).1 := by
  obtain ⟨version, above⟩ := version_runAll {} name accesses
  have fresh : (Storage.database {} name).version = 0 := rfl
  rw [fresh] at version above
  rw [previous?, version]
  cases latest : lastUpgrade? name (runAll {} accesses).1 with
  | none => rfl
  | some last =>
      have positive : 0 < last := above last latest
      exact if_neg (Nat.ne_of_gt positive)

/-! ## Storages that no call tells apart -/

/-- Every database stands as in another storage. -/
def Same (storage other : Storage) : Prop :=
  ∀ name, storage.database name = other.database name

theorem Same.keep (same : Same storage other) (name : String) (database : Database) :
    Same (storage.keep name database) (other.keep name database) := by
  intro asked
  by_cases kept : name = asked
  · subst kept
    rw [database_keep, database_keep]
  · rw [database_keep_of_ne _ _ kept, database_keep_of_ne _ _ kept]
    exact same asked

theorem Same.commit (same : Same storage other) (name : String) (transaction : Transaction) :
    Same (storage.commit name transaction) (other.commit name transaction) := by
  unfold Storage.commit
  rw [same name]
  exact same.keep name _

/-- A call gives the same answer where the databases are the same, and leaves the same
ones. -/
theorem Same.run (same : Same storage other) (access : Access ρ α) :
    (access.run storage).1 = (access.run other).1 ∧
      Same (access.run storage).2 (access.run other).2 := by
  cases access with
  | opening name version upgrade =>
      simp only [Access.run, openDatabase, same name]
      split
      · exact ⟨rfl, same.keep name _⟩
      · split
        · split
          · exact ⟨rfl, same.keep name _⟩
          · exact ⟨rfl, same.keep name _⟩
        · exact ⟨rfl, same.keep name _⟩
  | transaction name store mode action =>
      simp only [Access.run, transact, begin, same name]
      cases (other.database name).stores.get? store with
      | none => exact ⟨rfl, same⟩
      | some found =>
          dsimp only
          cases action ⟨store, mode, found⟩ with
          | ok result after => exact ⟨rfl, same.commit name after⟩
          | error error after => exact ⟨rfl, same.commit name after⟩

/-- Calls give the same answers in turn where the databases are the same. -/
theorem Same.runAll (same : Same storage other) (accesses : List (Access ρ α)) :
    (storage.runAll accesses).1 = (other.runAll accesses).1 ∧
      Same (storage.runAll accesses).2 (other.runAll accesses).2 := by
  induction accesses generalizing storage other with
  | nil => exact ⟨rfl, same⟩
  | cons access rest inductionHypothesis =>
      obtain ⟨answer, next⟩ := same.run access
      obtain ⟨answers, last⟩ := inductionHypothesis next
      simp only [Storage.runAll]
      exact ⟨by rw [answer, answers], last⟩

/-- A call has changed nothing: every database stands as before, and whatever is called
afterwards gives the answers and leaves the databases that it would have without it. -/
structure Unaltered (storage after : Storage) : Prop where
  databases : after.Same storage
  answers : ∀ {ρ α : Type} (later : List (Access ρ α)),
    (after.runAll later).1 = (storage.runAll later).1
  afterwards : ∀ {ρ α : Type} (later : List (Access ρ α)),
    (after.runAll later).2.Same (storage.runAll later).2

/-- The entry that an opening may leave behind changes nothing. -/
theorem unaltered_keep_found (storage : Storage) (name : String) :
    storage.Unaltered (storage.keep name (storage.database name)) where
  databases := database_keep_found storage name
  answers := fun later => (Same.runAll (database_keep_found storage name) later).1
  afterwards := fun later => (Same.runAll (database_keep_found storage name) later).2

/-- An opening that fails changes nothing. -/
theorem unaltered_of_openDatabase {error : StorageError}
    (failed : (storage.openDatabase name version upgrade).2 = .error error other) :
    storage.Unaltered other := by
  rcases openDatabase_cases storage name version upgrade with ⟨_, ended⟩ | ⟨_, ended⟩ |
    ⟨_, _, _, ended⟩ | ⟨_, _, _, _, ended⟩
  · rw [ended] at failed
    cases failed
    exact unaltered_keep_found storage name
  · rw [ended] at failed
    contradiction
  · rw [ended] at failed
    contradiction
  · rw [ended] at failed
    cases failed
    exact unaltered_keep_found storage name

/-- The version of a database is that of its last successful upgrade, and an upgrade runs just
for a higher one. What fails changes nothing. -/
theorem versions_over_runs (accesses : List (Access ρ α)) (name : String) (version : Nat)
    (upgrade : Upgrade ρ) :
    let storage := (runAll {} accesses).2
    let previous := lastUpgrade? name (runAll {} accesses).1
    let found := storage.database name
    let opened := storage.openDatabase name version upgrade
    found.version = previous.getD 0 ∧
    (∀ later : List (Access ρ α),
      found.version ≤ ((storage.runAll later).2.database name).version) ∧
    opened.1 =
      (if found.version < version then some (upgrade previous version found).1 else none) ∧
    (version < found.version →
      ending opened.2 = .error (.version version found.version) ∧
        storage.Unaltered (left opened.2)) ∧
    (version = found.version →
      ending opened.2 = .ok ⟨name, version⟩ ∧ storage.Unaltered (left opened.2)) ∧
    (found.version < version →
      match (upgrade previous version found).2 with
      | .error error _ => ending opened.2 = .error error ∧ storage.Unaltered (left opened.2)
      | .ok _ upgraded =>
          ending opened.2 = .ok ⟨name, version⟩ ∧
            (left opened.2).database name = { upgraded with version } ∧
            ∀ other, other ≠ name → (left opened.2).database other = storage.database other) := by
  intro storage previous found opened
  have told : storage.previous? name = previous := previous?_runAll name accesses
  have unaltered := unaltered_keep_found storage name
  refine ⟨(version_runAll {} name accesses).1, version_le_runAll storage name, ?_⟩
  have ends := openDatabase_cases storage name version upgrade
  rw [told] at ends
  rcases ends with ⟨below, ended⟩ | ⟨same, ended⟩ | ⟨above, upgraded, ran, ended⟩ |
    ⟨above, error, given, ran, ended⟩
  · have notAbove : ¬ found.version < version := Nat.not_lt.mpr (Nat.le_of_lt below)
    simp only [opened, ended]
    exact ⟨(if_neg notAbove).symm, fun _ => ⟨rfl, unaltered⟩,
      fun same => absurd same (Nat.ne_of_lt below), fun above => absurd above notAbove⟩
  · have notBelow : ¬ version < found.version := Nat.not_lt.mpr (Nat.le_of_eq same.symm)
    have notAbove : ¬ found.version < version := Nat.not_lt.mpr (Nat.le_of_eq same)
    simp only [opened, ended]
    exact ⟨(if_neg notAbove).symm, fun below => absurd below notBelow,
      fun _ => ⟨rfl, unaltered⟩, fun above => absurd above notAbove⟩
  · have notBelow : ¬ version < found.version := Nat.not_lt.mpr (Nat.le_of_lt above)
    simp only [opened, ended]
    refine ⟨(if_pos above).symm, fun below => absurd below notBelow,
      fun same => absurd same (Nat.ne_of_gt above), fun _ => ?_⟩
    rw [ran]
    exact ⟨rfl, database_keep _ _ _,
      fun other different => database_keep_of_ne _ _ (Ne.symm different)⟩
  · have notBelow : ¬ version < found.version := Nat.not_lt.mpr (Nat.le_of_lt above)
    simp only [opened, ended]
    refine ⟨(if_pos above).symm, fun below => absurd below notBelow,
      fun same => absurd same (Nat.ne_of_gt above), fun _ => ?_⟩
    rw [ran]
    exact ⟨rfl, unaltered⟩

/-- One opening fails after it has made a store, and a later one after it has dropped a store.
Neither changes the version or the stores. -/
theorem versions_over_runs_with_failures :
    let reporting (action : Action Database Unit) : Upgrade (Option Nat) :=
      fun previous _ database => (previous, action database)
    let stop : Action Database Unit := throw (.internal (.upgrade "stop"))
    let accesses : List (Access (Option Nat) Value) := [
      .opening "main" 2 (reporting (do Database.createStore "s" {}; stop)),
      .opening "main" 3 (reporting (Database.createStore "s" {})),
      .transaction "main" "s" .readWrite (Transaction.add (.ofList [("a", .ofInt 1)])),
      .opening "main" 5 (reporting (do Database.deleteStore "s"; stop)),
      .opening "main" 2 (reporting stop)]
    let storage := (runAll {} accesses).2
    let opened := storage.openDatabase "main" 4 (reporting stop)
    (storage.database "main").version = 3 ∧ opened.1 = some (some 3) ∧
      storage.Unaltered (left opened.2) := by
  intro reporting stop accesses storage opened
  have latest : lastUpgrade? "main" (runAll {} accesses).1 = some 3 := by decide +kernel
  have facts := versions_over_runs accesses "main" 4 (reporting stop)
  simp only [latest, Option.getD_some] at facts
  clear_value accesses
  obtain ⟨version, _, report, _, _, raised⟩ := facts
  have above : (storage.database "main").version < 4 := by
    rw [version]
    decide
  rw [if_pos above] at report
  exact ⟨version, report, (raised above).2⟩

end Storage

/-- A connection that fails changes nothing, whether the configuration is refused, the
stores cannot be brought in line, or the caller's part of the upgrade fails. -/
theorem Connection.unaltered_of_openWith {ρ : Type} {storage after : Storage}
    {configuration : Configuration} {hook : Upgrade ρ} {error : ConnectionError}
    (failed : (openWith storage configuration hook).2 = .error error after) :
    storage.Unaltered after := by
  unfold openWith at failed
  split at failed
  · cases failed
    exact ⟨fun _ => rfl, fun _ => rfl, fun _ _ => rfl⟩
  · split at failed
    · contradiction
    · rename_i opened
      cases failed
      exact Storage.unaltered_of_openDatabase (congrArg Prod.snd opened)

end RecordBase
