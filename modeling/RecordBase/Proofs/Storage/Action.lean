import RecordBase.Storage.Error

/-!
# Actions

What holds of the state throughout an action, what a sequence of actions did when it
succeeds, and where it stopped when it fails. An action keeps a property of states if
it leaves a state with that property wherever it starts with one, also if it fails.
-/

namespace RecordBase

namespace Action

variable {σ α β : Type} {holds : σ → Prop}

/-- The state that is left, after success or failure. -/
def left {ε : Type} : EStateM.Result ε σ α → σ
  | .ok _ state => state
  | .error _ state => state

/-- What an action ends in, apart from the state. -/
def ending {ε : Type} : EStateM.Result ε σ α → Except ε α
  | .ok result _ => .ok result
  | .error error _ => .error error

/-- The error that an action ends in, if it fails. -/
def failure? {ε : Type} : EStateM.Result ε σ α → Option ε
  | .ok _ _ => none
  | .error error _ => some error

/-- An action never leaves a property of states. -/
def Keeps (holds : σ → Prop) (action : Action σ α) : Prop :=
  ∀ state, holds state → holds (left (action state))

/-- How an action ends that keeps a property. -/
theorem Keeps.outcome {action : Action σ α} (keeps : Keeps holds action) {state : σ}
    (before : holds state) :
    (∃ result after, action state = .ok result after ∧ holds after) ∨
      ∃ error after, action state = .error error after ∧ holds after := by
  have kept := keeps state before
  cases outcome : action state with
  | ok result after =>
      rw [outcome] at kept
      exact .inl ⟨result, after, rfl, kept⟩
  | error error after =>
      rw [outcome] at kept
      exact .inr ⟨error, after, rfl, kept⟩

theorem Keeps.of_ok {action : Action σ α} (keeps : Keeps holds action) {state after : σ}
    {result : α} (before : holds state) (succeeded : action state = .ok result after) :
    holds after := by
  have kept := keeps state before
  rwa [succeeded] at kept

theorem keeps_pure (result : α) : Keeps holds (pure result : Action σ α) :=
  fun _ before => before

theorem keeps_throw (error : StorageError) : Keeps holds (throw error : Action σ α) :=
  fun _ before => before

theorem Keeps.ite {condition : Prop} [Decidable condition] {yes no : Action σ α}
    (first : Keeps holds yes) (second : Keeps holds no) :
    Keeps holds (if condition then yes else no) := by
  split
  · exact first
  · exact second

theorem Keeps.bind {action : Action σ α} {next : α → Action σ β} (first : Keeps holds action)
    (second : ∀ result, Keeps holds (next result)) : Keeps holds (action >>= next) := by
  intro state before
  simp only [Bind.bind, EStateM.bind]
  rcases first.outcome before with ⟨result, after, outcome, kept⟩ | ⟨error, after, outcome, kept⟩
  · rw [outcome]
    exact second result after kept
  · rw [outcome]
    exact kept

theorem Keeps.mapM {act : α → Action σ β} (each : ∀ item, Keeps holds (act item))
    (items : List α) : Keeps holds (items.mapM act) := by
  induction items with
  | nil => exact keeps_pure []
  | cons item rest inductionHypothesis =>
      rw [List.mapM_cons]
      exact (each item).bind fun result =>
        inductionHypothesis.bind fun results => keeps_pure (result :: results)

theorem Keeps.forM {act : α → Action σ PUnit} (each : ∀ item, Keeps holds (act item))
    (items : List α) : Keeps holds (items.forM act) := by
  induction items with
  | nil => exact keeps_pure ()
  | cons item rest inductionHypothesis => exact (each item).bind fun _ => inductionHypothesis

/-! ## Steps -/

@[simp]
theorem get_eq (state : σ) : (get : Action σ σ) state = .ok state state :=
  rfl

@[simp]
theorem modify_eq (change : σ → σ) (state : σ) :
    (modify change : Action σ PUnit) state = .ok ⟨⟩ (change state) :=
  rfl

section

variable {action : Action σ α} {next : α → Action σ β} {state between : σ}

theorem bind_of_ok {value : α} (succeeded : action state = .ok value between) :
    (action >>= next) state = next value between := by
  simp only [Bind.bind, EStateM.bind, succeeded]

theorem bind_of_error {error : StorageError} (failed : action state = .error error between) :
    (action >>= next) state = .error error between := by
  simp only [Bind.bind, EStateM.bind, failed]

end

theorem bind_eq_ok_iff {action : Action σ α} {next : α → Action σ β} {state after : σ}
    {result : β} :
    (action >>= next) state = .ok result after ↔
      ∃ value between,
        action state = .ok value between ∧ next value between = .ok result after := by
  simp only [Bind.bind, EStateM.bind]
  cases action state with
  | ok value between =>
      constructor
      · intro succeeded
        exact ⟨value, between, rfl, succeeded⟩
      · rintro ⟨_, _, same, succeeded⟩
        cases same
        exact succeeded
  | error error last => simp

theorem bind_eq_error_iff {action : Action σ α} {next : α → Action σ β} {state after : σ}
    {error : StorageError} :
    (action >>= next) state = .error error after ↔
      action state = .error error after ∨
        ∃ value between, action state = .ok value between ∧
          next value between = .error error after := by
  simp only [Bind.bind, EStateM.bind]
  cases action state with
  | ok value between =>
      constructor
      · intro failed
        exact .inr ⟨value, between, rfl, failed⟩
      · rintro (failed | ⟨_, _, same, failed⟩)
        · contradiction
        · cases same
          exact failed
  | error error last => simp

/-- Where each item leaves the state as it is, so do all. -/
theorem forM_eq_ok_of_forall {act : α → Action σ PUnit} {items : List α} {state : σ}
    (idle : ∀ item ∈ items, act item state = .ok ⟨⟩ state) :
    items.forM act state = .ok ⟨⟩ state := by
  induction items with
  | nil => rfl
  | cons item rest inductionHypothesis =>
      refine (bind_of_ok (idle item List.mem_cons_self)).trans (inductionHypothesis ?_)
      intro other member
      exact idle other (List.mem_cons_of_mem _ member)

/-- A sequence fails at one of its items, after the items in front have succeeded. -/
theorem exists_of_forM_eq_error {act : α → Action σ PUnit} {items : List α} {state after : σ}
    {error : StorageError} (failed : items.forM act state = .error error after) :
    ∃ front item back between, items = front ++ item :: back ∧
      front.forM act state = .ok ⟨⟩ between ∧ act item between = .error error after := by
  induction items generalizing state with
  | nil => contradiction
  | cons item rest inductionHypothesis =>
      rcases bind_eq_error_iff.mp failed with first | ⟨_, next, succeeded, later⟩
      · exact ⟨[], item, rest, state, rfl, rfl, first⟩
      · obtain ⟨front, stopped, back, between, rfl, passed, stop⟩ := inductionHypothesis later
        refine ⟨item :: front, stopped, back, between, rfl, ?_, stop⟩
        exact (bind_of_ok succeeded).trans passed

end Action

end RecordBase
