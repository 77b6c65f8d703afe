import Petstore.Store.Action

/-!
# Actions that fail

An action keeps what it wrote before it failed, so whether a failure shows in the state depends on
the order of its steps. An action is `Atomic` if it does not. Two orders give that: reads first and
then what is atomic (`ReadOnly.bind`), or what is atomic first and then what cannot fail
(`Atomic.bind`).
-/

namespace Petstore.Action

variable {σ τ α β : Type}

/-! ## Outcomes -/

/-- What follows an action starts from the state that it leaves, unless the action fails. -/
theorem outcome_bind (action : Action σ α) (next : α → Action σ β) (state : σ) :
    outcome (action >>= next) state =
      match outcome action state with
      | (.ok value, left) => outcome (next value) left
      | (.error error, left) => (.error error, left) := by
  unfold outcome
  rw [ExceptT.run_bind, StateT.run_bind]
  rcases (ExceptT.run action).run state with ⟨error | value, left⟩
  · rfl
  · rfl

/-- What follows a check starts from the same state, unless the check fails. -/
theorem outcome_liftM_bind (check : Except ControllerError α) (next : α → Action σ β) (state : σ) :
    outcome (liftM check >>= next) state =
      match check with
      | .ok value => outcome (next value) state
      | .error error => (.error error, state) := by
  rw [outcome_bind]
  cases check with
  | ok value => rfl
  | error error => rfl

/-- What follows a look at the state starts from the same state. -/
theorem outcome_get_bind (next : σ → Action σ β) (state : σ) :
    outcome (get >>= next) state = outcome (next state) state :=
  outcome_bind get next state

theorem outcome_modifyGet (step : σ → α × σ) (state : σ) :
    outcome (modifyGet step : Action σ α) state = (.ok (step state).1, (step state).2) := rfl

theorem outcome_map (f : α → β) (action : Action σ α) (state : σ) :
    outcome (f <$> action) state = ((outcome action state).1.map f, (outcome action state).2) := by
  unfold outcome
  rw [ExceptT.run_map]
  rfl

theorem discard_eq_map (action : Action σ α) :
    discard action = (fun _ => PUnit.unit) <$> action := by
  unfold Functor.discard
  rw [map_const]
  rfl

theorem outcome_within (part : σ → τ) (replace : σ → τ → σ) (action : Action τ α) (state : σ) :
    outcome (within part replace action) state =
      ((outcome action (part state)).1, replace state (outcome action (part state)).2) := rfl

/-! ## What a failure leaves behind -/

/-- The action leaves every state as it is. -/
def ReadOnly (action : Action σ α) : Prop :=
  ∀ state, (action.outcome state).2 = state

/-- The action does not fail. -/
def Total (action : Action σ α) : Prop :=
  ∀ state, ∃ value left, action.outcome state = (.ok value, left)

/-- The action leaves a state on which it fails as it is. -/
def Atomic (action : Action σ α) : Prop :=
  ∀ state error, (action.outcome state).1 = .error error → (action.outcome state).2 = state

variable {action : Action σ α} {next : α → Action σ β}

theorem ReadOnly.atomic (reads : action.ReadOnly) : action.Atomic :=
  fun state _ _ => reads state

theorem Total.atomic (total : action.Total) : action.Atomic := by
  intro state error failed
  obtain ⟨value, left, succeeded⟩ := total state
  rw [succeeded] at failed
  cases failed

theorem readOnly_pure (value : α) : ReadOnly (pure value : Action σ α) := fun _ => rfl

theorem readOnly_throw (error : ControllerError) : ReadOnly (throw error : Action σ α) :=
  fun _ => rfl

theorem readOnly_get : ReadOnly (get : Action σ σ) := fun _ => rfl

/-- A check that does not look at the state leaves it alone. -/
theorem readOnly_liftM (check : Except ControllerError α) :
    ReadOnly (liftM check : Action σ α) := fun _ => rfl

theorem total_pure (value : α) : Total (pure value : Action σ α) := fun state => ⟨value, state, rfl⟩

theorem total_set (left : σ) : Total (set left : Action σ PUnit) := fun _ => ⟨⟨⟩, left, rfl⟩

theorem total_modifyGet (step : σ → α × σ) : Total (modifyGet step : Action σ α) :=
  fun _ => ⟨_, _, rfl⟩

theorem ReadOnly.bind_readOnly (reads : action.ReadOnly) (rest : ∀ value, (next value).ReadOnly) :
    (action >>= next).ReadOnly := by
  intro state
  have kept := reads state
  rw [outcome_bind]
  split
  · next value left step =>
    rw [step] at kept
    exact (rest value left).trans kept
  · next error left step =>
    rw [step] at kept
    exact kept

theorem ReadOnly.map (reads : action.ReadOnly) (f : α → β) : ReadOnly (f <$> action) := by
  intro state
  rw [outcome_map]
  exact reads state

theorem Total.map (total : action.Total) (f : α → β) : Total (f <$> action) := by
  intro state
  obtain ⟨value, left, step⟩ := total state
  exact ⟨f value, left, by rw [outcome_map, step]; rfl⟩

theorem ReadOnly.discard (reads : action.ReadOnly) : ReadOnly (discard action) :=
  discard_eq_map action ▸ reads.map _

theorem Total.discard (total : action.Total) : Total (discard action) :=
  discard_eq_map action ▸ total.map _

theorem Total.bind_total (total : action.Total) (rest : ∀ value, (next value).Total) :
    (action >>= next).Total := by
  intro state
  obtain ⟨value, left, step⟩ := total state
  rw [outcome_bind, step]
  exact rest value left

/-- After reads, what is atomic stays so. -/
theorem ReadOnly.bind (reads : action.ReadOnly) (rest : ∀ value, (next value).Atomic) :
    (action >>= next).Atomic := by
  intro state error failed
  have kept := reads state
  rw [outcome_bind] at failed ⊢
  split at failed
  · next value left step =>
    rw [step] at kept
    exact (rest value left error failed).trans kept
  · next step =>
    rw [step] at kept
    exact kept

/-- Before what cannot fail, what is atomic stays so. -/
theorem Atomic.bind (atomic : action.Atomic) (rest : ∀ value, (next value).Total) :
    (action >>= next).Atomic := by
  intro state error failed
  have kept := atomic state
  rw [outcome_bind] at failed ⊢
  split at failed
  · next value left step =>
    obtain ⟨result, final, finished⟩ := rest value left
    rw [finished] at failed
    cases failed
  · next earlier left step =>
    cases failed
    rw [step] at kept
    exact kept error rfl

/-- To take away what may not be there, and to complain if it was not, is atomic. -/
theorem atomic_take {step : σ → Option α × σ}
    (untouched : ∀ state, (step state).1 = none → (step state).2 = state)
    (error : ControllerError) :
    Atomic (do if (← (modifyGet step : Action σ (Option α))).isNone then throw error) := by
  intro state reason failed
  rw [outcome_bind, outcome_modifyGet] at failed ⊢
  cases taken : (step state).1 with
  | none => exact untouched state taken
  | some value =>
    simp only [taken] at failed
    cases failed

/-- An atomic action on a part of the state is atomic on the whole. -/
theorem Atomic.within {part : σ → τ} {replace : σ → τ → σ}
    (whole : ∀ state, replace state (part state) = state) {action : Action τ α}
    (atomic : action.Atomic) : (action.within part replace).Atomic := by
  intro state error failed
  rw [outcome_within] at failed ⊢
  rw [atomic (part state) error failed, whole]

end Petstore.Action
