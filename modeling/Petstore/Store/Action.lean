import Petstore.Api.Failure

/-!
# Actions

What an operation does to a part of the store, step by step: it reads, it writes, and it may fail on
the way. What was written before a failure stays written; nothing is taken back.
-/

namespace Petstore

/-- An action on a state. -/
abbrev Action (σ : Type) : Type → Type := ExceptT ControllerError (StateM σ)

namespace Action

/-- What an action comes to on a state: its result, and the state that it leaves behind. -/
def outcome (action : Action σ α) (state : σ) : Except ControllerError α × σ :=
  (ExceptT.run action).run state

/-- An action on a part of a state. -/
def within (part : σ → τ) (replace : σ → τ → σ) (action : Action τ α) : Action σ α :=
  ExceptT.mk fun state =>
    let (result, left) := action.outcome (part state)
    (result, replace state left)

end Action

end Petstore
