/-!
# Successes and failures

When a computation that may fail succeeds, and what it succeeds with.
-/

namespace Petstore

variable {ε ε' β γ : Type}

/-- A computation that succeeds succeeds at its first step, and then in what follows. -/
theorem bind_eq_ok {first : Except ε β} {next : β → Except ε γ} {result : γ}
    (success : first >>= next = .ok result) :
    ∃ value, first = .ok value ∧ next value = .ok result := by
  cases first with
  | error reason => cases success
  | ok value => exact ⟨value, rfl, success⟩

/-- Another wording of a failure does not make a success. -/
theorem mapError_eq_ok_iff {f : ε → ε'} {result : Except ε β} {value : β} :
    result.mapError f = .ok value ↔ result = .ok value := by
  constructor
  · intro success
    cases result with
    | error reason => cases success
    | ok other => exact congrArg Except.ok (Except.ok.inj success)
  · rintro rfl
    rfl

theorem toOption_eq_some_iff {result : Except ε β} {value : β} :
    result.toOption = some value ↔ result = .ok value := by
  cases result with
  | error reason => simp [Except.toOption]
  | ok other => simp [Except.toOption]

theorem toOption_mapError (f : ε → ε') (result : Except ε β) :
    (result.mapError f).toOption = result.toOption := by
  cases result with
  | error reason => rfl
  | ok value => rfl

end Petstore
