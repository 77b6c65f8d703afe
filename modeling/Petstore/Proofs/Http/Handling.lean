import Petstore.Http.App

/-!
# What a request for a path comes to

A request for a path lies outside of the base, or its body is refused, or it is dispatched
(`App.handlePath_cases`). Only the last of these reaches the controllers (`App.dispatched`).
-/

namespace Petstore.App

variable {σ : Type} {app : App σ} {request : HttpRequest} {path below : String}
  {query : Option String} {state : State σ} {freshId : String}

/-- What a request comes to that is dispatched: its outcome is rendered, and it is counted under the
operation that it resolves to. -/
def dispatched (app : App σ) (request : Request) (store : σ) : Handled σ where
  response := dispatchResponse (app.router.dispatch app.controllers request store).1
  label := (app.router.resolve request.method request.path).operation?.getD unmatchedLabel
  store := (app.router.dispatch app.controllers request store).2

section Handling

variable (request query) (store : σ)

theorem handlePath_of_outside (outside : stripBase? app.basePath path = none) :
    app.handlePath request.method path query request.headers request.body store =
      ⟨(DispatchError.routeNotFound request.method path).response, unmatchedLabel, store⟩ := by
  simp only [handlePath, outside]

variable (stripped : stripBase? app.basePath path = some below)

include stripped

theorem handlePath_of_fault {fault : BodyFault}
    (refused : request.body.read app.bodyLimit = .error fault) :
    app.handlePath request.method path query request.headers request.body store =
      ⟨fault.response app.bodyLimit, unmatchedLabel, store⟩ := by
  simp only [handlePath, stripped, refused]

theorem handlePath_of_read {body : Bytes} (read : request.body.read app.bodyLimit = .ok body) :
    app.handlePath request.method path query request.headers request.body store =
      app.dispatched
        { method := request.method, path := below, query, headers := request.headers, body }
        store := by
  simp only [handlePath, stripped, read]
  rfl

end Handling

/-- **What a request for a path comes to.** It is not found outside of the base, its body is
refused, or it is dispatched with the path below the base and the whole body. -/
theorem handlePath_cases (app : App σ) (request : HttpRequest) (path : String)
    (query : Option String) (store : σ) :
    let handled := app.handlePath request.method path query request.headers request.body store
    (stripBase? app.basePath path = none ∧
      handled = ⟨(DispatchError.routeNotFound request.method path).response, unmatchedLabel,
        store⟩) ∨
    (∃ below fault, stripBase? app.basePath path = some below ∧
      request.body.read app.bodyLimit = .error fault ∧
      handled = ⟨fault.response app.bodyLimit, unmatchedLabel, store⟩) ∨
    ∃ below body, stripBase? app.basePath path = some below ∧
      request.body.read app.bodyLimit = .ok body ∧
      handled = app.dispatched
        { method := request.method, path := below, query, headers := request.headers, body }
        store := by
  intro handled
  cases stripped : stripBase? app.basePath path with
  | none => exact Or.inl ⟨rfl, handlePath_of_outside request query store stripped⟩
  | some below =>
    cases read : request.body.read app.bodyLimit with
    | error fault =>
      have refused := handlePath_of_fault request query store stripped read
      exact Or.inr (Or.inl ⟨below, fault, rfl, rfl, refused⟩)
    | ok body =>
      have whole := handlePath_of_read request query store stripped read
      exact Or.inr (Or.inr ⟨below, body, rfl, rfl, whole⟩)

/-- Around that, the response is finished and the request is counted. -/
theorem respond_of_path (target : request.target = .path path query) :
    let handled := app.handlePath request.method path query request.headers request.body state.store
    app.respond freshId request state =
      (finish request.method (requestId freshId request.headers) handled.response,
        ⟨handled.store, state.metrics.record handled.label handled.response.status⟩) := by
  simp only [respond, target]

end Petstore.App
