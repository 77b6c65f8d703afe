import Petstore.Proofs.Api.Binding
import Petstore.Proofs.Http.Bodies
import Petstore.Proofs.Http.Handling
import Petstore.Proofs.Http.Stripping
import Petstore.Service

/-!
# Base paths

An application below a base path answers as the one without a base path does on what follows the
base, and the base alone is the root below it. All other paths are not found, before the body is
read and before any call (`App.base_path_transparent`). The path below the base is all that the
handling of a request gets to see (`App.handlePath_of_strip`).
-/

namespace Petstore

variable {path below : String}

/-! ## Handling below the base -/

namespace App

variable {σ : Type}

/-- The application that also notes its calls. -/
def noting (app : App σ) : App (List Call × σ) where
  basePath := app.basePath
  bodyLimit := app.bodyLimit
  router := app.router
  controllers := app.controllers.noting

/-- The calls that are made to the controllers for a request. The identity of the request plays no
part in them. -/
def calls (app : App σ) (request : HttpRequest) (state : State σ) : List Call :=
  (app.noting.respond "" request ⟨([], state.store), state.metrics⟩).2.store.1

/-- The application without a base path. -/
def atRoot (app : App σ) : App σ :=
  { app with basePath := "" }

variable {app : App σ} {freshId : String} {request : HttpRequest} {query : Option String}
  {state : State σ}

theorem handlePath_of_strip (stripped : stripBase? app.basePath path = some below)
    (method : Method) (headers : Headers) (body : BodyStream) (store : σ) :
    app.handlePath method path query headers body store =
      app.atRoot.handlePath method below query headers body store := by
  have root : stripBase? app.atRoot.basePath below = some below := if_pos rfl
  rw [handlePath, handlePath, stripped, root]
  rfl

theorem respond_of_strip (stripped : stripBase? app.basePath path = some below) :
    app.respond freshId { request with target := .path path query } state =
      app.atRoot.respond freshId { request with target := .path below query } state := by
  unfold respond
  dsimp only
  rw [handlePath_of_strip stripped]

theorem calls_of_strip (stripped : stripBase? app.basePath path = some below) :
    app.calls { request with target := .path path query } state =
      app.atRoot.calls { request with target := .path below query } state := by
  have stripped : stripBase? app.noting.basePath path = some below := stripped
  unfold calls
  rw [respond_of_strip stripped]
  rfl

/-- A body that was read is dispatched, and the outcome is rendered and counted. -/
theorem respond_of_read {body : Bytes} (target : request.target = .path path query)
    (stripped : stripBase? app.basePath path = some below)
    (read : request.body.read app.bodyLimit = .ok body) :
    let incoming : Request :=
      { method := request.method, path := below, query, headers := request.headers, body }
    let answered := app.router.dispatch app.controllers incoming state.store
    let response := dispatchResponse answered.1
    let label := (app.router.resolve request.method below).operation?.getD unmatchedLabel
    app.respond freshId request state =
      (finish request.method (requestId freshId request.headers) response,
        ⟨answered.2, state.metrics.record label response.status⟩) := by
  rw [respond_of_path target, handlePath_of_read request query state.store stripped read]
  rfl

/-- The call that is made is the one to which the request comes. -/
theorem calls_of_read {body : Bytes} (target : request.target = .path path query)
    (stripped : stripBase? app.basePath path = some below)
    (read : request.body.read app.bodyLimit = .ok body) :
    app.calls request state = (app.router.call
      { method := request.method, path := below, query, headers := request.headers,
        body }).toOption.toList := by
  have stripped : stripBase? app.noting.basePath path = some below := stripped
  have read : request.body.read app.noting.bodyLimit = .ok body := read
  rw [calls, respond_of_read target stripped read]
  dsimp only [noting]
  cases called : app.router.call
      { method := request.method, path := below, query, headers := request.headers, body } with
  | error error =>
    rw [Router.dispatch_of_call_error called]
    rfl
  | ok call =>
    rw [Router.dispatch_of_call_ok called, Call.perform_noting]
    rfl

/-- A path outside of the base is not found, whatever the body. -/
theorem respond_of_strip_none (target : request.target = .path path query)
    (outside : stripBase? app.basePath path = none) :
    app.respond freshId request state =
      (finish request.method (requestId freshId request.headers)
          (.failure 404 "route_not_found" s!"no route matches {request.method.name} {path}"),
        { state with metrics := state.metrics.record unmatchedLabel 404 }) := by
  rw [respond_of_path target, handlePath_of_outside request query state.store outside]
  rfl

/-- **Base paths are transparent.** Let the base be the configured text without the slashes at its
end. On the base followed by a path that begins with a slash, the application answers as the one
without a base path does on that path: with the same response, the same calls, the same store and
the same counts, and a body within the limit is dispatched with that path. A base that is not empty
is answered as the root is. Every other path that begins with a slash is not found, by its full
text, and no call is made for it, whatever the body. -/
theorem base_path_transparent (settings : Settings) (router : Router Operation)
    (controllers : Controllers σ) (freshId : String) (request : HttpRequest)
    (query : Option String) (state : State σ) :
    let base := trimBase settings.api.basePath
    let plain : Settings := { settings with api := { settings.api with basePath := "" } }
    let app : App σ := { App.ofSettings settings controllers with router }
    let root : App σ := { App.ofSettings plain controllers with router }
    let sent (path : String) : HttpRequest := { request with target := .path path query }
    let finished := finish request.method (requestId freshId request.headers)
    ((∃ n, settings.api.basePath.toList = base.toList ++ List.replicate n '/') ∧
      base.toList.getLast? ≠ some '/') ∧
    (∀ path : String, path.toList.head? = some '/' →
      app.respond freshId (sent (base ++ path)) state = root.respond freshId (sent path) state ∧
      app.calls (sent (base ++ path)) state = root.calls (sent path) state ∧
      (request.body.failure = none →
        request.body.chunks.flatten.length ≤ settings.limits.maxBodyBytes →
        let incoming : Request :=
          { method := request.method, path, query, headers := request.headers,
            body := request.body.chunks.flatten }
        let answered := router.dispatch controllers incoming state.store
        let response := dispatchResponse answered.1
        let label := (router.resolve request.method path).operation?.getD unmatchedLabel
        app.respond freshId (sent (base ++ path)) state =
            (finished response, ⟨answered.2, state.metrics.record label response.status⟩) ∧
          app.calls (sent (base ++ path)) state = (router.call incoming).toOption.toList)) ∧
    (base ≠ "" →
      app.respond freshId (sent base) state = root.respond freshId (sent "/") state ∧
      app.calls (sent base) state = root.calls (sent "/") state) ∧
    (∀ path : String, path.toList.head? = some '/' → path ≠ base →
      (∀ below : String, below.toList.head? = some '/' → path ≠ base ++ below) →
      app.respond freshId (sent path) state =
        (finished (.failure 404 "route_not_found"
            s!"no route matches {request.method.name} {path}"),
          { state with metrics := state.metrics.record unmatchedLabel 404 }) ∧
      app.calls (sent path) state = []) := by
  intro base plain app root sent finished
  refine ⟨trimBase_spec _, fun path rooted => ?_, fun given => ?_, fun path rooted other far => ?_⟩
  · have stripped : stripBase? app.basePath (base ++ path) = some path := stripBase?_append rooted
    refine ⟨respond_of_strip stripped, calls_of_strip stripped, fun whole fits => ?_⟩
    have read := BodyStream.read_of_le whole fits
    exact ⟨respond_of_read rfl stripped read, calls_of_read rfl stripped read⟩
  · have stripped : stripBase? app.basePath base = some "/" := stripBase?_self given
    exact ⟨respond_of_strip stripped, calls_of_strip stripped⟩
  · have outside : stripBase? app.basePath path = none := stripBase?_eq_none rooted other far
    have outside' : stripBase? app.noting.basePath path = none := outside
    refine ⟨respond_of_strip_none rfl outside, ?_⟩
    rw [calls, respond_of_strip_none rfl outside']

/-- Of three paths one lies below the base, one is the base, and one only begins with its text. -/
theorem base_path_transparent_logout :
    let settings : Settings := { api := { basePath := "/v2//" } }
    let controllers := Controllers.recording none
    let app : App (List Recorded) := App.ofSettings settings controllers
    let root : App (List Recorded) := App.ofSettings {} controllers
    let sent (path : String) : HttpRequest := { method := .get, target := .path path none }
    let state : State (List Recorded) := { store := [] }
    app.respond "a" (sent "/v2/user/logout") state =
        root.respond "a" (sent "/user/logout") state ∧
      app.calls (sent "/v2/user/logout") state = [⟨.logoutUser⟩] ∧
      app.respond "a" (sent "/v2") state = root.respond "a" (sent "/") state ∧
      (app.respond "a" (sent "/v20/user/logout") state).1.status = 404 ∧
      app.calls (sent "/v20/user/logout") state = [] := by
  intro settings controllers app root sent state
  obtain ⟨-, below, base, outside⟩ :=
    base_path_transparent settings serviceRouter controllers "a" (sent "/") none state
  have trimmed : trimBase settings.api.basePath = "/v2" := by decide
  simp only [trimmed] at below base outside
  obtain ⟨same, -, within⟩ := below "/user/logout" rfl
  have called : serviceRouter.call { method := .get, path := "/user/logout" } =
      .ok ⟨.logoutUser⟩ := rfl
  have calls := (within rfl (Nat.zero_le _)).2
  have far (below : String) (rooted : below.toList.head? = some '/') :
      "/v20/user/logout" ≠ "/v2" ++ below := by
    intro joined
    have next : some '0' = below.toList.head? := by
      have after := congrArg (fun path => (path.toList.drop 3).head?) joined
      simpa using after
    rw [rooted] at next
    exact absurd next (by decide)
  obtain ⟨answer, uncalled⟩ := outside "/v20/user/logout" rfl (by decide) far
  refine ⟨same, calls.trans (congrArg (·.toOption.toList) called), (base (by decide)).1, ?_,
    uncalled⟩
  have status := congrArg (fun answered => answered.1.status) answer
  exact status.trans rfl

end App

end Petstore
