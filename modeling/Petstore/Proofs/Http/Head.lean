import Petstore.Proofs.Http.Allow
import Petstore.Proofs.Http.BasePath
import Petstore.Proofs.Http.Resemblance
import Petstore.Proofs.Store.UserPersistence

/-!
# `HEAD` in the place of `GET`

Where a path is matched for `GET` and no matching route declares `HEAD`, a `HEAD` request is the
`GET` request in all but the body of its answer (`App.head_as_get`): it resolves to the same route,
and from there on nothing depends on the method, until the body is dropped and its length stays.

Two answers may also differ in the identity of a session that was opened. Their bodies are then
equally long if the identities are (`App.alike_of_handlePath`).
-/

namespace Petstore

/-! ## Resolution -/

namespace Router

variable {α : Type} {router : Router α} {path : String} {route : Route α} {params : PathParams}

theorem serving?_of_matched {method : Method} {hits : List (Route α × PathParams)}
    (resolved : verdict method hits = .matched route params) :
    serving? method hits = some (route, params) := by
  cases served : serving? method hits with
  | some hit =>
    rw [verdict_of_served served] at resolved
    cases resolved
    rfl
  | none =>
    rw [verdict_of_unserved served] at resolved
    split at resolved
    · cases resolved
    · cases resolved

/-- The scan for `HEAD` runs to its end and then takes the route at which that for `GET` stopped. -/
theorem resolve_head (matched : router.resolve .get path = .matched route params)
    (undeclared : ∀ other ∈ router.candidates path, other.method ≠ .head) :
    router.resolve .head path = .matched route params := by
  rw [resolve_eq_verdict] at matched ⊢
  have served := serving?_of_matched matched
  -- No match declares `HEAD`, so none of its own comes before the one that stands in.
  have none := firstOf_of_undeclared undeclared
  have standing : serving? .head (matching path (router.coveringRoutes path)) =
      serving? .get (matching path (router.coveringRoutes path)) := by
    rw [serving?, none, Option.none_or, stand?, if_pos rfl, serving?, stand?, if_neg (by decide),
      Option.or_none]
  exact verdict_of_served (standing.trans served)

end Router

/-! ## Dispatch -/

namespace Router

variable {router : Router Operation} {request : Request} {route : Route Operation}
  {params : PathParams}

/-- What a matched request comes to does not depend on its method. -/
theorem call_of_method {method : Method}
    (resolved : router.resolve request.method request.path = .matched route params)
    (resolved' : router.resolve method request.path = .matched route params) :
    router.call { request with method } = router.call request := by
  have other : router.call { request with method } = _ := call_of_matched resolved'
  rw [other, call_of_matched resolved]
  rfl

end Router

/-! ## Responses -/

namespace Response

/-- The responses differ in nothing but the bytes of bodies of one length. -/
structure Alike (response other : Response) : Prop where
  status : other.status = response.status
  headers : other.headers = response.headers
  length : other.body.length = response.body.length

theorem Alike.refl (response : Response) : response.Alike response :=
  ⟨rfl, rfl, rfl⟩

/-- The answer to `HEAD` where the answer to `GET` is another one: with the same status and, apart
from the identity of the request, the same headers, the length of the body among them, but without
the body. -/
structure IsHeadOf (head get : Response) : Prop where
  status : head.status = get.status
  headers : head.headers.filter (·.1 ≠ requestIdName) = get.headers.filter (·.1 ≠ requestIdName)
  length : ("content-length", Utf8.encode (toString get.body.length)) ∈ head.headers
  body : head.body = []

end Response

namespace App

variable {σ : Type}

theorem headers_finish (method : Method) (requestId : Bytes) (response : Response) :
    (finish method requestId response).headers = response.headers ++
      [("content-length", Utf8.encode (toString response.body.length)),
        (requestIdName, requestId)] := by
  rw [finish]
  split
  · simp [Response.withHeader]
  · simp [Response.withHeader]

theorem isHeadOf_finish {response other : Response} (alike : response.Alike other)
    (requestId requestId' : Bytes) :
    (finish .head requestId' other).IsHeadOf (finish .get requestId response) where
  status := by rw [status_finish, status_finish, alike.status]
  headers := by
    rw [headers_finish, headers_finish, alike.headers, alike.length]
    simp [requestIdName]
  length := by
    have body : (finish .get requestId response).body = response.body := rfl
    rw [headers_finish, alike.length, body]
    simp
  body := rfl

/-- Handled alike: with responses that are, the same label and the same store. -/
structure Handled.Alike (handled other : Handled σ) : Prop where
  response : handled.response.Alike other.response
  label : other.label = handled.label
  store : other.store = handled.store

theorem Handled.Alike.refl (handled : Handled σ) : handled.Alike handled :=
  ⟨Response.Alike.refl _, rfl, rfl⟩

/-- Where `HEAD` is handled as `GET` is, its answer is the other without the body, and the same is
left. -/
theorem isHeadOf_respond {app app' : App σ} {path : String} {query : Option String}
    {headers : Headers} {body : BodyStream} {state : State σ}
    (alike : (app.handlePath .get path query headers body state.store).Alike
      (app'.handlePath .head path query headers body state.store)) (freshId freshId' : String) :
    let get : HttpRequest := { method := .get, target := .path path query, headers, body }
    let answered := app.respond freshId get state
    let answered' := app'.respond freshId' { get with method := .head } state
    answered'.1.IsHeadOf answered.1 ∧ answered'.2 = answered.2 := by
  intro get answered answered'
  have whole : answered = _ := respond_of_path rfl
  have whole' : answered' = _ := respond_of_path rfl
  rw [whole, whole']
  refine ⟨isHeadOf_finish alike.response _ _, ?_⟩
  dsimp only [get]
  rw [alike.label, alike.store, alike.response.status]

/-! ## Handling -/

variable {app : App σ} {below : String} {route : Route Operation} {params : PathParams}

section Matched

variable (matched : app.router.resolve .get below = .matched route params)
  (undeclared : ∀ other ∈ app.router.candidates below, other.method ≠ .head)

include matched undeclared

theorem call_head (query : Option String) (headers : Headers) (body : Bytes) :
    app.router.call { method := .head, path := below, query, headers, body } =
      app.router.call { method := .get, path := below, query, headers, body } := by
  let get : Request := { method := .get, path := below, query, headers, body }
  have same : app.router.call { get with method := .head } = app.router.call get :=
    Router.call_of_method matched (Router.resolve_head matched undeclared)
  exact same

theorem dispatch_head (controllers : Controllers σ) (query : Option String) (headers : Headers)
    (body : Bytes) (store : σ) :
    app.router.dispatch controllers { method := .head, path := below, query, headers, body } store =
      app.router.dispatch controllers { method := .get, path := below, query, headers, body }
        store := by
  rw [Router.dispatch, Router.dispatch, call_head matched undeclared]

/-- Below the base, `HEAD` is handled as `GET` is, whether or not the body is read. -/
theorem handlePath_head {path : String} (stripped : stripBase? app.basePath path = some below)
    (query : Option String) (headers : Headers) (body : BodyStream) (store : σ) :
    app.handlePath .head path query headers body store =
      app.handlePath .get path query headers body store := by
  simp only [handlePath, stripped]
  cases body.read app.bodyLimit with
  | error fault => rfl
  | ok body =>
    simp only [dispatch_head matched undeclared, matched, Router.resolve_head matched undeclared]

/-- The calls that are made for `HEAD` are those for `GET`. -/
theorem calls_head {path : String} (stripped : stripBase? app.basePath path = some below)
    (query : Option String) (headers : Headers) (body : BodyStream) {state : State σ} :
    app.calls { method := .head, target := .path path query, headers, body } state =
      app.calls { method := .get, target := .path path query, headers, body } state := by
  have matched' : app.noting.router.resolve .get below = .matched route params := matched
  have noted := handlePath_head matched' undeclared stripped query headers body ([], state.store)
  rw [calls, calls, respond_of_path rfl, respond_of_path rfl]
  dsimp only
  rw [noted]

end Matched

/-- The application over the store, where sessions that are opened get the given identity. -/
def overStore (app : App σ) (session : String) : App Store where
  basePath := app.basePath
  bodyLimit := app.bodyLimit
  router := app.router
  controllers := Store.controllers session

section Sessions

variable {session session' : String} (plain : session.toList.all Json.isPlain = true)
  (plain' : session'.toList.all Json.isPlain = true)
  (length : session'.toList.length = session.toList.length)

include plain plain' length

/-- Sessions of equally long identities are told apart by the bytes of bodies alone. -/
theorem alike_of_handlePath (app : App σ) (method : Method) (path : String) (query : Option String)
    (headers : Headers) (body : BodyStream) (store : Store) :
    let handled := (app.overStore session).handlePath method path query headers body store
    let handled' := (app.overStore session').handlePath method path query headers body store
    handled.Alike handled' := by
  have alike : (app.overStore session).controllers.Alike (Store.controllers session') (· = ·) :=
    Store.controllers_alike ⟨plain, plain', length⟩
  have handled := resembles_handlePath alike (rfl : store = store) method path query headers body
  exact ⟨⟨handled.response.status, handled.response.headers, handled.response.body.length_eq⟩,
    handled.label, handled.store.symm⟩

end Sessions

/-- **`HEAD` in the place of `GET`.** Where a path is matched for `GET` and no route that matches it
declares `HEAD`, a `HEAD` request resolves to the same route with the same captured parameters,
comes to the same invocation and call, and is dispatched with the same outcome and the same effect.
Over HTTP it leaves the same store and the same counts, and its answer is that to `GET` without the
body; all headers are the same if the requests are identified alike. If the two requests open
sessions, this still holds of the answers where the identities of the sessions are equally long. -/
theorem head_as_get (app : App σ) (matched : app.router.resolve .get below = .matched route params)
    (undeclared : ∀ other ∈ app.router.candidates below, other.method ≠ .head) :
    app.router.resolve .head below = .matched route params ∧
    (∀ query headers body store,
      let get : Request := { method := .get, path := below, query, headers, body }
      let head : Request := { get with method := .head }
      app.router.invocation get = .ok (route.action, .ofRequest params get) ∧
      app.router.invocation head = app.router.invocation get ∧
      app.router.call head = app.router.call get ∧
      app.router.dispatch app.controllers head store =
        app.router.dispatch app.controllers get store) ∧
    ∀ path query headers body freshId freshId', stripBase? app.basePath path = some below →
      let get : HttpRequest := { method := .get, target := .path path query, headers, body }
      let head : HttpRequest := { get with method := .head }
      (∀ state,
        let answered := app.respond freshId get state
        let answered' := app.respond freshId' head state
        answered'.1.IsHeadOf answered.1 ∧ answered'.2 = answered.2 ∧
        (requestId freshId' headers = requestId freshId headers →
          answered'.1.headers = answered.1.headers) ∧
        app.calls head state = app.calls get state) ∧
      ∀ session session' : String, session.toList.all Json.isPlain = true →
        session'.toList.all Json.isPlain = true →
        session'.toList.length = session.toList.length → ∀ state,
        let answered := (app.overStore session).respond freshId get state
        let answered' := (app.overStore session').respond freshId' head state
        answered'.1.IsHeadOf answered.1 ∧ answered'.2 = answered.2 := by
  have resolved := Router.resolve_head matched undeclared
  refine ⟨resolved, fun query headers body store => ?_,
    fun path query headers body freshId freshId' stripped => ⟨fun state => ?_, ?_⟩⟩
  · intro get head
    have own : app.router.invocation get = .ok (route.action, .ofRequest params get) := by
      rw [Router.invocation, matched]
      rfl
    have standing : app.router.invocation head = .ok (route.action, .ofRequest params get) := by
      rw [Router.invocation, resolved]
      rfl
    exact ⟨own, standing.trans own.symm, call_head matched undeclared query headers body,
      dispatch_head matched undeclared app.controllers query headers body store⟩
  · intro answered answered'
    have handled := handlePath_head matched undeclared stripped query headers body state.store
    have alike := Handled.Alike.refl (app.handlePath .get path query headers body state.store)
    nth_rewrite 2 [← handled] at alike
    obtain ⟨answer, left⟩ := isHeadOf_respond alike freshId freshId'
    refine ⟨answer, left, fun same => ?_, calls_head matched undeclared stripped query headers body⟩
    have whole : answered = _ := respond_of_path rfl
    have whole' : answered' = _ := respond_of_path rfl
    dsimp only at whole whole'
    rw [whole, whole', headers_finish, headers_finish, handled, same]
  · intro session session' plain plain' length state answered answered'
    have alike :=
      alike_of_handlePath plain plain' length app .get path query headers body state.store
    -- The application over the store has the router of the other one, so it resolves alike.
    have matched' : (app.overStore session').router.resolve .get below = .matched route params :=
      matched
    rw [← handlePath_head matched' undeclared stripped] at alike
    exact isHeadOf_respond alike freshId freshId'

/-- No route of the service declares `HEAD`; a login by `HEAD` is one, and shows the length of what
it would have been told. -/
theorem head_as_get_login :
    let app : App (List Recorded) := ⟨"/v2", 16, serviceRouter, Controllers.recording none⟩
    let query := some "username=ann&password=secret"
    let get : HttpRequest := { method := .get, target := .path "/v2/user/login" query }
    let head : HttpRequest := { get with method := .head }
    let session := "2c5ea4c0-4067-41e9-8bad-9b1deb4d3b7d"
    let session' := "9f1b7a36-0c1d-4d6a-9a53-5f2f0e0f8a41"
    app.router.resolve .head "/user/login" = .matched Operation.loginUser.route ∅ ∧
    (app.respond "b" head ⟨[], {}⟩).1.IsHeadOf (app.respond "a" get ⟨[], {}⟩).1 ∧
    app.calls head ⟨[], {}⟩ = [⟨.loginUser "ann" "secret"⟩] ∧
    ((app.overStore session').respond "b" head ⟨{}, {}⟩).1.IsHeadOf
      ((app.overStore session).respond "a" get ⟨{}, {}⟩).1 := by
  intro app query get head session session'
  have matched : app.router.resolve .get "/user/login" = .matched Operation.loginUser.route ∅ := rfl
  have declared : ∀ route ∈ serviceRouter.routes, route.method ≠ .head := by decide
  have undeclared : ∀ other ∈ app.router.candidates "/user/login", other.method ≠ .head :=
    fun other candidate => declared other ((Router.candidates_sublist _ _).subset candidate)
  have stripped : stripBase? app.basePath "/v2/user/login" = some "/user/login" := by decide
  have called : app.calls get ⟨[], {}⟩ = [⟨.loginUser "ann" "secret"⟩] := by
    have call : serviceRouter.call { method := .get, path := "/user/login", query } =
        .ok ⟨.loginUser "ann" "secret"⟩ := call_loginUser rfl rfl (by decide) (by decide)
    exact (calls_of_read rfl stripped rfl).trans (congrArg (·.toOption.toList) call)
  obtain ⟨resolved, -, answers⟩ := app.head_as_get matched undeclared
  obtain ⟨alike, sessions⟩ := answers "/v2/user/login" query {} {} "a" "b" stripped
  obtain ⟨answer, -, -, calls⟩ := alike ⟨[], {}⟩
  have plain : session.toList.all Json.isPlain = true := by decide +kernel
  have plain' : session'.toList.all Json.isPlain = true := by decide +kernel
  exact ⟨resolved, answer, calls.trans called,
    (sessions session session' plain plain' (by decide) ⟨{}, {}⟩).1⟩

end App

end Petstore
