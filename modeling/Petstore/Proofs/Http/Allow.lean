import Petstore.Api.Recording
import Petstore.Proofs.Api.Calls
import Petstore.Proofs.Http.Handling
import Petstore.Proofs.Routing.Methods
import Petstore.Proofs.Text.Separators

/-!
# Refused methods over HTTP

A response has status 405 exactly if the router refuses the method of the request, and then it has
one `allow` header, from which the methods of the refusal are read back (`Response.Refuses`). No
other response has that header. `App.refused_methods` joins this with what the router says of one
path under different methods.
-/

namespace Petstore

/-! ## Headers of responses -/

namespace Response

/-- The values of a header, which may repeat. -/
def values (response : Response) (name : String) : List Bytes :=
  (response.headers.filter (·.1 = name)).map (·.2)

variable (response : Response) (name : String) (value : Bytes)

theorem values_withHeader :
    (response.withHeader name value).values name = response.values name ++ [value] := by
  simp [values, withHeader]

theorem values_withHeader_of_ne {other : String} (different : name ≠ other) :
    (response.withHeader name value).values other = response.values other := by
  simp [values, withHeader, different]

theorem values_allow_failure (status : Nat) (code message : String) :
    (failure status code message).values "allow" = [] := rfl

/-- The response refuses the method of a request in favour of the given ones: it has status 405 and
one `allow` header, from which they are read back. -/
structure Refuses (response : Response) (allowed : List Method) : Prop where
  status : response.status = 405
  allow : ∃ text, response.values "allow" = [Utf8.encode text] ∧
    Text.splitBy ", " text = allowed.map Method.name

/-- The response has another status, and no `allow` header. -/
structure Admits (response : Response) : Prop where
  status : response.status ≠ 405
  allow : response.values "allow" = []

end Response

/-! ## Failures -/

namespace DispatchError

/-- The failure is a refusal of the request's method. -/
def IsRefusal (error : DispatchError) : Prop :=
  ∃ method path allowed, error = .methodNotAllowed method path allowed

theorem status_response (error : DispatchError) : error.response.status = error.status := by
  cases error with
  | methodNotAllowed method path allowed => rfl
  | routeNotFound | invalidInput | encode | controller => rfl

theorem comma_not_mem_name (method : Method) : ',' ∉ method.name.toList := by
  intro comma
  have token := method.isToken
  rw [isToken, Bool.and_eq_true, List.all_eq_true] at token
  exact absurd (token.2 ',' comma) (by decide)

/-- The methods in an `allow` header are told apart at its commas. -/
theorem splitBy_allowText {allowed : List Method} (nonempty : allowed ≠ []) :
    Text.splitBy ", " (allowText allowed) = allowed.map Method.name := by
  have separator : ", ".toList = [',', ' '] := rfl
  refine Text.splitBy_join separator (by simpa using nonempty) ?_
  intro name member
  obtain ⟨method, -, rfl⟩ := List.mem_map.mp member
  exact comma_not_mem_name method

theorem refuses_response {method : Method} {path : String} {allowed : List Method}
    (nonempty : allowed ≠ []) :
    (methodNotAllowed method path allowed).response.Refuses allowed := by
  refine ⟨rfl, allowText allowed, ?_, splitBy_allowText nonempty⟩
  rw [response, Response.values_withHeader, Response.values_allow_failure, List.nil_append]

/-- Every failure but a refused method is answered without an `allow` header. -/
theorem admits_response {error : DispatchError} (other : ¬ error.IsRefusal) :
    error.response.Admits := by
  cases error with
  | methodNotAllowed method path allowed => exact absurd ⟨method, path, allowed, rfl⟩ other
  | controller error =>
    refine ⟨?_, rfl⟩
    rw [status_response]
    cases error <;> simp [status]
  | routeNotFound | invalidInput | encode => exact ⟨by simp [status_response, status], rfl⟩

end DispatchError

theorem Reply.admits_response (reply : Reply) : reply.response.Admits := by
  cases reply with
  | json value => exact ⟨by simp [response, Response.json], rfl⟩
  | empty => exact ⟨by simp [response], rfl⟩

theorem BodyFault.admits_response (fault : BodyFault) (limit : Nat) :
    (fault.response limit).Admits := by
  cases fault with
  | tooLarge => exact ⟨by simp [response, Response.failure, Response.json], rfl⟩
  | failed text => exact ⟨by simp [response, Response.failure, Response.json], rfl⟩

/-! ## Dispatch -/

namespace Router

variable {σ : Type} {router : Router Operation} {controllers : Controllers σ} {request : Request}
  {state : σ} {error : DispatchError}

/-- What fails in the binding of inputs or in the controllers is no refusal. -/
theorem not_isRefusal_of_matched {route : Route Operation} {params : PathParams}
    (resolved : router.resolve request.method request.path = .matched route params)
    (failed : (router.dispatch controllers request state).1 = .error error) :
    ¬ error.IsRefusal := by
  rintro ⟨method, path, allowed, rfl⟩
  rw [dispatch, call_of_matched resolved] at failed
  cases bound : route.action.bind (.ofRequest params request) with
  | error reason =>
    rw [bound] at failed
    cases failed
  | ok call =>
    rw [bound] at failed
    dsimp only [Except.mapError, Call.perform] at failed
    split at failed <;> cases failed

/-- A refusal by the router is the response, and everything else is answered otherwise. -/
theorem refuses_or_admits (router : Router Operation) (controllers : Controllers σ)
    (request : Request) (state : σ) :
    let response := dispatchResponse (router.dispatch controllers request state).1
    (∃ allowed, router.resolve request.method request.path = .methodNotAllowed allowed ∧
      response.Refuses allowed) ∨
    ((∀ allowed, router.resolve request.method request.path ≠ .methodNotAllowed allowed) ∧
      response.Admits) := by
  intro response
  cases resolved : router.resolve request.method request.path with
  | methodNotAllowed allowed =>
    refine Or.inl ⟨allowed, rfl, ?_⟩
    have refused : router.dispatch controllers request state =
        (.error (.methodNotAllowed request.method request.path allowed), state) :=
      dispatch_of_call_error (call_of_methodNotAllowed resolved)
    simp only [response, refused, dispatchResponse]
    exact DispatchError.refuses_response (allowed_ne_nil resolved)
  | notFound =>
    refine Or.inr ⟨by simp, ?_⟩
    have missed : router.dispatch controllers request state =
        (.error (.routeNotFound request.method request.path), state) :=
      dispatch_of_call_error (call_of_notFound resolved)
    simp only [response, missed, dispatchResponse]
    refine DispatchError.admits_response ?_
    rintro ⟨_, _, _, same⟩
    cases same
  | matched route params =>
    refine Or.inr ⟨by simp, ?_⟩
    cases outcome : (router.dispatch controllers request state).1 with
    | ok reply =>
      simp only [response, outcome, dispatchResponse]
      exact reply.admits_response
    | error error =>
      simp only [response, outcome, dispatchResponse]
      exact DispatchError.admits_response (not_isRefusal_of_matched resolved outcome)

end Router

/-! ## The application -/

namespace App

variable {σ : Type}

theorem values_finish_allow (method : Method) (requestId : Bytes) (response : Response) :
    (finish method requestId response).values "allow" = response.values "allow" := by
  rw [finish, Response.values_withHeader_of_ne _ _ _ (by decide)]
  split
  · exact Response.values_withHeader_of_ne response _ _ (by decide)
  · exact Response.values_withHeader_of_ne response _ _ (by decide)

theorem status_finish (method : Method) (requestId : Bytes) (response : Response) :
    (finish method requestId response).status = response.status := by
  rw [finish]
  split <;> rfl

theorem refuses_finish {method : Method} {requestId : Bytes} {response : Response}
    {allowed : List Method} (refuses : response.Refuses allowed) :
    (finish method requestId response).Refuses allowed := by
  refine ⟨?_, ?_⟩
  · rw [status_finish]
    exact refuses.status
  · rw [values_finish_allow]
    exact refuses.allow

theorem admits_finish {method : Method} {requestId : Bytes} {response : Response}
    (admits : response.Admits) : (finish method requestId response).Admits := by
  refine ⟨?_, ?_⟩
  · rw [status_finish]
    exact admits.status
  · rw [values_finish_allow]
    exact admits.allow

/-- The request is for a path below the base, its body is read, and the router refuses its
method. -/
def Refuses (app : App σ) (request : HttpRequest) (allowed : List Method) : Prop :=
  ∃ path query below body, request.target = .path path query ∧
    stripBase? app.basePath path = some below ∧ request.body.read app.bodyLimit = .ok body ∧
    app.router.resolve request.method below = .methodNotAllowed allowed

variable {app : App σ} {request : HttpRequest} {path below : String} {query : Option String}
  {body : Bytes}

/-- A request that reaches the router is refused exactly if the router refuses its method. -/
theorem refuses_iff (target : request.target = .path path query)
    (stripped : stripBase? app.basePath path = some below)
    (read : request.body.read app.bodyLimit = .ok body) {allowed : List Method} :
    app.Refuses request allowed ↔
      app.router.resolve request.method below = .methodNotAllowed allowed := by
  constructor
  · rintro ⟨path', query', below', body', target', stripped', -, refused⟩
    cases target.symm.trans target'
    cases stripped.symm.trans stripped'
    exact refused
  · exact fun refused => ⟨path, query, below, body, target, stripped, read, refused⟩

/-- A refused request gets a response that refuses it, and every other one a response that does
not. -/
theorem respond_refuses_or_admits (app : App σ) (freshId : String) (request : HttpRequest)
    (state : State σ) :
    let response := (app.respond freshId request state).1
    (∃ allowed, app.Refuses request allowed ∧ response.Refuses allowed) ∨
      ((∀ allowed, ¬ app.Refuses request allowed) ∧ response.Admits) := by
  intro response
  cases target : request.target with
  | authority | asterisk =>
    refine Or.inr ⟨?_, ?_⟩
    · rintro allowed ⟨_, _, _, _, other, _⟩
      cases target.symm.trans other
    · simp only [response, respond, target]
      exact admits_finish ⟨by simp, rfl⟩
  | path path query =>
    have whole : response = _ := congrArg Prod.fst (respond_of_path target)
    rcases app.handlePath_cases request path query state.store with ⟨outside, handled⟩ |
      ⟨below, fault, stripped, refused, handled⟩ | ⟨below, body, stripped, read, handled⟩
    · refine Or.inr ⟨?_, ?_⟩
      · rintro allowed ⟨_, _, _, _, same, found, _⟩
        cases target.symm.trans same
        cases outside.symm.trans found
      · have admits : (DispatchError.routeNotFound request.method path).response.Admits := by
          apply DispatchError.admits_response
          rintro ⟨_, _, _, same⟩
          cases same
        rw [whole, handled]
        exact admits_finish admits
    · refine Or.inr ⟨?_, ?_⟩
      · rintro allowed ⟨_, _, _, _, _, _, other, _⟩
        cases refused.symm.trans other
      · rw [whole, handled]
        exact admits_finish (fault.admits_response app.bodyLimit)
    · rw [whole, handled]
      simp only [refuses_iff target stripped read]
      rcases app.router.refuses_or_admits app.controllers
        { method := request.method, path := below, query, headers := request.headers, body }
        state.store with ⟨allowed, refused, refuses⟩ | ⟨others, admits⟩
      · exact Or.inl ⟨allowed, refused, refuses_finish refuses⟩
      · exact Or.inr ⟨others, admits_finish admits⟩

/-- **Refused methods.** A response has status 405 exactly if the router refuses the method on the
path below the base; then, and only then, it has an `allow` header, of which there is one, and the
methods that the router allows are read back from it, without repetition. On one path all refused
methods are told the same list; it holds the methods under which the path is matched by a route that
declares them, and neither `HEAD` nor `GET` if `HEAD` is refused; and a path is not found for one
method exactly if it is for every other. -/
theorem refused_methods (app : App σ) :
    (∀ freshId request state,
      let response := (app.respond freshId request state).1
      (response.status = 405 ↔ ∃ allowed, app.Refuses request allowed) ∧
      (response.status = 405 ↔ response.values "allow" ≠ []) ∧
      ∀ allowed, app.Refuses request allowed → allowed.Nodup ∧
        ∃ text, response.values "allow" = [Utf8.encode text] ∧
          Text.splitBy ", " text = allowed.map Method.name) ∧
    (∀ method path allowed, app.router.resolve method path = .methodNotAllowed allowed →
      (∀ other others, app.router.resolve other path = .methodNotAllowed others →
        others = allowed) ∧
      (∀ other, other ∈ allowed ↔ (app.router.resolve other path).MatchedBy other) ∧
      (method = .head → .head ∉ allowed ∧ .get ∉ allowed)) ∧
    ∀ path method other,
      app.router.resolve method path = .notFound ↔ app.router.resolve other path = .notFound := by
  refine ⟨fun freshId request state => ?_, fun method path allowed refused => ?_, ?_⟩
  · intro response
    rcases app.respond_refuses_or_admits freshId request state with
      ⟨allowed, refused, refuses⟩ | ⟨unrefused, admits⟩
    · obtain ⟨text, values, split⟩ := refuses.allow
      refine ⟨iff_of_true refuses.status ⟨allowed, refused⟩,
        iff_of_true refuses.status (by rw [values]; exact List.cons_ne_nil _ _), ?_⟩
      intro others refused'
      obtain ⟨path, query, below, body, target, stripped, read, missed⟩ := refused
      rw [refuses_iff target stripped read, missed] at refused'
      cases refused'
      exact ⟨Router.nodup_allowed missed, text, values, split⟩
    · refine ⟨iff_of_false admits.status fun ⟨allowed, refused⟩ => unrefused allowed refused,
        iff_of_false admits.status fun found => found admits.allow, ?_⟩
      exact fun allowed refused => absurd refused (unrefused allowed)
  · refine ⟨fun other others refused' => Router.allowed_unique refused' refused,
      Router.mem_allowed_iff refused, ?_⟩
    rintro rfl
    exact Router.not_mem_of_head_refused refused
  · exact fun path method other => app.router.resolve_eq_notFound_congr path method other

/-- Below a base path, `PUT` is refused for a pet in favour of three methods. -/
theorem refused_methods_put_pet :
    let app : App (List Recorded) := ⟨"/v2", 16, serviceRouter, Controllers.recording none⟩
    let request : HttpRequest := { method := .put, target := .path "/v2/pet/3" none }
    app.Refuses request [.get, .post, .delete] ∧
      ∃ text, (app.respond "a" request ⟨[], {}⟩).1.values "allow" = [Utf8.encode text] ∧
        Text.splitBy ", " text = ["GET", "POST", "DELETE"] := by
  intro app request
  have refused : serviceRouter.resolve .put "/pet/3" =
      .methodNotAllowed [.get, .post, .delete] := rfl
  have stripped : stripBase? "/v2" "/v2/pet/3" = some "/pet/3" := by decide
  have refuses : app.Refuses request [.get, .post, .delete] :=
    ⟨"/v2/pet/3", none, "/pet/3", [], rfl, stripped, rfl, refused⟩
  exact ⟨refuses, ((refused_methods app).1 "a" request ⟨[], {}⟩).2.2 _ refuses |>.2⟩

end App

end Petstore
