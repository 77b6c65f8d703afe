import Mathlib.Data.List.Forall2
import Petstore.Api.Recording
import Petstore.Proofs.Http.BodyLimit
import Petstore.Proofs.Http.Head
import Petstore.Proofs.Json.Entries

/-!
# What failures tell

A failure is rendered as an object of two members, its code and a message, and below status 500 the
message is its wording, whatever characters that has (`DispatchError.read_response`). From 500 on
the message is fixed, so two applications whose controllers differ in nothing but the texts of their
internal failures (`Controllers.Alike`) answer every run of requests alike
(`App.failures_opaque`): what one request shows does not depend on such a text, and neither does
what it leaves, so the two stay together along the run.
-/

namespace Petstore

open Json (Reader)

namespace DispatchError

/-- The body of a failure is read back as an object of its code and its message, and of nothing
else. -/
theorem read_response (error : DispatchError) :
    (Reader.entries .string).document error.response.body =
      .ok [("error", error.code), ("message", error.publicMessage)] := by
  have members := @Reader.reads_entries _ .string .string
    [("error", error.code), ("message", error.publicMessage)]
    fun member _ => Reader.reads_string member.2
  rw [body_response]
  exact members.document

theorem publicMessage_of_lt {error : DispatchError} (told : error.status < 500) :
    error.publicMessage = error.text :=
  if_neg (Nat.not_le.mpr told)

end DispatchError

/-- Clients cannot tell the responses apart, the identities of requests and of sessions aside. -/
structure Response.ResemblesAside (response other : Response) : Prop where
  status : other.status = response.status
  headers : other.headers.filter (·.1 ≠ requestIdName) =
    response.headers.filter (·.1 ≠ requestIdName)
  body : BodiesAlike response.body other.body

namespace App

variable {σ τ : Type} {app : App σ} {others : Controllers τ} {related : σ → τ → Prop}

/-! ## One request -/

theorem body_finish (method : Method) (requestId : Bytes) (response : Response) :
    (finish method requestId response).body = if method = .head then [] else response.body := by
  rw [finish]
  split
  · rfl
  · rfl

theorem bodiesAlike_finish {response other : Response} (alike : response.Resembles other)
    (method : Method) (requestId requestId' : Bytes) :
    Response.BodiesAlike (finish method requestId response).body
      (finish method requestId' other).body := by
  rw [body_finish, body_finish]
  split
  · exact .same []
  · exact alike.body

/-- Finished, the responses resemble each other as before. -/
theorem resembles_finish {response other : Response} (alike : response.Resembles other)
    (method : Method) (requestId : Bytes) :
    (finish method requestId response).Resembles (finish method requestId other) where
  status := by rw [status_finish, status_finish, alike.status]
  headers := by rw [headers_finish, headers_finish, alike.headers, alike.body.length_eq]
  body := bodiesAlike_finish alike method requestId requestId

theorem resemblesAside_finish {response other : Response} (alike : response.Resembles other)
    (method : Method) (requestId requestId' : Bytes) :
    (finish method requestId response).ResemblesAside (finish method requestId' other) where
  status := by rw [status_finish, status_finish, alike.status]
  headers := by
    rw [headers_finish, headers_finish, alike.headers, alike.body.length_eq]
    simp [requestIdName]
  body := bodiesAlike_finish alike method requestId requestId'

/-- The states hold related stores and the same counts. -/
structure State.Alike (related : σ → τ → Prop) (state : State σ) (other : State τ) : Prop where
  store : related state.store other.store
  metrics : other.metrics = state.metrics

/-- From related states a request gets responses that differ in how they are finished alone, and it
leaves related states. -/
theorem exists_resembling (alike : app.controllers.Alike others related) {state : State σ}
    {state' : State τ} (start : state.Alike related state') (freshId freshId' : String)
    (request : HttpRequest) :
    let answered := app.respond freshId request state
    let answered' := (app.withControllers others).respond freshId' request state'
    (∃ response other : Response, response.Resembles other ∧
      answered.1 = finish request.method (requestId freshId request.headers) response ∧
      answered'.1 = finish request.method (requestId freshId' request.headers) other) ∧
    answered.2.Alike related answered'.2 := by
  intro answered answered'
  cases target : request.target with
  | path path query =>
    have handled := resembles_handlePath alike start.store request.method path query
      request.headers request.body
    have whole : answered = _ := respond_of_path target
    have whole' : answered' = _ := respond_of_path target
    rw [whole, whole']
    refine ⟨⟨_, _, handled.response, rfl, rfl⟩, handled.store, ?_⟩
    dsimp only
    rw [start.metrics, handled.label, handled.response.status]
  | authority | asterisk =>
    have whole : answered =
        (finish request.method (requestId freshId request.headers) { status := 404 }, state) := by
      simp only [answered, respond, target]
    have whole' : answered' =
        (finish request.method (requestId freshId' request.headers) { status := 404 }, state') := by
      simp only [answered', respond, target]
    rw [whole, whole']
    exact ⟨⟨_, _, .refl _, rfl, rfl⟩, start⟩

/-! ## Runs -/

/-- What every request shows and leaves alike, a run of requests shows and leaves alike. -/
theorem forall₂_respondAll {app' : App τ} {shown : Response → Response → Prop}
    {paired : String × HttpRequest → String × HttpRequest → Prop}
    (step : ∀ {request request' : String × HttpRequest} {state : State σ} {state' : State τ},
      paired request request' → state.Alike related state' →
      shown (app.respond request.1 request.2 state).1
          (app'.respond request'.1 request'.2 state').1 ∧
        (app.respond request.1 request.2 state).2.Alike related
          (app'.respond request'.1 request'.2 state').2)
    {requests requests' : List (String × HttpRequest)} (pairs : requests.Forall₂ paired requests')
    {state : State σ} {state' : State τ} (start : state.Alike related state') :
    List.Forall₂ shown (app.respondAll requests state).1 (app'.respondAll requests' state').1 ∧
      (app.respondAll requests state).2.Alike related (app'.respondAll requests' state').2 := by
  induction pairs generalizing state state' with
  | nil => exact ⟨.nil, start⟩
  | @cons request request' requests requests' pair pairs ih =>
    obtain ⟨first, left⟩ := step pair start
    obtain ⟨rest, last⟩ := ih left
    exact ⟨.cons first rest, last⟩

theorem resemblesAside_respondAll (alike : app.controllers.Alike others related)
    {requests requests' : List (String × HttpRequest)}
    (pairs : requests.Forall₂ (fun request request' => request'.2 = request.2) requests')
    {state : State σ} {state' : State τ} (start : state.Alike related state') :
    List.Forall₂ Response.ResemblesAside (app.respondAll requests state).1
        ((app.withControllers others).respondAll requests' state').1 ∧
      (app.respondAll requests state).2.Alike related
        ((app.withControllers others).respondAll requests' state').2 := by
  refine forall₂_respondAll ?_ pairs start
  rintro ⟨freshId, _⟩ ⟨freshId', request⟩ state state' rfl start
  obtain ⟨⟨response, other, resembles, own, own'⟩, left⟩ :=
    exists_resembling alike start freshId freshId' request
  refine ⟨?_, left⟩
  rw [own, own']
  exact resemblesAside_finish resembles request.method _ _

theorem resembles_respondAll (alike : app.controllers.Alike others related)
    (requests : List (String × HttpRequest)) {state : State σ} {state' : State τ}
    (start : state.Alike related state') :
    List.Forall₂ Response.Resembles (app.respondAll requests state).1
      ((app.withControllers others).respondAll requests state').1 := by
  have same : requests.Forall₂ (· = ·) requests := List.forall₂_same.mpr fun _ _ => rfl
  refine (forall₂_respondAll ?_ same start).1
  rintro ⟨freshId, request⟩ _ state state' rfl start
  obtain ⟨⟨response, other, resembles, own, own'⟩, left⟩ :=
    exists_resembling alike start freshId freshId request
  refine ⟨?_, left⟩
  rw [own, own']
  exact resembles_finish resembles request.method _

/-- **Failures tell what they should.** Whatever a failure says, its body is read back as its code
and its message, which below status 500 is its wording and from there on a fixed text, and the text
of a failure inside or of a failure to encode leaves no trace. So controllers that differ in the
texts of their internal failures alone are not told apart by any run of requests: with the same
fresh identities for the requests the responses are the same, and with others they differ in these;
the counts are the same, too. -/
theorem failures_opaque (app : App σ) (alike : app.controllers.Alike others related) :
    (∀ error : DispatchError,
      error.response.status = error.status ∧
      (Reader.entries .string).document error.response.body =
        .ok [("error", error.code), ("message", error.publicMessage)] ∧
      (error.status < 500 → error.publicMessage = error.text) ∧
      (500 ≤ error.status → error.publicMessage = "internal server error")) ∧
    (∀ text text' : String, (DispatchError.controller (.internal text)).response =
      (DispatchError.controller (.internal text')).response) ∧
    (∀ remark remark' : Json.Remark, (DispatchError.encode remark).response =
      (DispatchError.encode remark').response) ∧
    ∀ (requests requests' : List (String × HttpRequest)) (state : State σ) (state' : State τ),
      state.Alike related state' →
      requests.Forall₂ (fun request request' => request'.2 = request.2) requests' →
      let answered := app.respondAll requests state
      let answered' := (app.withControllers others).respondAll requests' state'
      List.Forall₂ Response.ResemblesAside answered.1 answered'.1 ∧
      (requests' = requests → List.Forall₂ Response.Resembles answered.1 answered'.1) ∧
      answered.2.Alike related answered'.2 := by
  refine ⟨fun error => ⟨error.status_response, error.read_response,
    DispatchError.publicMessage_of_lt, DispatchError.publicMessage_of_le⟩,
    DispatchError.response_internal, DispatchError.response_encode, ?_⟩
  intro requests requests' state state' start pairs answered answered'
  obtain ⟨aside, left⟩ := resemblesAside_respondAll alike pairs start
  refine ⟨aside, ?_, left⟩
  rintro rfl
  exact resembles_respondAll alike requests' start

/-- Two applications that fail inside with different texts answer alike; one that cannot find a user
tells the user's name as it is. -/
theorem failures_opaque_disk_full :
    let app : App (List Recorded) :=
      ⟨"/v2", 16, serviceRouter, Controllers.recording (some (.internal "disk full: /var"))⟩
    let app' := app.withControllers (Controllers.recording (some (.internal "\"timeout\" é\n")))
    let request : HttpRequest := { method := .get, target := .path "/v2/store/inventory" none }
    let answers := (app.respondAll [("a", request)] ⟨[], {}⟩).1
    let answers' := (app'.respondAll [("b", request)] ⟨[], {}⟩).1
    let missing := DispatchError.controller (.notFound "user \"é\n\"")
    answers.map (·.status) = [500] ∧ List.Forall₂ Response.ResemblesAside answers answers' ∧
      (Reader.entries .string).document missing.response.body =
        .ok [("error", "not_found"), ("message", "not found: user \"é\n\"")] := by
  intro app app' request answers answers' missing
  have alike : app.controllers.Alike
      (Controllers.recording (some (.internal "\"timeout\" é\n"))) (· = ·) := by
    rintro kind capability recorded _ rfl
    exact ⟨.internal _ _, rfl⟩
  obtain ⟨rendered, -, -, runs⟩ := app.failures_opaque alike
  have start : State.Alike (· = ·) (⟨[], {}⟩ : State (List Recorded)) ⟨[], {}⟩ := ⟨rfl, rfl⟩
  have pairs : List.Forall₂ (fun request request' => request'.2 = request.2) [("a", request)]
      [("b", request)] := .cons rfl .nil
  refine ⟨by decide +kernel, (runs _ _ _ _ start pairs).1, ?_⟩
  obtain ⟨-, read, told, -⟩ := rendered missing
  rw [read, told (by decide)]
  rfl

end App

end Petstore
