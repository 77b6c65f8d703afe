import Petstore.Proofs.Http.Allow
import Petstore.Proofs.Http.BasePath

/-!
# Limits of bodies

Below the base, a request is dispatched exactly if its body is whole and stays within the limit, and
then with all of its bytes. A body beyond the limit is refused as such, whether or not a failure
follows, and any other failure is reported; neither reaches the controllers. No dispatch is answered
the way a body is refused, so the answers tell these apart, and they do not depend on where the
pieces of a body begin (`App.bodies_within_limit`).
-/

namespace Petstore

/-! ## Responses of dispatches -/

theorem Reply.status_response (reply : Reply) : reply.response.status = 200 := by
  cases reply with
  | json value => rfl
  | empty => rfl

theorem status_dispatchResponse_ne_413 (outcome : Except DispatchError Reply) :
    (dispatchResponse outcome).status ≠ 413 := by
  cases outcome with
  | ok reply =>
    rw [dispatchResponse, reply.status_response]
    decide
  | error error =>
    rw [dispatchResponse, DispatchError.status_response]
    unfold DispatchError.status
    split
    all_goals decide

/-- The code of a failure that is answered with status 400. -/
theorem DispatchError.code_of_status {error : DispatchError} (bad : error.status = 400) :
    error.code = "invalid_input" := by
  cases error with
  | invalidInput reason => rfl
  | routeNotFound | methodNotAllowed | encode => simp [status] at bad
  | controller error =>
    cases error with
    | invalidInput text => rfl
    | notFound | validation | internal => simp [status] at bad

theorem DispatchError.body_response (error : DispatchError) :
    error.response.body = (Response.failureBody error.code error.publicMessage).bytes := by
  cases error with
  | methodNotAllowed method path allowed => rfl
  | routeNotFound | invalidInput | encode | controller => rfl

/-- The codes of two failures are told apart by the bytes of their bodies. -/
theorem failureBody_invalid_input_ne (message other : String) :
    (Response.failureBody "invalid_input" message).bytes ≠
      (Response.failureBody "invalid_body" other).bytes := by
  intro same
  have nineteenth := congrArg (·[18]?) same
  have left : (Response.failureBody "invalid_input" message).bytes[18]? = some 0x69 := rfl
  have right : (Response.failureBody "invalid_body" other).bytes[18]? = some 0x62 := rfl
  simp [left, right] at nineteenth

theorem dispatchResponse_ne_invalid_body (outcome : Except DispatchError Reply)
    (message : String) : dispatchResponse outcome ≠ .failure 400 "invalid_body" message := by
  intro same
  have status : (dispatchResponse outcome).status = 400 := congrArg Response.status same
  have body := congrArg Response.body same
  cases outcome with
  | ok reply =>
    rw [dispatchResponse, reply.status_response] at status
    exact absurd status (by decide)
  | error error =>
    rw [dispatchResponse, DispatchError.status_response] at status
    rw [dispatchResponse, DispatchError.body_response, DispatchError.code_of_status status] at body
    exact failureBody_invalid_input_ne _ _ body

/-! ## Bodies -/

namespace BodyStream

variable {body : BodyStream} {limit : Nat}

theorem read_eq_ok_iff {bytes : Bytes} :
    body.read limit = .ok bytes ↔
      (body.chunks.flatten.length ≤ limit ∧ body.failure = none) ∧ body.chunks.flatten = bytes := by
  rw [read_eq]
  generalize body.chunks.flatten = whole
  by_cases fits : whole.length ≤ limit
  · cases body.failure with
    | none => simp [fits]
    | some text => simp [fits]
  · simp [fits]

theorem read_eq_tooLarge_iff :
    body.read limit = .error .tooLarge ↔ limit < body.chunks.flatten.length := by
  rw [read_eq]
  generalize body.chunks.flatten = whole
  by_cases fits : whole.length ≤ limit
  · cases body.failure with
    | none => simp [fits]
    | some text => simp [fits]
  · simpa [fits] using Nat.lt_of_not_le fits

theorem read_eq_failed_iff {text : String} :
    body.read limit = .error (.failed text) ↔
      body.chunks.flatten.length ≤ limit ∧ body.failure = some text := by
  rw [read_eq]
  generalize body.chunks.flatten = whole
  by_cases fits : whole.length ≤ limit
  · cases body.failure with
    | none => simp [fits]
    | some other => simp [fits]
  · simp [fits]

theorem exists_fault
    (broken : limit < body.chunks.flatten.length ∨ ∃ text, body.failure = some text) :
    ∃ fault, body.read limit = .error fault := by
  cases read : body.read limit with
  | error fault => exact ⟨fault, rfl⟩
  | ok bytes =>
    obtain ⟨⟨fits, whole⟩, -⟩ := read_eq_ok_iff.mp read
    rcases broken with long | ⟨text, failed⟩
    · exact absurd fits (Nat.not_le_of_lt long)
    · cases whole.symm.trans failed

/-- Only the bytes of a body and its failure count. -/
theorem read_congr {other : BodyStream} (bytes : other.chunks.flatten = body.chunks.flatten)
    (failure : other.failure = body.failure) : other.read limit = body.read limit := by
  rw [read_eq, read_eq, bytes, failure]

end BodyStream

namespace App

variable {σ : Type} {app : App σ} {request : HttpRequest} {path below : String}
  {query : Option String}

/-! ## Answers and what was read -/

section Reading

variable {other : BodyStream} (read : other.read app.bodyLimit = request.body.read app.bodyLimit)

include read

/-- An answer depends on a body through what is read of it. -/
theorem respond_body_congr (freshId : String) (state : State σ) :
    app.respond freshId { request with body := other } state =
      app.respond freshId request state := by
  simp only [respond, handlePath, read]

theorem calls_body_congr (state : State σ) :
    app.calls { request with body := other } state = app.calls request state := by
  have noted : other.read app.noting.bodyLimit = request.body.read app.noting.bodyLimit := read
  rw [calls, calls, respond_body_congr noted]

end Reading

section Handling

variable (request query) (stripped : stripBase? app.basePath path = some below) (store : σ)

include stripped

/-- No call is made for a request whose body is refused. -/
theorem calls_of_fault {fault : BodyFault} (target : request.target = .path path query)
    (refused : request.body.read app.bodyLimit = .error fault) (state : State σ) :
    app.calls request state = [] := by
  have stripped' : stripBase? app.noting.basePath path = some below := stripped
  have refused' : request.body.read app.noting.bodyLimit = .error fault := refused
  rw [calls, respond_of_path target, handlePath_of_fault request query _ stripped' refused']

/-- What is dispatched was read, and no other answer looks like that. -/
theorem handlePath_eq_dispatched_iff :
    (∃ body, app.handlePath request.method path query request.headers request.body store =
      app.dispatched
        { method := request.method, path := below, query, headers := request.headers, body }
        store) ↔ ∃ body, request.body.read app.bodyLimit = .ok body := by
  cases read : request.body.read app.bodyLimit with
  | ok body =>
    exact iff_of_true ⟨body, handlePath_of_read request query store stripped read⟩ ⟨body, rfl⟩
  | error fault =>
    refine iff_of_false ?_ (by simp)
    rw [handlePath_of_fault request query store stripped read]
    -- What a body is refused with would be the answer of a dispatch.
    rintro ⟨body, same⟩
    have response := (congrArg Handled.response same).symm
    cases fault with
    | tooLarge => exact status_dispatchResponse_ne_413 _ (congrArg Response.status response)
    | failed text => exact dispatchResponse_ne_invalid_body _ _ response

theorem status_handlePath_eq_413_iff :
    (app.handlePath request.method path query request.headers request.body store).response.status =
      413 ↔ request.body.read app.bodyLimit = .error .tooLarge := by
  cases read : request.body.read app.bodyLimit with
  | ok body =>
    rw [handlePath_of_read request query store stripped read]
    exact iff_of_false (status_dispatchResponse_ne_413 _) (by simp)
  | error fault =>
    rw [handlePath_of_fault request query store stripped read]
    cases fault with
    | tooLarge => exact iff_of_true rfl rfl
    | failed text =>
      refine iff_of_false (fun same => ?_) (by simp)
      have other : (400 : Nat) = 413 := same
      exact absurd other (by decide)

theorem handlePath_invalid_body_iff :
    (∃ message,
      (app.handlePath request.method path query request.headers request.body store).response =
        .failure 400 "invalid_body" message) ↔
      ∃ text, request.body.read app.bodyLimit = .error (.failed text) := by
  cases read : request.body.read app.bodyLimit with
  | ok body =>
    rw [handlePath_of_read request query store stripped read]
    exact iff_of_false (fun ⟨message, same⟩ => dispatchResponse_ne_invalid_body _ message same)
      (by simp)
  | error fault =>
    rw [handlePath_of_fault request query store stripped read]
    cases fault with
    | tooLarge =>
      refine iff_of_false (fun ⟨message, same⟩ => ?_) (by simp)
      have other : (413 : Nat) = 400 := congrArg Response.status same
      exact absurd other (by decide)
    | failed text => exact iff_of_true ⟨_, rfl⟩ ⟨text, rfl⟩

end Handling

/-- **Limits of bodies.** Below the base, a request is dispatched exactly if its body stays within
the limit and no failure ends it, and then with all the bytes of the body. It is answered with
status 413 exactly if the body is longer than the limit, and otherwise as an invalid body. Where a
body is refused no call is made, the store is as before, and the request is counted as unmatched.
Another body of the same bytes that ends in the same way gets the same answer and makes the same
calls. -/
theorem bodies_within_limit (target : request.target = .path path query)
    (stripped : stripBase? app.basePath path = some below) (freshId : String) (state : State σ) :
    let bytes := request.body.chunks.flatten
    let failure := request.body.failure
    let handled := app.handlePath request.method path query request.headers request.body state.store
    let routed (body : Bytes) : Request :=
      { method := request.method, path := below, query, headers := request.headers, body }
    let answered := app.respond freshId request state
    answered = (finish request.method (requestId freshId request.headers) handled.response,
      ⟨handled.store, state.metrics.record handled.label handled.response.status⟩) ∧
    ((∃ body, handled = app.dispatched (routed body) state.store) ↔
      bytes.length ≤ app.bodyLimit ∧ failure = none) ∧
    (bytes.length ≤ app.bodyLimit → failure = none →
      handled = app.dispatched (routed bytes) state.store ∧
        app.calls request state = (app.router.call (routed bytes)).toOption.toList) ∧
    (answered.1.status = 413 ↔ app.bodyLimit < bytes.length) ∧
    (handled.response =
        .failure 413 "payload_too_large" s!"request body exceeds {app.bodyLimit} bytes" ↔
      app.bodyLimit < bytes.length) ∧
    ((∃ message, handled.response = .failure 400 "invalid_body" message) ↔
      bytes.length ≤ app.bodyLimit ∧ ∃ text, failure = some text) ∧
    (∀ text, bytes.length ≤ app.bodyLimit → failure = some text →
      handled.response = .failure 400 "invalid_body" s!"failed to read request body: {text}") ∧
    (app.bodyLimit < bytes.length ∨ (∃ text, failure = some text) →
      app.calls request state = [] ∧ answered.2.store = state.store ∧
        answered.2.metrics = state.metrics.record unmatchedLabel answered.1.status) ∧
    ∀ other : BodyStream, other.chunks.flatten = bytes → other.failure = failure →
      app.respond freshId { request with body := other } state = answered ∧
        app.calls { request with body := other } state = app.calls request state := by
  intro bytes failure handled routed answered
  have whole : answered = _ := respond_of_path target
  have status : answered.1.status = handled.response.status := by
    rw [whole]
    exact status_finish _ _ _
  have dispatched := handlePath_eq_dispatched_iff request query stripped state.store
  have tooLarge := status_handlePath_eq_413_iff request query stripped state.store
  have invalid := handlePath_invalid_body_iff request query stripped state.store
  rw [BodyStream.read_eq_tooLarge_iff] at tooLarge
  simp only [BodyStream.read_eq_ok_iff, BodyStream.read_eq_failed_iff, exists_and_left,
    exists_eq', and_true] at dispatched invalid
  have refused {fault : BodyFault} (read : request.body.read app.bodyLimit = .error fault) :
      handled = ⟨fault.response app.bodyLimit, unmatchedLabel, state.store⟩ :=
    handlePath_of_fault request query state.store stripped read
  refine ⟨whole, dispatched, fun fits unbroken => ?_, status ▸ tooLarge, ?_, invalid,
    fun text fits failed => ?_, fun broken => ?_, fun other same ends => ?_⟩
  · have read := BodyStream.read_of_le unbroken fits
    exact ⟨handlePath_of_read request query state.store stripped read,
      calls_of_read target stripped read⟩
  · constructor
    · exact fun answer => tooLarge.mp (congrArg Response.status answer)
    · intro long
      rw [refused (BodyStream.read_eq_tooLarge_iff.mpr long)]
      rfl
  · rw [refused (BodyStream.read_eq_failed_iff.mpr ⟨fits, failed⟩)]
    rfl
  · obtain ⟨fault, read⟩ := BodyStream.exists_fault broken
    refine ⟨calls_of_fault request query stripped target read state, ?_, ?_⟩
    · rw [whole]
      exact congrArg Handled.store (refused read)
    · rw [whole, status_finish]
      exact congrArg (state.metrics.record · _) (congrArg Handled.label (refused read))
  · have read : other.read app.bodyLimit = request.body.read app.bodyLimit :=
      BodyStream.read_congr same ends
    exact ⟨respond_body_congr read freshId state, calls_body_congr read state⟩

/-- Two pieces fill the limit exactly and are dispatched; with a third the body is too long, and the
failure behind it is not reported. -/
theorem bodies_within_limit_two_pieces :
    let app : App (List Recorded) := ⟨"/v2", 4, serviceRouter, Controllers.recording none⟩
    let state : State (List Recorded) := { store := [] }
    let sent (body : BodyStream) : HttpRequest :=
      { method := .post, target := .path "/v2/pet/7" none, body }
    let full := sent { chunks := [[0x61, 0x62], [0x63, 0x64]] }
    let long := sent { chunks := [[0x61, 0x62], [0x63, 0x64], [0x65]], failure := some "late" }
    stripBase? app.basePath "/v2/pet/7" = some "/pet/7" ∧
      app.calls full state = [⟨.updatePetWithForm 7 none none⟩] ∧
      (app.respond "a" full state).1.status ≠ 413 ∧
      app.calls long state = [] ∧
      (app.respond "a" long state).1.status = 413 := by
  intro app state sent full long
  have stripped : stripBase? app.basePath "/v2/pet/7" = some "/pet/7" := by decide
  have target (body : BodyStream) : (sent body).target = .path "/v2/pet/7" none := rfl
  obtain ⟨-, -, dispatched, tooLarge, -⟩ :=
    bodies_within_limit (target full.body) stripped "a" state
  obtain ⟨-, -, -, tooLarge', -, -, -, refused, -⟩ :=
    bodies_within_limit (target long.body) stripped "a" state
  have called : app.router.call
      { method := .post, path := "/pet/7", query := none, headers := {},
        body := [0x61, 0x62, 0x63, 0x64] } = .ok ⟨.updatePetWithForm 7 none none⟩ := rfl
  refine ⟨stripped, ?_, ?_, (refused (Or.inl (by decide))).1, tooLarge'.mpr (by decide)⟩
  · exact (dispatched (by decide) rfl).2.trans (congrArg (·.toOption.toList) called)
  · exact mt tooLarge.mp (by decide)

end App

end Petstore
