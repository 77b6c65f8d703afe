import Petstore.Http.App
import Petstore.Proofs.Api.Calls
import Petstore.Proofs.Store.UserSteps
import Petstore.Proofs.Text.Utf8

/-!
# Applications that clients cannot tell apart

Two controllers answer alike if their results differ in nothing but the texts of internal failures
and the identities of the sessions that they open (`Controllers.Alike`). The first are not shown at
all, and the second in one body, which is equally long if the identities are. So the same request is
handled alike by two applications with such controllers (`App.resembles_handlePath`).
-/

namespace Petstore

/-! ## Sessions -/

/-- A character that stands for itself in a JSON string, as one byte. -/
def Json.isPlain (c : Char) : Bool :=
  decide (c.toNat < 128) && escapeChar c == [c]

theorem Json.of_isPlain {c : Char} (plain : isPlain c = true) :
    c.toNat < 128 ∧ escapeChar c = [c] := by
  simpa [isPlain] using plain

theorem Json.length_bytes_string {text : String} (plain : text.toList.all isPlain = true) :
    (Json.string text).bytes.length = text.toList.length + 2 := by
  rw [List.all_eq_true] at plain
  have kept : text.toList.flatMap escapeChar = text.toList :=
    calc text.toList.flatMap escapeChar
        = text.toList.flatMap fun c => [c] :=
          List.flatMap_congr fun c inside => (of_isPlain (plain c inside)).2
      _ = text.toList := List.flatMap_singleton' _
  have ascii : ∀ c ∈ '"' :: (text.toList ++ ['"']), c.toNat < 128 := by
    intro c inside
    rw [List.mem_cons, List.mem_append, List.mem_singleton] at inside
    rcases inside with rfl | inside | rfl
    · decide
    · exact (of_isPlain (plain c inside)).1
    · decide
  rw [bytes, chars, stringChars, kept, Utf8.encodeChars_of_ascii ascii]
  simp

/-- What a user is told who has logged in. -/
def sessionText (session : String) : String :=
  s!"logged in user session:{session}"

theorem length_bytes_sessionText {session : String}
    (plain : session.toList.all Json.isPlain = true) :
    (Json.string (sessionText session)).bytes.length = session.toList.length + 25 := by
  have split : (sessionText session).toList =
      "logged in user session:".toList ++ session.toList := by
    rw [← String.toList_append]
    rfl
  have front : "logged in user session:".toList.all Json.isPlain = true := by decide
  rw [Json.length_bytes_string, split, List.length_append]
  · have length : "logged in user session:".toList.length = 23 := rfl
    omega
  · rw [split, List.all_append, front, plain]
    rfl

/-- The identities are equally long, and every character of them is shown as it is. -/
structure SessionsAlike (session session' : String) : Prop where
  plain : session.toList.all Json.isPlain = true
  plain' : session'.toList.all Json.isPlain = true
  length : session'.toList.length = session.toList.length

/-! ## Failures inside -/

namespace DispatchError

variable {error : DispatchError}

theorem publicMessage_of_le (hidden : 500 ≤ error.status) :
    error.publicMessage = "internal server error" :=
  if_pos hidden

/-- From status 500 on a failure shows its status and its code alone. -/
theorem response_of_le (hidden : 500 ≤ error.status) :
    error.response = .failure error.status error.code "internal server error" := by
  have rendered : Response.failure error.status error.code error.publicMessage =
      .failure error.status error.code "internal server error" := by
    rw [publicMessage_of_le hidden]
  cases error with
  | encode remark => exact rendered
  | controller error => exact rendered
  | routeNotFound | methodNotAllowed | invalidInput => simp [status] at hidden

theorem response_internal (text text' : String) :
    (controller (.internal text)).response = (controller (.internal text')).response := by
  have shown (text : String) := @response_of_le (controller (.internal text)) (Nat.le_refl 500)
  exact (shown text).trans (shown text').symm

theorem response_encode (remark remark' : Json.Remark) :
    (encode remark).response = (encode remark').response := by
  have shown (remark : Json.Remark) := @response_of_le (encode remark) (Nat.le_refl 500)
  exact (shown remark).trans (shown remark').symm

end DispatchError

/-! ## Controllers -/

/-- Results that clients cannot tell apart, the identities of sessions aside: they are the same, or
internal failures, or sessions of equally long identities. -/
inductive ResultKind.Alike : (kind : ResultKind) → Except ControllerError kind.Value →
    Except ControllerError kind.Value → Prop
  | same {kind : ResultKind} (result : Except ControllerError kind.Value) : Alike kind result result
  | internal {kind : ResultKind} (text text' : String) :
      Alike kind (.error (.internal text)) (.error (.internal text'))
  | session {session session' : String} (alike : SessionsAlike session session') :
      Alike .session (.ok (sessionText session)) (.ok (sessionText session'))

/-- From related states the controllers answer every capability alike, and leave related states. -/
def Controllers.Alike {σ τ : Type} (controllers : Controllers σ) (others : Controllers τ)
    (related : σ → τ → Prop) : Prop :=
  ∀ {kind : ResultKind} (capability : Capability kind) {store : σ} {store' : τ},
    related store store' →
    kind.Alike (controllers.run capability store).1 (others.run capability store').1 ∧
      related (controllers.run capability store).2 (others.run capability store').2

theorem Store.run_controllers (session : String) {kind : ResultKind} (capability : Capability kind)
    (store : Store) :
    (controllers session).run capability store = (answer session capability).outcome store := rfl

/-- The store answers alike with sessions of the one identity and of the other. -/
theorem Store.controllers_alike {session session' : String}
    (alike : SessionsAlike session session') :
    (controllers session).Alike (controllers session') (· = ·) := by
  rintro kind capability store _ rfl
  cases capability with
  | loginUser username password =>
    rw [run_controllers, run_controllers, answer, answer, outcome_onUsers,
      outcome_onUsers, UserStore.outcome_login, UserStore.outcome_login]
    dsimp only
    split
    · exact ⟨.session alike, rfl⟩
    · exact ⟨.same _, rfl⟩
  | _ => exact ⟨.same _, rfl⟩

/-! ## Responses -/

namespace Response

/-- The bodies are the same, or those of two sessions that were opened. -/
inductive BodiesAlike : Bytes → Bytes → Prop
  | same (body : Bytes) : BodiesAlike body body
  | session {session session' : String} (alike : SessionsAlike session session') :
      BodiesAlike (Json.string (sessionText session)).bytes
        (Json.string (sessionText session')).bytes

theorem BodiesAlike.length_eq {body body' : Bytes} (alike : BodiesAlike body body') :
    body'.length = body.length := by
  cases alike with
  | same => rfl
  | session alike =>
    rw [length_bytes_sessionText alike.plain, length_bytes_sessionText alike.plain', alike.length]

/-- Clients cannot tell the responses apart, the identities of sessions aside. -/
structure Resembles (response other : Response) : Prop where
  status : other.status = response.status
  headers : other.headers = response.headers
  body : BodiesAlike response.body other.body

theorem Resembles.refl (response : Response) : response.Resembles response :=
  ⟨rfl, rfl, .same _⟩

end Response

/-- What a call makes of results that are alike is rendered alike. -/
theorem Call.resembles_perform {σ τ : Type} {controllers : Controllers σ} {others : Controllers τ}
    {related : σ → τ → Prop} (alike : controllers.Alike others related) (call : Call) {store : σ}
    {store' : τ} (start : related store store') :
    (dispatchResponse (call.perform controllers store).1).Resembles
        (dispatchResponse (call.perform others store').1) ∧
      related (call.perform controllers store).2 (call.perform others store').2 := by
  obtain ⟨capability⟩ := call
  obtain ⟨results, left⟩ := alike capability start
  rw [perform_eq_run, perform_eq_run]
  refine ⟨?_, left⟩
  dsimp only
  generalize (controllers.run capability store).1 = result at results ⊢
  generalize (others.run capability store').1 = result' at results ⊢
  cases results with
  | same => exact .refl _
  | internal text text' =>
    rw [dispatchResponse, dispatchResponse, DispatchError.response_internal text text']
    exact .refl _
  | session alike => exact ⟨rfl, rfl, .session alike⟩

namespace App

variable {σ τ : Type} {app : App σ} {others : Controllers τ} {related : σ → τ → Prop}

/-- The application with other controllers. -/
def withControllers (app : App σ) (others : Controllers τ) : App τ where
  basePath := app.basePath
  bodyLimit := app.bodyLimit
  router := app.router
  controllers := others

/-! ## One request -/

/-- Handled alike: with responses that resemble each other, the same label and related stores. -/
structure Handled.Resembles (related : σ → τ → Prop) (handled : Handled σ) (other : Handled τ) :
    Prop where
  response : handled.response.Resembles other.response
  label : other.label = handled.label
  store : related handled.store other.store

theorem resembles_handlePath (alike : app.controllers.Alike others related) {store : σ} {store' : τ}
    (start : related store store') (method : Method) (path : String) (query : Option String)
    (headers : Headers) (body : BodyStream) :
    Handled.Resembles related (app.handlePath method path query headers body store)
      ((app.withControllers others).handlePath method path query headers body store') := by
  unfold handlePath withControllers
  dsimp only
  cases stripBase? app.basePath path with
  | none => exact ⟨.refl _, rfl, start⟩
  | some below =>
    dsimp only
    cases body.read app.bodyLimit with
    | error fault => exact ⟨.refl _, rfl, start⟩
    | ok body =>
      dsimp only [Router.dispatch]
      cases app.router.call { method, path := below, query, headers, body } with
      | error error => exact ⟨.refl _, rfl, start⟩
      | ok call =>
        obtain ⟨shown, left⟩ := call.resembles_perform alike start
        exact ⟨shown, rfl, left⟩

end App

end Petstore
