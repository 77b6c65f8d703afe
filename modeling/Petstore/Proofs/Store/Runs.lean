import Petstore.Proofs.Api.Calls
import Petstore.Proofs.Store.Steps

/-!
# Runs of a store

A run is a list of calls, or a list of requests that the service answers one after the other. A
request comes to at most one call, so a run of requests leaves what a run of calls leaves
(`afterVisits_eq_afterCalls`), and what holds after every run of calls holds after every run of
requests. The identity that a session gets shows in the answer to its request and in no store.
-/

namespace Petstore

open Petstore.Action

/-! ## Calls -/

namespace Store

/-- The store after a call. -/
def afterCall (session : String) (store : Store) (call : Call) : Store :=
  ((answer session call.capability).outcome store).2

/-- The store after calls made one after the other. -/
def afterCalls (session : String) (store : Store) (calls : List Call) : Store :=
  calls.foldl (afterCall session) store

theorem afterCalls_append (session : String) (store : Store) (earlier later : List Call) :
    afterCalls session store (earlier ++ later) =
      afterCalls session (afterCalls session store earlier) later :=
  List.foldl_append

/-- What every call keeps, a run of calls keeps. -/
theorem afterCalls_induction {session : String} {kept : Store → Prop}
    (step : ∀ store call, kept store → kept (afterCall session store call)) {store : Store}
    (start : kept store) (calls : List Call) : kept (afterCalls session store calls) := by
  induction calls generalizing store with
  | nil => exact start
  | cons call calls ih => exact ih (step store call start)

/-- What a login leaves does not depend on the session that it opens. -/
theorem afterCall_session (session other : String) : afterCall session = afterCall other := by
  funext store ⟨capability⟩
  cases capability with
  | loginUser username password =>
    have same := UserStore.readOnly_login session username password store.users
    have same' := UserStore.readOnly_login other username password store.users
    exact congrArg (fun users => { store with users }) (same.trans same'.symm)
  | _ => rfl

end Store

/-- The reply to a call is written from its result, and a failure is passed on. -/
theorem Call.perform_eq (call : Call) (session : String) (store : Store) :
    call.perform (Store.controllers session) store =
      (match ((Store.answer session call.capability).outcome store).1 with
        | .ok result => .ok (call.kind.reply result)
        | .error error => .error (.controller error),
        store.afterCall session call) :=
  call.perform_eq_run (Store.controllers session) store

/-- A call that gets a reply has a result, of which the reply is made. -/
theorem Call.of_perform_eq_ok {call : Call} {session : String} {store : Store} {reply : Reply}
    (replied : (call.perform (Store.controllers session) store).1 = .ok reply) :
    ∃ result, ((Store.answer session call.capability).outcome store).1 = .ok result ∧
      call.kind.reply result = reply := by
  rw [perform_eq] at replied
  dsimp only at replied
  split at replied
  · next result answered => exact ⟨result, answered, Except.ok.inj replied⟩
  · cases replied

/-! ## Requests -/

/-- A request, with the identity of the session that it may open. -/
structure Visit where
  request : Request
  session : String

namespace Visit

/-- The call that the request comes to. -/
def call? (visit : Visit) : Option Call :=
  (serviceRouter.call visit.request).toOption

theorem call?_eq_some_iff {visit : Visit} {call : Call} :
    visit.call? = some call ↔ serviceRouter.call visit.request = .ok call :=
  toOption_eq_some_iff

end Visit

namespace Store

/-- What the service answers, and the store after it. -/
def visit (store : Store) (visit : Visit) : Except DispatchError Reply × Store :=
  serviceRouter.dispatch (controllers visit.session) visit.request store

/-- The store after requests answered one after the other. -/
def afterVisits (store : Store) (visits : List Visit) : Store :=
  visits.foldl (fun store visit => (store.visit visit).2) store

theorem afterVisits_append (store : Store) (earlier later : List Visit) :
    store.afterVisits (earlier ++ later) = (store.afterVisits earlier).afterVisits later :=
  List.foldl_append

theorem visit_of_call {visit : Visit} {call : Call} (called : visit.call? = some call)
    (store : Store) : store.visit visit = call.perform (controllers visit.session) store :=
  Router.dispatch_of_call_ok (Visit.call?_eq_some_iff.mp called)

/-- A request that gets a reply comes to a call. -/
theorem exists_call_of_reply {store : Store} {visit : Visit} {reply : Reply}
    (replied : (store.visit visit).1 = .ok reply) : ∃ call, visit.call? = some call := by
  rw [Store.visit, Router.dispatch] at replied
  cases called : serviceRouter.call visit.request with
  | error error => simp [called] at replied
  | ok call => exact ⟨call, Visit.call?_eq_some_iff.mpr called⟩

/-- A request that comes to no call gets the same error from every store, and leaves it alone. -/
theorem exists_error_of_no_call {visit : Visit} (uncalled : visit.call? = none) :
    ∃ error, ∀ store : Store, store.visit visit = (.error error, store) := by
  cases called : serviceRouter.call visit.request with
  | error error => exact ⟨error, fun store => Router.dispatch_of_call_error called⟩
  | ok call => simp [Visit.call?, called, Except.toOption] at uncalled

theorem visit_snd_of_no_call {visit : Visit} (uncalled : visit.call? = none) (store : Store) :
    (store.visit visit).2 = store := by
  obtain ⟨error, refused⟩ := exists_error_of_no_call uncalled
  rw [refused]

/-- A run of requests leaves what the calls leave to which the requests come. -/
theorem afterVisits_eq_afterCalls (session : String) (store : Store) (visits : List Visit) :
    store.afterVisits visits = afterCalls session store (visits.filterMap Visit.call?) := by
  induction visits generalizing store with
  | nil => rfl
  | cons visit visits ih =>
    unfold afterVisits at ih ⊢
    rw [List.foldl_cons, ih]
    cases called : visit.call? with
    | none => rw [visit_snd_of_no_call called, List.filterMap_cons_none called]
    | some call =>
      rw [visit_of_call called, Call.perform_eq, List.filterMap_cons_some called,
        afterCall_session visit.session session]
      rfl

end Store

end Petstore
