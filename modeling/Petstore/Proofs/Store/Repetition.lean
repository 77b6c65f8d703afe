import Petstore.Proofs.Store.Runs
import Petstore.Proofs.Store.UserSteps

/-!
# Reading and repeating

Requests by `GET` and `HEAD` only read, and requests by `PUT` and `DELETE` may be repeated: the
second time they change nothing (`Store.safe_and_idempotent`). The actions behind the latter settle
(`Action.Settles`). An update that renames a user does so because it no longer finds the user, and
every other one because it writes again what it has written.
-/

namespace Petstore

/-- To put in the place of a key what is there changes nothing. -/
theorem insert_of_getElem?_eq_some {κ β : Type} {cmp : κ → κ → Ordering} [Std.TransCmp cmp]
    [Std.LawfulEqCmp cmp] [DecidableEq κ] {map : Std.ExtTreeMap κ β cmp} {key : κ} {value : β}
    (held : map[key]? = some value) : map.insert key value = map := by
  refine Std.ExtTreeMap.ext_getElem? fun other => ?_
  rw [getElem?_insert_ite]
  split
  · next same => rw [← same, held]
  · rfl

namespace Action

variable {σ α : Type}

/-- Run once more, the action changes nothing that it has not changed the first time. -/
def Settles (action : Action σ α) : Prop :=
  ∀ state, (action.outcome (action.outcome state).2).2 = (action.outcome state).2

end Action

open Petstore.Action

/-! ## Updates -/

namespace PetStore

/-- A pet that has replaced another one replaces itself. -/
theorem settles_update (pet : Pet) : (update pet).Settles := by
  intro store
  have step := step_update pet store
  generalize once : (outcome (update pet) store).2 = left at step ⊢
  cases step with
  | keep capability => exact once
  | @replace pet old id own named held =>
    have stored : (store.pets.insert id pet)[id]? = some pet :=
      Std.ExtTreeMap.getElem?_insert_self
    rw [outcome_update, own]
    dsimp only
    rw [if_neg named, stored]
    dsimp only
    rw [insert_of_getElem?_eq_some stored]

theorem settles_delete (petId : Int64) : (delete petId).Settles := by
  intro store
  have gone : (store.pets.erase petId)[petId]? = none := Std.ExtTreeMap.getElem?_erase_self
  rw [outcome_delete, outcome_delete]
  dsimp only
  rw [erase_of_getElem?_eq_none gone]

end PetStore

theorem OrderStore.settles_delete (orderId : Int64) : (delete orderId).Settles := by
  intro store
  have gone : (store.orders.erase orderId)[orderId]? = none := Std.ExtTreeMap.getElem?_erase_self
  rw [outcome_delete, outcome_delete]
  dsimp only
  rw [erase_of_getElem?_eq_none gone]

namespace UserStore

/-- A user that was updated in place is updated to itself, and one that was renamed is not found
again. -/
theorem settles_update (username : String) (user : User) : (update username user).Settles := by
  intro store
  have step := step_update username user store
  generalize once : (outcome (update username user) store).2 = left at step ⊢
  cases step with
  | keep capability => exact once
  | @replace username user old held named own =>
    have stored : (store.users.insert username (user.keeping username))[username]? =
        some (user.keeping username) := Std.ExtTreeMap.getElem?_insert_self
    rw [outcome_update]
    dsimp only
    rw [if_pos named, stored]
    dsimp only
    rw [if_pos own, insert_of_getElem?_eq_some stored]
  | @rename username user old held named other free =>
    have gone : ((store.users.insert (user.keeping username).username
        (user.keeping username)).erase username)[username]? = none :=
      Std.ExtTreeMap.getElem?_erase_self
    rw [outcome_update]
    dsimp only
    rw [if_pos named, gone]

theorem settles_delete (username : String) : (delete username).Settles := by
  intro store
  have gone : (store.users.erase username)[username]? = none :=
    Std.ExtTreeMap.getElem?_erase_self
  rw [outcome_delete, outcome_delete]
  dsimp only
  rw [erase_of_getElem?_eq_none gone]

end UserStore

/-! ## Capabilities by the methods of their operations -/

namespace Store

variable {α : Type} {kind : ResultKind} {capability : Capability kind}

theorem readOnly_onPets {action : Action PetStore α} (reads : action.ReadOnly) :
    (onPets action).ReadOnly := by
  intro store
  rw [outcome_onPets, reads]

theorem readOnly_onOrders {action : Action OrderStore α} (reads : action.ReadOnly) :
    (onOrders action).ReadOnly := by
  intro store
  rw [outcome_onOrders, reads]

theorem readOnly_onUsers {action : Action UserStore α} (reads : action.ReadOnly) :
    (onUsers action).ReadOnly := by
  intro store
  rw [outcome_onUsers, reads]

theorem settles_onPets {action : Action PetStore α} (settles : action.Settles) :
    (onPets action).Settles := by
  intro store
  rw [outcome_onPets, outcome_onPets, settles]

theorem settles_onOrders {action : Action OrderStore α} (settles : action.Settles) :
    (onOrders action).Settles := by
  intro store
  rw [outcome_onOrders, outcome_onOrders, settles]

theorem settles_onUsers {action : Action UserStore α} (settles : action.Settles) :
    (onUsers action).Settles := by
  intro store
  rw [outcome_onUsers, outcome_onUsers, settles]

/-- What is asked for by `GET` only reads. -/
theorem readOnly_answer (session : String) (reads : capability.operation.method = .get) :
    (answer session capability).ReadOnly := by
  cases capability with
  | findPetsByStatus statuses => exact readOnly_onPets (PetStore.readOnly_findByStatus statuses)
  | findPetsByTags tags => exact readOnly_onPets (PetStore.readOnly_findByTags tags)
  | getPetById petId => exact readOnly_onPets (PetStore.readOnly_find petId)
  | getInventory => exact readOnly_get.map inventory
  | getOrderById orderId => exact readOnly_onOrders (OrderStore.readOnly_find orderId)
  | loginUser username password =>
    exact readOnly_onUsers (UserStore.readOnly_login session username password)
  | logoutUser => exact readOnly_pure ()
  | getUserByName username => exact readOnly_onUsers (UserStore.readOnly_find username)
  | _ =>
    dsimp only [Capability.operation] at reads
    exact absurd reads (by decide)

/-- What is asked for by `PUT` or `DELETE` settles. -/
theorem settles_answer (session : String)
    (repeats : capability.operation.method = .put ∨ capability.operation.method = .delete) :
    (answer session capability).Settles := by
  cases capability with
  | updatePet pet => exact settles_onPets (PetStore.settles_update pet)
  | deletePet petId apiKey => exact settles_onPets (PetStore.settles_delete petId)
  | deleteOrder orderId => exact settles_onOrders (OrderStore.settles_delete orderId)
  | updateUser username user => exact settles_onUsers (UserStore.settles_update username user)
  | deleteUser username => exact settles_onUsers (UserStore.settles_delete username)
  | _ =>
    dsimp only [Capability.operation] at repeats
    exact absurd repeats (by decide)

/-! ## Requests by their methods -/

/-- No operation is asked for by `HEAD` itself. -/
theorem method_eq_get_of_read {visit : Visit} {call : Call} (called : visit.call? = some call)
    (reads : visit.request.method = .get ∨ visit.request.method = .head) :
    call.capability.operation.method = .get := by
  obtain ⟨_, _, _, method, _⟩ := takes_of_call (Visit.call?_eq_some_iff.mp called)
  rcases method with own | ⟨-, standing⟩
  · rcases reads with get | head
    · exact own.trans get
    · have noHead (operation : Operation) : operation.method ≠ .head := by
        cases operation <;> decide
      exact absurd (own.trans head) (noHead _)
  · exact standing

/-- **Safe and idempotent methods.** A request by `GET` or `HEAD` leaves every pet, order and user,
and the next ids, as they were, whatever it is answered. A request by `PUT` or `DELETE` leaves after
two times what it leaves after one time. -/
theorem safe_and_idempotent (store : Store) (request : Request) (session later : String) :
    (request.method = .get ∨ request.method = .head →
      (store.visit ⟨request, session⟩).2 = store) ∧
    (request.method = .put ∨ request.method = .delete →
      ((store.visit ⟨request, session⟩).2.visit ⟨request, later⟩).2 =
        (store.visit ⟨request, session⟩).2) := by
  cases called : Visit.call? ⟨request, session⟩ with
  | none =>
    have kept (session : String) (store : Store) : (store.visit ⟨request, session⟩).2 = store := by
      have uncalled : Visit.call? ⟨request, session⟩ = none := called
      exact visit_snd_of_no_call uncalled store
    exact ⟨fun _ => kept session store, fun _ => by rw [kept session, kept later]⟩
  | some call =>
    have left (session : String) (store : Store) :
        (store.visit ⟨request, session⟩).2 = store.afterCall session call := by
      have called : Visit.call? ⟨request, session⟩ = some call := called
      rw [visit_of_call called, Call.perform_eq]
    refine ⟨fun reads => ?_, fun repeats => ?_⟩
    · rw [left session]
      exact readOnly_answer session (method_eq_get_of_read called reads) store
    · obtain ⟨_, _, _, method, _⟩ := takes_of_call (Visit.call?_eq_some_iff.mp called)
      have own : call.capability.operation.method = request.method := by
        refine method.resolve_right fun standing => ?_
        rcases repeats with put | delete
        · exact absurd (standing.1.symm.trans put) (by decide)
        · exact absurd (standing.1.symm.trans delete) (by decide)
      rw [← own] at repeats
      rw [left session, left later, afterCall_session later session]
      exact settles_answer session repeats store

/-- The second time, a request that renames a user does not find it and changes nothing. -/
theorem safe_and_idempotent_rename :
    let store : Store :=
      { users := ⟨(∅ : Std.ExtTreeMap String User).insert "bob" { username := "bob" }⟩ }
    let request : Request :=
      { method := .put, path := "/user/bob", body := (User.toJson { username := "rob" }).bytes }
    let once := store.visit ⟨request, "a"⟩
    let twice := once.2.visit ⟨request, "b"⟩
    once.1 = .ok .empty ∧ once.2.users.users["rob"]? = some { username := "rob" } ∧
      twice.1 = .error (.controller (UserStore.noUser "bob")) ∧ twice.2 = once.2 := by
  intro store request once twice
  have readRob : User.reader.document (User.toJson { username := "rob" }).bytes =
      .ok { username := "rob" } :=
    toOption_eq_some_iff.mp (by decide +kernel)
  have resolved : serviceRouter.resolve .put "/user/bob" =
      .matched Operation.updateUser.route ((∅ : PathParams).insert "username" "bob") := by
    rfl
  have called (session : String) :
      Visit.call? ⟨request, session⟩ = some ⟨.updateUser "bob" { username := "rob" }⟩ := by
    have takes : (Capability.updateUser "bob" { username := "rob" }).Takes (fun _ => "bob")
        request := ⟨rfl, readRob⟩
    have bound : Operation.updateUser.bind
        (.ofRequest ((∅ : PathParams).insert "username" "bob") request) =
          .ok ⟨.updateUser "bob" { username := "rob" }⟩ :=
      Operation.bind_operation_eq_ok_iff.mpr takes
    have resolved : serviceRouter.resolve request.method request.path = _ := resolved
    refine Visit.call?_eq_some_iff.mpr ?_
    rw [call_of_resolve resolved, bound]
    rfl
  have first : once =
      (.ok .empty,
        { users := ⟨((∅ : Std.ExtTreeMap String User).insert "bob" { username := "bob" }
          |>.insert "rob" { username := "rob" }).erase "bob"⟩ }) := by
    simp only [once, visit_of_call (called "a")]
    rfl
  have second : twice.1 = .error (.controller (UserStore.noUser "bob")) := by
    simp only [twice, visit_of_call (called "b"), first]
    rfl
  refine ⟨congrArg Prod.fst first, ?_, second, ?_⟩
  · rw [first]
    decide
  · exact (safe_and_idempotent store request "a" "b").2 (Or.inl rfl)

end Store

end Petstore
