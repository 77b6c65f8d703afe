import Petstore.Api.Dispatch
import Petstore.Proofs.Routing.Resolution
import Petstore.Proofs.Routing.Template
import Petstore.Proofs.Store.Action
import Petstore.Store.Controllers

/-!
# Failed requests leave the store alone

Every operation of the store but the two that create several users is atomic: it checks what it is
given and what is stored before it writes, or it takes away what is not there. A request that fails
before its call does not reach the store at all.
-/

namespace Petstore

/-- Nothing is taken away where there is nothing. -/
theorem erase_of_getElem?_eq_none {κ β : Type} {cmp : κ → κ → Ordering} [Std.TransCmp cmp]
    [Std.LawfulEqCmp cmp] {map : Std.ExtTreeMap κ β cmp} {key : κ} (absent : map[key]? = none) :
    map.erase key = map := by
  refine Std.ExtTreeMap.ext_getElem? fun other => ?_
  rw [Std.ExtTreeMap.getElem?_erase]
  split
  · next same => rw [← Std.ExtTreeMap.getElem?_congr same, absent]
  · rfl

/-! ## Pets -/

namespace PetStore

open Petstore.Action

theorem readOnly_find (petId : Int64) : (find petId).ReadOnly := by
  refine readOnly_get.bind_readOnly fun store => ?_
  split
  · exact readOnly_pure _
  · exact readOnly_throw _

theorem total_put (petId : Int64) (pet : Pet) : (put petId pet).Total :=
  total_modifyGet _

/-- An id is given out, or there is none left and nothing has changed. -/
theorem atomic_allocateId : allocateId.Atomic := by
  refine readOnly_get.bind fun store => ?_
  have rest : Total do
      set { store with nextId := store.nextId + 1 }
      return store.nextId :=
    (total_set _).bind_total fun _ => total_pure _
  split
  · exact (readOnly_throw _).bind fun _ => rest.atomic
  · exact rest.atomic

theorem atomic_claimId (pet : Pet) : (claimId pet).Atomic := by
  unfold claimId
  split
  · exact ((total_modifyGet _).bind_total fun _ => total_pure _).atomic
  · exact atomic_allocateId

theorem atomic_add (pet : Pet) : (add pet).Atomic := by
  refine (readOnly_liftM _).bind fun _ => (atomic_claimId pet).bind fun id => ?_
  exact (total_put _ _).bind_total fun _ => total_pure _

theorem atomic_update (pet : Pet) : (update pet).Atomic := by
  unfold update
  split
  · exact (readOnly_throw _).atomic
  · refine (readOnly_liftM _).bind fun _ => (readOnly_find _).discard.bind fun _ => ?_
    exact ((total_put _ _).bind_total fun _ => total_pure _).atomic

theorem readOnly_findByStatus (statuses : List String) : (findByStatus statuses).ReadOnly :=
  (readOnly_liftM _).bind_readOnly fun _ => readOnly_get.bind_readOnly fun _ => readOnly_pure _

theorem readOnly_findByTags (tags : List String) : (findByTags tags).ReadOnly :=
  readOnly_get.bind_readOnly fun _ => readOnly_pure _

theorem atomic_updateWithForm (petId : Int64) (name status : Option String) :
    (updateWithForm petId name status).Atomic := by
  refine (readOnly_liftM _).bind fun status => (readOnly_find petId).bind fun pet => ?_
  exact (total_put _ _).atomic

theorem atomic_delete (petId : Int64) : (delete petId).Atomic := by
  refine atomic_take (fun store absent => ?_) _
  rw [erase_of_getElem?_eq_none absent]

theorem readOnly_upload (petId : Int64) (metadata : Option String) (file : Bytes) :
    (upload petId metadata file).ReadOnly :=
  (readOnly_find petId).discard.bind_readOnly fun _ => readOnly_pure _

end PetStore

/-! ## Orders -/

namespace OrderStore

open Petstore.Action

theorem readOnly_find (orderId : Int64) : (find orderId).ReadOnly := by
  refine readOnly_get.bind_readOnly fun store => ?_
  split
  · exact readOnly_pure _
  · exact readOnly_throw _

/-- Once its quantity is checked, an order is placed. -/
theorem atomic_place (order : Order) : (place order).Atomic := by
  refine (readOnly_liftM _).bind fun _ => ((total_modifyGet _).bind_total fun id => ?_).atomic
  exact (total_modifyGet _).bind_total fun _ => total_pure _

theorem atomic_delete (orderId : Int64) : (delete orderId).Atomic := by
  refine atomic_take (fun store absent => ?_) _
  rw [erase_of_getElem?_eq_none absent]

end OrderStore

/-! ## Users -/

namespace UserStore

open Petstore.Action

theorem readOnly_find (username : String) : (find username).ReadOnly := by
  refine readOnly_get.bind_readOnly fun store => ?_
  split
  · exact readOnly_pure _
  · exact readOnly_throw _

theorem total_put (user : User) : (put user).Total :=
  total_modifyGet _

theorem atomic_create (user : User) : (create user).Atomic :=
  (readOnly_liftM _).bind fun _ => (total_put user).atomic

theorem readOnly_login (session username password : String) :
    (login session username password).ReadOnly := by
  refine readOnly_get.bind_readOnly fun store => ?_
  split
  · exact readOnly_pure _
  · exact readOnly_throw _

/-- A name that is free is claimed, and then the old one is released: neither can fail. -/
theorem atomic_rename (username : String) (user : User) : (rename username user).Atomic := by
  refine readOnly_get.bind fun store => ?_
  have rest : Total (put user >>= fun _ => discard (remove username)) :=
    (total_put user).bind_total fun _ => (total_modifyGet _).discard
  split
  · exact (readOnly_throw _).bind fun _ => rest.atomic
  · exact rest.atomic

theorem atomic_update (username : String) (user : User) : (update username user).Atomic := by
  unfold update
  generalize (if user.username = "" then { user with username } else user) = named
  refine (readOnly_liftM _).bind fun _ => (readOnly_find username).discard.bind fun _ => ?_
  split
  · exact (total_put named).atomic
  · exact atomic_rename username named

theorem atomic_delete (username : String) : (delete username).Atomic := by
  refine atomic_take (fun store absent => ?_) _
  rw [erase_of_getElem?_eq_none absent]

end UserStore

/-! ## Calls -/

/-- The capability stores several users one after the other, and keeps those before a failure. -/
def Capability.CreatesMany {kind : ResultKind} : Capability kind → Prop
  | .createUsersWithArrayInput _ => True
  | .createUsersWithListInput _ => True
  | _ => False

namespace Store

variable {α : Type}

theorem atomic_onPets {action : Action PetStore α} (atomic : action.Atomic) :
    (onPets action).Atomic :=
  atomic.within fun _ => rfl

theorem atomic_onOrders {action : Action OrderStore α} (atomic : action.Atomic) :
    (onOrders action).Atomic :=
  atomic.within fun _ => rfl

theorem atomic_onUsers {action : Action UserStore α} (atomic : action.Atomic) :
    (onUsers action).Atomic :=
  atomic.within fun _ => rfl

/-- **Which answers are atomic.** A capability that fails leaves the store alone, unless it creates
several users. -/
theorem atomic_answer (session : String) {kind : ResultKind} {capability : Capability kind}
    (single : ¬ capability.CreatesMany) : (answer session capability).Atomic := by
  cases capability with
  | addPet pet => exact atomic_onPets (PetStore.atomic_add pet)
  | updatePet pet => exact atomic_onPets (PetStore.atomic_update pet)
  | findPetsByStatus statuses =>
    exact atomic_onPets (PetStore.readOnly_findByStatus statuses).atomic
  | findPetsByTags tags => exact atomic_onPets (PetStore.readOnly_findByTags tags).atomic
  | getPetById petId => exact atomic_onPets (PetStore.readOnly_find petId).atomic
  | updatePetWithForm petId name status =>
    exact atomic_onPets (PetStore.atomic_updateWithForm petId name status)
  | deletePet petId apiKey => exact atomic_onPets (PetStore.atomic_delete petId)
  | uploadFile petId metadata file =>
    exact atomic_onPets (PetStore.readOnly_upload petId metadata file).atomic
  | getInventory => exact (Action.readOnly_get.map inventory).atomic
  | placeOrder order => exact atomic_onOrders (OrderStore.atomic_place order)
  | getOrderById orderId => exact atomic_onOrders (OrderStore.readOnly_find orderId).atomic
  | deleteOrder orderId => exact atomic_onOrders (OrderStore.atomic_delete orderId)
  | createUser user => exact atomic_onUsers (UserStore.atomic_create user)
  | createUsersWithArrayInput users => exact absurd trivial single
  | createUsersWithListInput users => exact absurd trivial single
  | loginUser username password =>
    exact atomic_onUsers (UserStore.readOnly_login session username password).atomic
  | logoutUser => exact (Action.readOnly_pure ()).atomic
  | getUserByName username => exact atomic_onUsers (UserStore.readOnly_find username).atomic
  | updateUser username user => exact atomic_onUsers (UserStore.atomic_update username user)
  | deleteUser username => exact atomic_onUsers (UserStore.atomic_delete username)

end Store

/-- Only two operations come to a call that creates several users. -/
theorem Operation.not_createsMany_of_bind {operation : Operation} {invocation : Invocation}
    {call : Call} (bound : operation.bind invocation = .ok call)
    (single : operation ∉ [createUsersWithArrayInput, createUsersWithListInput]) :
    ¬ call.capability.CreatesMany := by
  cases operation with
  | createUsersWithArrayInput => exact absurd (by simp) single
  | createUsersWithListInput => exact absurd (by simp) single
  | getInventory | logoutUser =>
    cases bound
    exact id
  | updatePetWithForm | deletePet | uploadFile | updatePet | addPet | findPetsByStatus
  | findPetsByTags | getPetById | placeOrder | getOrderById | deleteOrder | createUser
  | getUserByName | deleteUser =>
    obtain ⟨_, _, bound⟩ := bind_eq_ok bound
    cases bound
    exact id
  | loginUser | updateUser =>
    obtain ⟨_, _, bound⟩ := bind_eq_ok bound
    obtain ⟨_, _, bound⟩ := bind_eq_ok bound
    cases bound
    exact id

/-- A request that resolves to another operation comes to a call that creates no more than one
user. -/
theorem Router.not_createsMany_of_call {router : Router Operation} {request : Request} {call : Call}
    (single : ∀ route params, router.resolve request.method request.path = .matched route params →
      route.action ∉ [Operation.createUsersWithArrayInput, .createUsersWithListInput])
    (called : router.call request = .ok call) : ¬ call.capability.CreatesMany := by
  unfold Router.call invocation Resolution.invocation at called
  cases resolved : router.resolve request.method request.path with
  | matched route params =>
    rw [resolved] at called
    cases bound : route.action.bind (.ofRequest params request) with
    | error reason => simp [bound, Except.mapError] at called
    | ok other =>
      simp only [bound, Except.mapError] at called
      cases called
      exact Operation.not_createsMany_of_bind bound (single route params resolved)
  | methodNotAllowed allowed =>
    rw [resolved] at called
    cases called
  | notFound =>
    rw [resolved] at called
    cases called

theorem Call.perform_of_error {call : Call} {session : String} {store : Store}
    {error : DispatchError} (single : ¬ call.capability.CreatesMany)
    (failed : (call.perform (Store.controllers session) store).1 = .error error) :
    (call.perform (Store.controllers session) store).2 = store := by
  have kept := Store.atomic_answer session single store
  unfold perform at failed ⊢
  split at failed
  · cases failed
  · next reason left answered =>
    have answered : (Store.answer session call.capability).outcome store = (.error reason, left) :=
      answered
    rw [answered] at kept
    exact kept reason rfl

/-- **Failed requests leave the store alone.** A request that is not for creating several users and
comes to any error leaves every pet, order and user, and the next ids, as they were. -/
theorem Router.dispatch_of_error {router : Router Operation} {session : String}
    {request : Request} {store : Store} {error : DispatchError}
    (single : ∀ route params, router.resolve request.method request.path = .matched route params →
      route.action ∉ [Operation.createUsersWithArrayInput, .createUsersWithListInput])
    (failed : (router.dispatch (Store.controllers session) request store).1 = .error error) :
    (router.dispatch (Store.controllers session) request store).2 = store := by
  unfold dispatch at failed ⊢
  cases called : router.call request with
  | error reason => rfl
  | ok call =>
    rw [called] at failed
    exact Call.perform_of_error (router.not_createsMany_of_call single called) failed

theorem Router.dispatch_of_error_unknown_user :
    let store : Store :=
      { users := ⟨(∅ : Std.ExtTreeMap String User).insert "bob" { username := "bob" }⟩ }
    serviceRouter.dispatch (Store.controllers "session")
      { method := .delete, path := "/user/eve" } store =
        (.error (.controller (UserStore.noUser "eve")), store) := by
  intro store
  have resolved : serviceRouter.resolve .delete "/user/eve" =
      .matched Operation.deleteUser.route ((∅ : PathParams).insert "username" "eve") := by
    rfl
  have called : serviceRouter.call { method := .delete, path := "/user/eve" } =
      .ok ⟨.deleteUser "eve"⟩ := by
    rfl
  have failed : (serviceRouter.dispatch (Store.controllers "session")
      { method := .delete, path := "/user/eve" } store).1 =
        .error (.controller (UserStore.noUser "eve")) := by
    rw [Router.dispatch, called]
    rfl
  refine Prod.ext failed (Router.dispatch_of_error (fun route params matched => ?_) failed)
  cases resolved.symm.trans matched
  decide

end Petstore
