import Petstore.Proofs.Store.Footprint
import Petstore.Proofs.Store.Repetition

/-!
# Independent requests

Each capability has a footprint: the cells of the ids and usernames that it is given, or all cells
of a kind where it looks through all of them or takes a new id. Every answer is confined to the
footprint (`Store.confined_answer`), so requests with disjoint footprints may be answered in either
order (`Store.visit_comm`). For an update that renames a user two cells matter, and for a list of
users the cells of all their names.
-/

namespace Petstore

open Petstore.Action

/-! ## Footprints of capabilities -/

/-- The cell of the username, unless that is blank: such a name is refused and has no user. -/
def User.cells (user : User) : Set Cell :=
  {cell | user.Named ∧ cell = .user user.username}

/-- The cells that the capability is concerned with. -/
def Capability.footprint {kind : ResultKind} : Capability kind → Set Cell
  | addPet pet =>
    match pet.id with
    | some id => {.pet id}
    | none => Set.range Cell.pet
  | updatePet pet => {cell | ∃ id, pet.id = some id ∧ cell = .pet id}
  | findPetsByStatus _ => Set.range Cell.pet
  | findPetsByTags _ => Set.range Cell.pet
  | getPetById petId => {.pet petId}
  | updatePetWithForm petId _ _ => {.pet petId}
  | deletePet petId _ => {.pet petId}
  | uploadFile petId _ _ => {.pet petId}
  | getInventory => Set.range Cell.pet
  | placeOrder _ => Set.range Cell.order
  | getOrderById orderId => {.order orderId}
  | deleteOrder orderId => {.order orderId}
  | createUser user => user.cells
  | createUsersWithArrayInput users => {cell | ∃ user ∈ users, cell ∈ user.cells}
  | createUsersWithListInput users => {cell | ∃ user ∈ users, cell ∈ user.cells}
  | loginUser username _ => {.user username}
  | logoutUser => ∅
  | getUserByName username => {.user username}
  | updateUser username user => {.user username} ∪ user.cells
  | deleteUser username => {.user username}

/-- The operations that are concerned with cells of the kind. Of those on the store, the inventory
alone is about pets. -/
def Cell.operations : Cell → List Operation
  | pet _ => .getInventory :: Operation.onPets
  | order _ => Operation.onStore.erase .getInventory
  | user _ => Operation.onUsers

/-- Operations on different resources are concerned with different cells, but for the inventory. -/
theorem Capability.operation_mem_of_footprint {kind : ResultKind} {capability : Capability kind}
    {cell : Cell} (touched : cell ∈ capability.footprint) :
    capability.operation ∈ cell.operations := by
  cases capability with
  | addPet pet =>
    cases own : pet.id with
    | some id =>
      rw [footprint, own] at touched
      cases touched
      exact List.elem_iff.mp rfl
    | none =>
      rw [footprint, own] at touched
      obtain ⟨id, rfl⟩ := touched
      exact List.elem_iff.mp rfl
  | updatePet pet =>
    obtain ⟨id, -, rfl⟩ := touched
    exact List.elem_iff.mp rfl
  | findPetsByStatus | findPetsByTags | getInventory | placeOrder =>
    obtain ⟨id, rfl⟩ := touched
    exact List.elem_iff.mp rfl
  | createUser user =>
    obtain ⟨-, rfl⟩ := touched
    exact List.elem_iff.mp rfl
  | createUsersWithArrayInput users | createUsersWithListInput users =>
    obtain ⟨user, -, -, rfl⟩ := touched
    exact List.elem_iff.mp rfl
  | updateUser username user =>
    rcases touched with rfl | ⟨-, rfl⟩
    · exact List.elem_iff.mp rfl
    · exact List.elem_iff.mp rfl
  | logoutUser => cases touched
  | _ =>
    cases touched
    exact List.elem_iff.mp rfl

/-! ## Confined operations -/

section Operations

variable {cells : Set Cell}

open Store

namespace PetStore

/-- A pet with an id of its own concerns that id alone: the counter is only raised. -/
theorem confined_add_of_id {pet : Pet} {id : Int64} (own : pet.id = some id)
    (within : .pet id ∈ cells) : Confined cells (onPets (add pet)) := by
  intro store
  by_cases blank : Text.trim pet.name = ""
  · refine .keep (.error (.validation "pet name must not be empty")) fun other _ => ?_
    rw [outcome_onPets, outcome_add_of_id own, if_pos blank]
  · have inside : {.pet id} ⊆ cells := Set.singleton_subset_iff.mpr within
    refine .write_two (.ok pet) (.pet id (some pet)) (.passPet id) inside inside fun other _ => ?_
    rw [outcome_onPets, outcome_add_of_id own, if_neg blank]
    rfl

/-- A pet without an id gets the next one, and that may be any. -/
theorem confined_add_of_no_id {pet : Pet} (unnumbered : pet.id = none)
    (all : Set.range Cell.pet ⊆ cells) : Confined cells (onPets (add pet)) := by
  intro store
  by_cases blank : Text.trim pet.name = ""
  · refine .keep (.error (.validation "pet name must not be empty")) fun other _ => ?_
    rw [outcome_onPets, outcome_add_of_no_id unnumbered, if_pos blank]
  · by_cases full : store.pets.nextId = Int64.maxValue
    · refine .keep (.error (.internal "pet id space exhausted")) fun other alike => ?_
      rw [outcome_onPets, outcome_add_of_no_id unnumbered, if_neg blank, alike.nextPet all,
        if_pos full]
    · let added := { pet with id := some store.pets.nextId }
      refine .write_two (.ok added) (.pet store.pets.nextId (some added))
        (.nextPet (store.pets.nextId + 1)) ?_ all fun other alike => ?_
      · exact Set.singleton_subset_iff.mpr (all (Set.mem_range_self _))
      · rw [outcome_onPets, outcome_add_of_no_id unnumbered, if_neg blank, alike.nextPet all,
          if_neg full]
        rfl

theorem confined_update {pet : Pet} (within : ∀ id, pet.id = some id → .pet id ∈ cells) :
    Confined cells (onPets (update pet)) := by
  intro store
  cases own : pet.id with
  | none =>
    refine .keep (.error (.invalidInput "pet id is required")) fun other _ => ?_
    rw [outcome_onPets, outcome_update, own]
  | some id =>
    have inside := within id own
    by_cases blank : Text.trim pet.name = ""
    · refine .keep (.error (.validation "pet name must not be empty")) fun other _ => ?_
      rw [outcome_onPets, outcome_update, own]
      dsimp only
      rw [if_pos blank]
    · cases held : store.pets.pets[id]? with
      | none =>
        refine .keep (.error (noPet id)) fun other alike => ?_
        rw [outcome_onPets, outcome_update, own]
        dsimp only
        rw [if_neg blank, alike.pets id inside, held]
      | some old =>
        refine .write (.ok pet) (.pet id (some pet)) (Set.singleton_subset_iff.mpr inside)
          fun other alike => ?_
        rw [outcome_onPets, outcome_update, own]
        dsimp only
        rw [if_neg blank, alike.pets id inside, held]
        rfl

theorem confined_updateWithForm {petId : Int64} (name status : Option String)
    (within : .pet petId ∈ cells) : Confined cells (onPets (updateWithForm petId name status)) := by
  intro store
  cases read : readStatus? status with
  | error error =>
    refine .keep (.error error) fun other _ => ?_
    rw [outcome_onPets, outcome_updateWithForm, read]
  | ok status' =>
    cases held : store.pets.pets[petId]? with
    | none =>
      refine .keep (.error (noPet petId)) fun other alike => ?_
      rw [outcome_onPets, outcome_updateWithForm, read]
      dsimp only
      rw [alike.pets petId within, held]
    | some old =>
      let changed := { old with name := name.getD old.name, status := status'.or old.status }
      refine .write (.ok ⟨⟩) (.pet petId (some changed)) (Set.singleton_subset_iff.mpr within)
        fun other alike => ?_
      rw [outcome_onPets, outcome_updateWithForm, read]
      dsimp only
      rw [alike.pets petId within, held]
      rfl

theorem confined_delete {petId : Int64} (within : .pet petId ∈ cells) :
    Confined cells (onPets (delete petId)) := by
  intro store
  refine .write (if store.pets.pets[petId]?.isNone then .error (noPet petId) else .ok ⟨⟩)
    (.pet petId none) (Set.singleton_subset_iff.mpr within) fun other alike => ?_
  rw [outcome_onPets, outcome_delete, alike.pets petId within]
  rfl

theorem confined_find {petId : Int64} (within : .pet petId ∈ cells) :
    Confined cells (onPets (find petId)) := by
  refine .of_readOnly (readOnly_onPets (readOnly_find petId)) fun store other alike => ?_
  rw [outcome_onPets, outcome_onPets, outcome_find, outcome_find, alike.pets petId within]

theorem confined_upload {petId : Int64} (metadata : Option String) (file : Bytes)
    (within : .pet petId ∈ cells) : Confined cells (onPets (upload petId metadata file)) := by
  refine .of_readOnly (readOnly_onPets (readOnly_upload petId metadata file))
    fun store other alike => ?_
  rw [outcome_onPets, outcome_onPets, upload, outcome_bind, outcome_bind, discard_eq_map,
    outcome_map, outcome_map, outcome_find, outcome_find, alike.pets petId within]
  cases held : store.pets.pets[petId]? with
  | none => rfl
  | some pet => rfl

end PetStore

namespace OrderStore

/-- An order gets the next id, and that may be any. -/
theorem confined_place (order : Order) (all : Set.range Cell.order ⊆ cells) :
    Confined cells (onOrders (place order)) := by
  intro store
  by_cases bad : order.quantity.any (· ≤ 0) = true
  · refine .keep (.error (.validation "quantity must be positive")) fun other _ => ?_
    rw [outcome_onOrders, outcome_place, if_pos bad]
  · let added := placed order store.orders.nextId
    refine .write_two (.ok added) (.order store.orders.nextId (some added))
      (.nextOrder (store.orders.nextId + 1)) ?_ all fun other alike => ?_
    · exact Set.singleton_subset_iff.mpr (all (Set.mem_range_self _))
    · rw [outcome_onOrders, outcome_place, if_neg bad, alike.nextOrder all]
      rfl

theorem confined_find {orderId : Int64} (within : .order orderId ∈ cells) :
    Confined cells (onOrders (find orderId)) := by
  refine .of_readOnly (readOnly_onOrders (readOnly_find orderId)) fun store other alike => ?_
  rw [outcome_onOrders, outcome_onOrders, outcome_find, outcome_find,
    alike.orders orderId within]

theorem confined_delete {orderId : Int64} (within : .order orderId ∈ cells) :
    Confined cells (onOrders (delete orderId)) := by
  intro store
  refine .write (if store.orders.orders[orderId]?.isNone then .error (noOrder orderId) else .ok ⟨⟩)
    (.order orderId none) (Set.singleton_subset_iff.mpr within) fun other alike => ?_
  rw [outcome_onOrders, outcome_delete, alike.orders orderId within]
  rfl

end OrderStore

namespace UserStore

theorem confined_create {user : User} (within : user.cells ⊆ cells) :
    Confined cells (onUsers (create user)) := by
  intro store
  by_cases named : user.Named
  · have inside : .user user.username ∈ cells := within ⟨named, rfl⟩
    refine .write (.ok ⟨⟩) (.user user.username (some user))
      (Set.singleton_subset_iff.mpr inside) fun other _ => ?_
    rw [outcome_onUsers, outcome_create, if_pos named]
    rfl
  · refine .keep (.error (.validation "username must not be empty")) fun other _ => ?_
    rw [outcome_onUsers, outcome_create, if_neg named]

/-- A list of users is stored by one write for each of them. -/
theorem withAll_eq_writeAll (store : Store) (users : List User) :
    { store with users := store.users.withAll users } =
      store.writeAll (users.map fun user => .user user.username (some user)) := by
  induction users generalizing store with
  | nil => rfl
  | cons user users ih => exact ih (store.write (.user user.username (some user)))

theorem confined_createAll {users : List User}
    (within : ∀ user ∈ users, user.cells ⊆ cells) : Confined cells (onUsers (createAll users)) := by
  intro store
  refine ⟨if ∀ user ∈ users, user.Named then .ok ⟨⟩
    else .error (.validation "username must not be empty"),
    (users.takeWhile (·.Named)).map fun user => .user user.username (some user), ?_,
    fun other _ => ?_⟩
  · rw [List.forall_mem_map]
    intro user stored
    have chosen := List.mem_takeWhile_imp stored
    have named : user.Named := of_decide_eq_true chosen
    exact Set.singleton_subset_iff.mpr
      (within user ((List.takeWhile_prefix _).mem stored) ⟨named, rfl⟩)
  · rw [outcome_onUsers, outcome_createAll, withAll_eq_writeAll]

theorem confined_login {username : String} (session password : String)
    (within : .user username ∈ cells) :
    Confined cells (onUsers (login session username password)) := by
  refine .of_readOnly (readOnly_onUsers (readOnly_login session username password))
    fun store other alike => ?_
  rw [outcome_onUsers, outcome_onUsers, outcome_login, outcome_login,
    alike.users username within]

theorem confined_find {username : String} (within : .user username ∈ cells) :
    Confined cells (onUsers (find username)) := by
  refine .of_readOnly (readOnly_onUsers (readOnly_find username)) fun store other alike => ?_
  rw [outcome_onUsers, outcome_onUsers, outcome_find, outcome_find, alike.users username within]

theorem confined_delete {username : String} (within : .user username ∈ cells) :
    Confined cells (onUsers (delete username)) := by
  intro store
  refine .write (if store.users.users[username]?.isNone then .error (noUser username) else .ok ⟨⟩)
    (.user username none) (Set.singleton_subset_iff.mpr within) fun other alike => ?_
  rw [outcome_onUsers, outcome_delete, alike.users username within]
  rfl

/-- A rename looks at the new name, and writes both. -/
theorem confined_rename {username : String} {user : User} (within : .user username ∈ cells)
    (within' : .user user.username ∈ cells) : Confined cells (onUsers (rename username user)) := by
  intro store
  have same (other : Store) (alike : store.Alike cells other) :
      other.users.users.contains user.username = store.users.users.contains user.username := by
    rw [Std.ExtTreeMap.contains_eq_isSome_getElem?, Std.ExtTreeMap.contains_eq_isSome_getElem?,
      alike.users user.username within']
  by_cases taken : store.users.users.contains user.username = true
  · refine .keep (.error (.validation s!"username `{user.username}` is already taken"))
      fun other alike => ?_
    rw [outcome_onUsers, outcome_rename, same other alike, if_pos taken]
  · refine .write_two (.ok ⟨⟩) (.user user.username (some user)) (.user username none)
      (Set.singleton_subset_iff.mpr within') (Set.singleton_subset_iff.mpr within)
      fun other alike => ?_
    rw [outcome_onUsers, outcome_rename, same other alike, if_neg taken]
    rfl

/-- The name that an updated user has then is the one of the path or its own. -/
theorem mem_keeping {username : String} {user : User} (within : .user username ∈ cells)
    (within' : user.cells ⊆ cells) (named : (user.keeping username).Named) :
    .user (user.keeping username).username ∈ cells := by
  rw [User.username_keeping]
  split
  · exact within
  · next own =>
    have same : user.keeping username = user := if_neg own
    rw [same] at named
    exact within' ⟨named, rfl⟩

theorem confined_update {username : String} {user : User} (within : .user username ∈ cells)
    (within' : user.cells ⊆ cells) : Confined cells (onUsers (update username user)) := by
  intro store
  by_cases named : (user.keeping username).Named
  · cases held : store.users.users[username]? with
    | none =>
      refine .keep (.error (noUser username)) fun other alike => ?_
      rw [outcome_onUsers, outcome_update]
      dsimp only
      rw [if_pos named, alike.users username within, held]
    | some old =>
      have outcome (other : Store) (alike : store.Alike cells other) :
          Action.outcome (update username user) other.users =
            if (user.keeping username).username = username then
              (.ok ⟨⟩, ⟨other.users.users.insert username (user.keeping username)⟩)
            else Action.outcome (rename username (user.keeping username)) other.users := by
        rw [outcome_update]
        dsimp only
        rw [if_pos named, alike.users username within, held]
      by_cases own : (user.keeping username).username = username
      · refine .write (.ok ⟨⟩) (.user username (some (user.keeping username)))
          (Set.singleton_subset_iff.mpr within) fun other alike => ?_
        rw [outcome_onUsers, outcome other alike, if_pos own]
        rfl
      · obtain ⟨result, writes, inside, settled⟩ :=
          confined_rename within (mem_keeping within within' named) store
        refine ⟨result, writes, inside, fun other alike => ?_⟩
        rw [outcome_onUsers, outcome other alike, if_neg own]
        exact settled other alike
  · refine .keep (.error (.validation "username must not be empty")) fun other _ => ?_
    rw [outcome_onUsers, outcome_update]
    dsimp only
    rw [if_neg named]

end UserStore

end Operations

/-! ## Answers and requests -/

namespace Store

/-- An action that only reads and looks at nothing but the pets is confined to their cells. -/
theorem confined_of_pets {α : Type} {action : Action Store α} (reads : action.ReadOnly)
    (only : ∀ store other : Store, other.pets = store.pets →
      (action.outcome other).1 = (action.outcome store).1) :
    Confined (Set.range Cell.pet) action :=
  .of_readOnly reads fun store other alike => only store other (alike.pets_eq subset_rfl)

/-- Every answer is confined to the footprint of the capability. -/
theorem confined_answer (session : String) {kind : ResultKind} (capability : Capability kind) :
    Confined capability.footprint (answer session capability) := by
  cases capability with
  | addPet pet =>
    cases own : pet.id with
    | some id =>
      refine PetStore.confined_add_of_id own ?_
      rw [Capability.footprint, own]
      rfl
    | none =>
      refine PetStore.confined_add_of_no_id own ?_
      rw [Capability.footprint, own]
  | updatePet pet => exact PetStore.confined_update fun id own => ⟨id, own, rfl⟩
  | findPetsByStatus statuses =>
    refine confined_of_pets (readOnly_onPets (PetStore.readOnly_findByStatus statuses)) ?_
    intro store other same
    rw [answer, outcome_onPets, outcome_onPets, same]
  | findPetsByTags tags =>
    refine confined_of_pets (readOnly_onPets (PetStore.readOnly_findByTags tags)) ?_
    intro store other same
    rw [answer, outcome_onPets, outcome_onPets, same]
  | getPetById petId => exact PetStore.confined_find rfl
  | updatePetWithForm petId name status => exact PetStore.confined_updateWithForm name status rfl
  | deletePet petId apiKey => exact PetStore.confined_delete rfl
  | uploadFile petId metadata file => exact PetStore.confined_upload metadata file rfl
  | getInventory =>
    refine confined_of_pets (readOnly_get.map inventory) fun store other same => ?_
    have counted : other.inventory = store.inventory := by rw [inventory, inventory, same]
    exact congrArg Except.ok counted
  | placeOrder order => exact OrderStore.confined_place order subset_rfl
  | getOrderById orderId => exact OrderStore.confined_find rfl
  | deleteOrder orderId => exact OrderStore.confined_delete rfl
  | createUser user => exact UserStore.confined_create subset_rfl
  | createUsersWithArrayInput users =>
    exact UserStore.confined_createAll fun user member cell own => ⟨user, member, own⟩
  | createUsersWithListInput users =>
    exact UserStore.confined_createAll fun user member cell own => ⟨user, member, own⟩
  | loginUser username password => exact UserStore.confined_login session password rfl
  | logoutUser => exact .of_readOnly (readOnly_pure ()) fun store other alike => rfl
  | getUserByName username => exact UserStore.confined_find rfl
  | updateUser username user =>
    exact UserStore.confined_update (Or.inl rfl) Set.subset_union_right
  | deleteUser username => exact UserStore.confined_delete rfl

end Store

/-- The cells that the request is concerned with: those of the call to which it comes, and none if
it comes to none. -/
def Visit.footprint (visit : Visit) : Set Cell :=
  {cell | ∃ call, visit.call? = some call ∧ cell ∈ call.capability.footprint}

/-- The cells of the call are those of the request that comes to it. -/
theorem Visit.footprint_of_call {visit : Visit} {call : Call} (called : visit.call? = some call) :
    visit.footprint = call.capability.footprint := by
  ext cell
  refine ⟨?_, fun touched => ⟨call, called, touched⟩⟩
  rintro ⟨other, called', touched⟩
  rw [called] at called'
  cases called'
  exact touched

namespace Store

/-- **Independent requests commute.** Two requests with disjoint footprints are answered the same
in either order, and leave the same store with the same next ids. The footprint of a request is of
the resource of its operation, except that the inventory is about all pets. -/
theorem visit_comm (store : Store) (first second : Visit) :
    let afterFirst := store.visit first
    let afterSecond := store.visit second
    (Disjoint first.footprint second.footprint →
      (afterSecond.2.visit first).1 = afterFirst.1 ∧
      (afterFirst.2.visit second).1 = afterSecond.1 ∧
      (afterFirst.2.visit second).2 = (afterSecond.2.visit first).2) ∧
    ∀ call cell, first.call? = some call → cell ∈ first.footprint →
      call.capability.operation ∈ cell.operations := by
  intro afterFirst afterSecond
  refine ⟨fun apart => ?_, fun call cell called touched => ?_⟩
  · cases called : first.call? with
    | none =>
      obtain ⟨error, refused⟩ := exists_error_of_no_call called
      simp only [afterFirst, afterSecond, refused, and_self]
    | some call =>
      cases called' : second.call? with
      | none =>
        obtain ⟨error, refused⟩ := exists_error_of_no_call called'
        simp only [afterFirst, afterSecond, refused, and_self]
      | some call' =>
        rw [Visit.footprint_of_call called, Visit.footprint_of_call called'] at apart
        obtain ⟨same, same', left⟩ := (confined_answer first.session call.capability).comm
          (confined_answer second.session call'.capability) apart store
        simp only [afterFirst, afterSecond, visit_of_call called, visit_of_call called',
          Call.perform_eq, afterCall]
        rw [same, same', left]
        exact ⟨rfl, rfl, rfl⟩
  · rw [Visit.footprint_of_call called] at touched
    exact Capability.operation_mem_of_footprint touched

/-- Two pets with ids of their own may be added in either order: the next id is beyond both. -/
theorem visit_comm_post_pets :
    let rex : Pet := { id := some 5, name := "rex" }
    let tom : Pet := { id := some 3, name := "tom" }
    let first : Visit := ⟨{ method := .post, path := "/pet", body := rex.toJson.bytes }, "a"⟩
    let second : Visit := ⟨{ method := .post, path := "/pet", body := tom.toJson.bytes }, "b"⟩
    let left := ((({} : Store).visit first).2.visit second).2
    Disjoint first.footprint second.footprint ∧
      left.pets.pets[(5 : Int64)]? = some rex ∧ left.pets.pets[(3 : Int64)]? = some tom ∧
      left.pets.nextId = 6 ∧
      ((({} : Store).visit second).2.visit first).2 = left := by
  intro rex tom first second left
  have readRex : Pet.reader.document rex.toJson.bytes = .ok rex :=
    toOption_eq_some_iff.mp (by decide +kernel)
  have readTom : Pet.reader.document tom.toJson.bytes = .ok tom :=
    toOption_eq_some_iff.mp (by decide +kernel)
  have addsRex : first.call? = some ⟨.addPet rex⟩ :=
    Visit.call?_eq_some_iff.mpr ((call_post_pet rfl rfl).mpr ⟨_, readRex, rfl⟩)
  have addsTom : second.call? = some ⟨.addPet tom⟩ :=
    Visit.call?_eq_some_iff.mpr ((call_post_pet rfl rfl).mpr ⟨_, readTom, rfl⟩)
  have apart : Disjoint first.footprint second.footprint := by
    rw [Visit.footprint_of_call addsRex, Visit.footprint_of_call addsTom]
    exact Set.disjoint_singleton.mpr (by decide)
  have rexStored : (({} : Store).visit first).2 =
      { pets := ⟨(∅ : Std.ExtTreeMap Int64 Pet).insert 5 rex, 6⟩ } := by
    have own : rex.id = some 5 := rfl
    have named : Text.trim rex.name ≠ "" := by decide
    simp only [visit_of_call addsRex, Call.perform_eq, afterCall, answer, outcome_onPets,
      PetStore.outcome_add_of_id own, if_neg named]
    rfl
  have stored : left =
      { pets := ⟨(∅ : Std.ExtTreeMap Int64 Pet).insert 5 rex |>.insert 3 tom, 6⟩ } := by
    have own : tom.id = some 3 := rfl
    have named : Text.trim tom.name ≠ "" := by decide
    simp only [left, rexStored, visit_of_call addsTom, Call.perform_eq, afterCall, answer,
      outcome_onPets, PetStore.outcome_add_of_id own, if_neg named]
    rfl
  obtain ⟨-, -, same⟩ := (visit_comm {} first second).1 apart
  refine ⟨apart, ?_, ?_, ?_, same.symm⟩
  · rw [stored]
    decide
  · rw [stored]
    decide
  · rw [stored]

end Store

end Petstore
