import Petstore.Proofs.Store.Atomicity

/-!
# What one call does to the pets and to the orders

Each operation that writes comes down to one equation, which says for every store what it answers
and what it leaves behind. The steps gather them: whatever a capability is, it keeps the pets or
makes one of five writes to them (`PetStore.Step`), and it keeps the orders or makes one of two
writes (`OrderStore.Step`). So a property that holds along every run is one that these writes keep.
-/

namespace Petstore

/-! ## Maps -/

section Maps

variable {κ β : Type} {cmp : κ → κ → Ordering} [Std.TransCmp cmp] [Std.LawfulEqCmp cmp]
  [DecidableEq κ]

theorem getElem?_insert_ite (map : Std.ExtTreeMap κ β cmp) (key other : κ) (value : β) :
    (map.insert key value)[other]? = if key = other then some value else map[other]? := by
  simp [Std.ExtTreeMap.getElem?_insert]

theorem getElem?_erase_ite (map : Std.ExtTreeMap κ β cmp) (key other : κ) :
    (map.erase key)[other]? = if key = other then none else map[other]? := by
  simp [Std.ExtTreeMap.getElem?_erase]

theorem getElem?_insert_of_ne {map : Std.ExtTreeMap κ β cmp} {key other : κ} (value : β)
    (different : key ≠ other) : (map.insert key value)[other]? = map[other]? := by
  rw [getElem?_insert_ite, if_neg different]

theorem getElem?_erase_of_ne {map : Std.ExtTreeMap κ β cmp} {key other : κ}
    (different : key ≠ other) : (map.erase key)[other]? = map[other]? := by
  rw [getElem?_erase_ite, if_neg different]

theorem eq_or_held_of_insert {map : Std.ExtTreeMap κ β cmp} {key other : κ} {value found : β}
    (held : (map.insert key value)[other]? = some found) :
    key = other ∧ value = found ∨ map[other]? = some found := by
  rw [getElem?_insert_ite] at held
  split at held
  · next same => exact Or.inl ⟨same, Option.some_inj.mp held⟩
  · exact Or.inr held

theorem held_of_erase {map : Std.ExtTreeMap κ β cmp} {key other : κ} {found : β}
    (held : (map.erase key)[other]? = some found) : map[other]? = some found := by
  rw [getElem?_erase_ite] at held
  split at held
  · cases held
  · exact held

end Maps

/-! ## Pets -/

/-- The name of the pet has a character that is not blank. -/
def Pet.Named (pet : Pet) : Prop :=
  Text.trim pet.name ≠ ""

instance (pet : Pet) : Decidable pet.Named :=
  inferInstanceAs (Decidable (Text.trim pet.name ≠ ""))

namespace PetStore

open Petstore.Action

/-- The next id once an id has been passed that came from outside. -/
def nextBeyond (next id : Int64) : Int64 :=
  if next < successor id then successor id else next

/-! ### Outcomes -/

theorem checkName_bind {α : Type} (pet : Pet) (next : Unit → Action PetStore α)
    (store : PetStore) :
    outcome (liftM (checkName pet) >>= next) store =
      if Text.trim pet.name = "" then (.error (.validation "pet name must not be empty"), store)
      else outcome (next ()) store := by
  rw [outcome_liftM_bind, checkName]
  by_cases blank : Text.trim pet.name = ""
  · rw [if_pos blank, if_pos blank]
  · rw [if_neg blank, if_neg blank]

theorem outcome_find (petId : Int64) (store : PetStore) :
    outcome (find petId) store =
      (match store.pets[petId]? with
        | some pet => .ok pet
        | none => .error (noPet petId), store) := by
  rw [find, outcome_get_bind]
  cases held : store.pets[petId]? with
  | none => rfl
  | some pet => rfl

/-- An id is given out as long as the counter can move on. -/
theorem outcome_allocateId (store : PetStore) :
    outcome allocateId store =
      if store.nextId = Int64.maxValue then (.error (.internal "pet id space exhausted"), store)
      else (.ok store.nextId, { store with nextId := store.nextId + 1 }) := by
  rw [allocateId, outcome_get_bind]
  dsimp only
  split
  · rfl
  · rfl

/-- A pet with an id of its own is stored under it, and the counter moves beyond it. -/
theorem outcome_add_of_id {pet : Pet} {id : Int64} (own : pet.id = some id) (store : PetStore) :
    outcome (add pet) store =
      if Text.trim pet.name = "" then (.error (.validation "pet name must not be empty"), store)
      else (.ok pet, ⟨store.pets.insert id pet, nextBeyond store.nextId id⟩) := by
  have same : { pet with id := some id } = pet := by rw [← own]
  rw [add, checkName_bind, claimId, own, ← same]
  rfl

/-- A pet without an id is stored under the next one, if the counter can move on. -/
theorem outcome_add_of_no_id {pet : Pet} (unnumbered : pet.id = none) (store : PetStore) :
    outcome (add pet) store =
      if Text.trim pet.name = "" then (.error (.validation "pet name must not be empty"), store)
      else if store.nextId = Int64.maxValue then
        (.error (.internal "pet id space exhausted"), store)
      else
        let added := { pet with id := some store.nextId }
        (.ok added, ⟨store.pets.insert store.nextId added, store.nextId + 1⟩) := by
  rw [add, checkName_bind, claimId, unnumbered, outcome_bind, outcome_allocateId]
  by_cases full : store.nextId = Int64.maxValue
  · rw [if_pos full, if_pos full]
  · rw [if_neg full, if_neg full]
    rfl

/-- A pet replaces the one that is stored under its id. -/
theorem outcome_update (pet : Pet) (store : PetStore) :
    outcome (update pet) store =
      match pet.id with
      | none => (.error (.invalidInput "pet id is required"), store)
      | some id =>
        if Text.trim pet.name = "" then (.error (.validation "pet name must not be empty"), store)
        else match store.pets[id]? with
          | none => (.error (noPet id), store)
          | some _ => (.ok pet, { store with pets := store.pets.insert id pet }) := by
  rw [update]
  cases own : pet.id with
  | none => rfl
  | some id =>
    simp only
    rw [checkName_bind, outcome_bind, discard_eq_map, outcome_map, outcome_find]
    cases held : store.pets[id]? with
    | none => rfl
    | some old => rfl

/-- A form changes the name or the status of a stored pet, without a look at the name. -/
theorem outcome_updateWithForm (petId : Int64) (name status : Option String) (store : PetStore) :
    outcome (updateWithForm petId name status) store =
      match readStatus? status with
      | .error error => (.error error, store)
      | .ok status =>
        match store.pets[petId]? with
        | none => (.error (noPet petId), store)
        | some pet =>
          let changed := { pet with name := name.getD pet.name, status := status.or pet.status }
          (.ok ⟨⟩, { store with pets := store.pets.insert petId changed }) := by
  rw [updateWithForm, outcome_liftM_bind]
  cases readStatus? status with
  | error error => rfl
  | ok status =>
    simp only
    rw [outcome_bind, outcome_find]
    cases held : store.pets[petId]? with
    | none => rfl
    | some old => rfl

theorem outcome_delete (petId : Int64) (store : PetStore) :
    outcome (delete petId) store =
      (if store.pets[petId]?.isNone then .error (noPet petId) else .ok ⟨⟩,
        { store with pets := store.pets.erase petId }) := by
  rw [delete, remove, outcome_bind, outcome_modifyGet]
  dsimp only
  split
  · rfl
  · rfl

/-! ### Steps -/

/-- What a capability may do to the pets. -/
inductive Step (store : PetStore) : {kind : ResultKind} → Capability kind → PetStore → Prop where
  | keep {kind : ResultKind} (capability : Capability kind) : Step store capability store
  | claim {pet : Pet} {id : Int64} (own : pet.id = some id) (named : pet.Named) :
      Step store (.addPet pet) ⟨store.pets.insert id pet, nextBeyond store.nextId id⟩
  | allocate {pet : Pet} (unnumbered : pet.id = none) (named : pet.Named)
      (room : store.nextId ≠ Int64.maxValue) :
      Step store (.addPet pet)
        ⟨store.pets.insert store.nextId { pet with id := some store.nextId }, store.nextId + 1⟩
  | replace {pet old : Pet} {id : Int64} (own : pet.id = some id) (named : pet.Named)
      (held : store.pets[id]? = some old) :
      Step store (.updatePet pet) { store with pets := store.pets.insert id pet }
  | amend {petId : Int64} {name status : Option String} {old : Pet}
      (held : store.pets[petId]? = some old) (newStatus : Option PetStatus) :
      Step store (.updatePetWithForm petId name status)
        { store with
          pets := store.pets.insert petId
            { old with name := name.getD old.name, status := newStatus } }
  | remove (petId : Int64) (apiKey : Option String) :
      Step store (.deletePet petId apiKey) { store with pets := store.pets.erase petId }

theorem Step.of_readOnly {α : Type} {action : Action PetStore α} (reads : action.ReadOnly)
    {kind : ResultKind} (capability : Capability kind) (store : PetStore) :
    Step store capability (outcome action store).2 := by
  rw [reads store]
  exact .keep capability

theorem step_add (pet : Pet) (store : PetStore) :
    Step store (.addPet pet) (outcome (add pet) store).2 := by
  cases own : pet.id with
  | some id =>
    rw [outcome_add_of_id own]
    split
    · exact .keep _
    · next named => exact .claim own named
  | none =>
    rw [outcome_add_of_no_id own]
    split
    · exact .keep _
    · next named =>
      split
      · exact .keep _
      · next room => exact .allocate own named room

theorem step_update (pet : Pet) (store : PetStore) :
    Step store (.updatePet pet) (outcome (update pet) store).2 := by
  rw [outcome_update]
  split
  · exact .keep _
  · next id own =>
    split
    · exact .keep _
    · next named =>
      split
      · exact .keep _
      · next old held => exact .replace own named held

theorem step_updateWithForm (petId : Int64) (name status : Option String) (store : PetStore) :
    Step store (.updatePetWithForm petId name status)
      (outcome (updateWithForm petId name status) store).2 := by
  rw [outcome_updateWithForm]
  split
  · exact .keep _
  · split
    · exact .keep _
    · next old held => exact .amend held _

theorem step_delete (petId : Int64) (apiKey : Option String) (store : PetStore) :
    Step store (.deletePet petId apiKey) (outcome (delete petId) store).2 := by
  rw [outcome_delete]
  exact .remove petId apiKey

end PetStore

/-! ## Orders -/

/-- The capability is to place an order. -/
def Capability.PlacesOrder {kind : ResultKind} : Capability kind → Prop
  | .placeOrder _ => True
  | _ => False

namespace OrderStore

open Petstore.Action

/-- The order as it is stored under an id. -/
def placed (order : Order) (orderId : Int64) : Order :=
  { order with id := some orderId, status := order.status.or (some .placed) }

/-- An order is stored under the next id, and the counter moves on. -/
theorem outcome_place (order : Order) (store : OrderStore) :
    outcome (place order) store =
      if order.quantity.any (· ≤ 0) then (.error (.validation "quantity must be positive"), store)
      else
        (.ok (placed order store.nextId),
          ⟨store.orders.insert store.nextId (placed order store.nextId), store.nextId + 1⟩) := by
  rw [place, outcome_liftM_bind, checkQuantity]
  by_cases bad : order.quantity.any (· ≤ 0) = true
  · rw [if_pos bad, if_pos bad]
  · rw [if_neg bad, if_neg bad]
    rfl

theorem outcome_find (orderId : Int64) (store : OrderStore) :
    outcome (find orderId) store =
      (match store.orders[orderId]? with
        | some order => .ok order
        | none => .error (noOrder orderId), store) := by
  rw [find, outcome_get_bind]
  cases held : store.orders[orderId]? with
  | none => rfl
  | some order => rfl

theorem outcome_delete (orderId : Int64) (store : OrderStore) :
    outcome (delete orderId) store =
      (if store.orders[orderId]?.isNone then .error (noOrder orderId) else .ok ⟨⟩,
        { store with orders := store.orders.erase orderId }) := by
  rw [delete, remove, outcome_bind, outcome_modifyGet]
  dsimp only
  split
  · rfl
  · rfl

/-- What a capability may answer and do to the orders. -/
inductive Step (store : OrderStore) : {kind : ResultKind} → Capability kind →
    Except ControllerError kind.Value → OrderStore → Prop where
  | keep {kind : ResultKind} {capability : Capability kind} (other : ¬ capability.PlacesOrder)
      (result : Except ControllerError kind.Value) : Step store capability result store
  | refuse (order : Order) (error : ControllerError) :
      Step store (.placeOrder order) (.error error) store
  | place (order : Order) (positive : ¬ order.quantity.any (· ≤ 0)) :
      Step store (.placeOrder order) (.ok (placed order store.nextId))
        ⟨store.orders.insert store.nextId (placed order store.nextId), store.nextId + 1⟩
  | remove (orderId : Int64) (result : Except ControllerError Unit) :
      Step store (.deleteOrder orderId) result { store with orders := store.orders.erase orderId }

theorem step_place (order : Order) (store : OrderStore) :
    Step store (.placeOrder order) (outcome (place order) store).1
      (outcome (place order) store).2 := by
  rw [outcome_place]
  split
  · exact .refuse order _
  · next positive => exact .place order positive

theorem step_delete (orderId : Int64) (store : OrderStore) :
    Step store (.deleteOrder orderId) (outcome (delete orderId) store).1
      (outcome (delete orderId) store).2 := by
  rw [outcome_delete]
  exact .remove orderId _

end OrderStore

/-! ## The whole store -/

namespace Store

open Petstore.Action

variable {α : Type}

theorem outcome_onPets (action : Action PetStore α) (store : Store) :
    (onPets action).outcome store =
      ((action.outcome store.pets).1, { store with pets := (action.outcome store.pets).2 }) := rfl

theorem outcome_onOrders (action : Action OrderStore α) (store : Store) :
    (onOrders action).outcome store =
      ((action.outcome store.orders).1,
        { store with orders := (action.outcome store.orders).2 }) := rfl

theorem outcome_onUsers (action : Action UserStore α) (store : Store) :
    (onUsers action).outcome store =
      ((action.outcome store.users).1,
        { store with users := (action.outcome store.users).2 }) := rfl

theorem pets_onPets (action : Action PetStore α) (store : Store) :
    ((onPets action).outcome store).2.pets = (action.outcome store.pets).2 := rfl

theorem users_onUsers (action : Action UserStore α) (store : Store) :
    ((onUsers action).outcome store).2.users = (action.outcome store.users).2 := rfl

/-- Every capability keeps the pets or makes one of the five writes. -/
theorem step_pets (session : String) {kind : ResultKind} (capability : Capability kind)
    (store : Store) :
    PetStore.Step store.pets capability ((answer session capability).outcome store).2.pets := by
  cases capability with
  | addPet pet =>
    rw [answer, pets_onPets]
    exact PetStore.step_add pet store.pets
  | updatePet pet =>
    rw [answer, pets_onPets]
    exact PetStore.step_update pet store.pets
  | updatePetWithForm petId name status =>
    rw [answer, pets_onPets]
    exact PetStore.step_updateWithForm petId name status store.pets
  | deletePet petId apiKey =>
    rw [answer, pets_onPets]
    exact PetStore.step_delete petId apiKey store.pets
  | findPetsByStatus statuses =>
    rw [answer, pets_onPets]
    exact .of_readOnly (PetStore.readOnly_findByStatus statuses) _ store.pets
  | findPetsByTags tags =>
    rw [answer, pets_onPets]
    exact .of_readOnly (PetStore.readOnly_findByTags tags) _ store.pets
  | getPetById petId =>
    rw [answer, pets_onPets]
    exact .of_readOnly (PetStore.readOnly_find petId) _ store.pets
  | uploadFile petId metadata file =>
    rw [answer, pets_onPets]
    exact .of_readOnly (PetStore.readOnly_upload petId metadata file) _ store.pets
  | getInventory =>
    rw [answer, outcome_map]
    exact .keep _
  | logoutUser => exact .keep _
  | placeOrder | getOrderById | deleteOrder =>
    rw [answer, outcome_onOrders]
    exact .keep _
  | createUser | createUsersWithArrayInput | createUsersWithListInput | loginUser | getUserByName
  | updateUser | deleteUser =>
    rw [answer, outcome_onUsers]
    exact .keep _

/-- Every capability keeps the orders or makes one of the two writes. -/
theorem step_orders (session : String) {kind : ResultKind} (capability : Capability kind)
    (store : Store) :
    OrderStore.Step store.orders capability ((answer session capability).outcome store).1
      ((answer session capability).outcome store).2.orders := by
  cases capability with
  | placeOrder order =>
    rw [answer, outcome_onOrders]
    exact OrderStore.step_place order store.orders
  | deleteOrder orderId =>
    rw [answer, outcome_onOrders]
    exact OrderStore.step_delete orderId store.orders
  | getOrderById orderId =>
    rw [answer, outcome_onOrders, OrderStore.readOnly_find orderId store.orders]
    exact .keep id _
  | getInventory =>
    rw [answer, outcome_map]
    exact .keep id _
  | logoutUser => exact .keep id _
  | addPet | updatePet | findPetsByStatus | findPetsByTags | getPetById | updatePetWithForm
  | deletePet | uploadFile =>
    rw [answer, outcome_onPets]
    exact .keep id _
  | createUser | createUsersWithArrayInput | createUsersWithListInput | loginUser | getUserByName
  | updateUser | deleteUser =>
    rw [answer, outcome_onUsers]
    exact .keep id _

end Store

end Petstore
