import Petstore.Api.Capability
import Petstore.Store.Orders
import Petstore.Store.Pets
import Petstore.Store.Users

/-!
# The store behind the controllers

Pets, orders and users together answer every capability, each by an action on the part of the store
that it concerns.
-/

namespace Petstore

/-- All that the store keeps. -/
structure Store where
  pets : PetStore := {}
  orders : OrderStore := {}
  users : UserStore := {}

namespace Store

/-- The number of pets of each status that some pet has. -/
def inventory (store : Store) : Inventory :=
  store.pets.all.foldl
    (fun counts pet =>
      match pet.status with
      | some status => counts.insert status.name (counts.getD status.name 0 + 1)
      | none => counts)
    ∅

/-- An action on the pets. -/
def onPets : Action PetStore α → Action Store α :=
  Action.within (·.pets) fun store pets => { store with pets }

/-- An action on the orders. -/
def onOrders : Action OrderStore α → Action Store α :=
  Action.within (·.orders) fun store orders => { store with orders }

/-- An action on the users. -/
def onUsers : Action UserStore α → Action Store α :=
  Action.within (·.users) fun store users => { store with users }

/-- The action that answers a capability. A session that is opened gets the given identity. -/
def answer (session : String) : {kind : ResultKind} → Capability kind → Action Store kind.Value
  | _, .addPet pet => onPets (PetStore.add pet)
  | _, .updatePet pet => onPets (PetStore.update pet)
  | _, .findPetsByStatus statuses => onPets (PetStore.findByStatus statuses)
  | _, .findPetsByTags tags => onPets (PetStore.findByTags tags)
  | _, .getPetById petId => onPets (PetStore.find petId)
  | _, .updatePetWithForm petId name status => onPets (PetStore.updateWithForm petId name status)
  | _, .deletePet petId _ => onPets (PetStore.delete petId)
  | _, .uploadFile petId metadata file => onPets (PetStore.upload petId metadata file)
  | _, .getInventory => inventory <$> get
  | _, .placeOrder order => onOrders (OrderStore.place order)
  | _, .getOrderById orderId => onOrders (OrderStore.find orderId)
  | _, .deleteOrder orderId => onOrders (OrderStore.delete orderId)
  | _, .createUser user => onUsers (UserStore.create user)
  | _, .createUsersWithArrayInput users => onUsers (UserStore.createAll users)
  | _, .createUsersWithListInput users => onUsers (UserStore.createAll users)
  | _, .loginUser username password => onUsers (UserStore.login session username password)
  | _, .logoutUser => pure ()
  | _, .getUserByName username => onUsers (UserStore.find username)
  | _, .updateUser username user => onUsers (UserStore.update username user)
  | _, .deleteUser username => onUsers (UserStore.delete username)

/-- The controllers that keep everything in the store. -/
def controllers (session : String) : Controllers Store where
  run capability := (answer session capability).outcome

end Store

end Petstore
