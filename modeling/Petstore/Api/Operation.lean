import Petstore.Api.Capability
import Petstore.Api.Invocation
import Petstore.Model.Decoding
import Petstore.Routing.Router

/-!
# Operations

The twenty operations of the service: how each is called, where its requests go, and which call its
inputs are bound to. Inputs are bound in the order in which the capability takes them, and the
first that cannot be bound is what is reported.
-/

namespace Petstore

/-- An operation of the service. -/
inductive Operation where
  | updatePet
  | addPet
  | findPetsByStatus
  | findPetsByTags
  | getPetById
  | updatePetWithForm
  | deletePet
  | uploadFile
  | getInventory
  | placeOrder
  | getOrderById
  | deleteOrder
  | createUser
  | createUsersWithArrayInput
  | createUsersWithListInput
  | loginUser
  | logoutUser
  | getUserByName
  | updateUser
  | deleteUser
  deriving DecidableEq, Repr, Inhabited

namespace Operation

/-- The name by which clients know an operation. -/
def name : Operation → String
  | updatePet => "updatePet"
  | addPet => "addPet"
  | findPetsByStatus => "findPetsByStatus"
  | findPetsByTags => "findPetsByTags"
  | getPetById => "getPetById"
  | updatePetWithForm => "updatePetWithForm"
  | deletePet => "deletePet"
  | uploadFile => "uploadFile"
  | getInventory => "getInventory"
  | placeOrder => "placeOrder"
  | getOrderById => "getOrderById"
  | deleteOrder => "deleteOrder"
  | createUser => "createUser"
  | createUsersWithArrayInput => "createUsersWithArrayInput"
  | createUsersWithListInput => "createUsersWithListInput"
  | loginUser => "loginUser"
  | logoutUser => "logoutUser"
  | getUserByName => "getUserByName"
  | updateUser => "updateUser"
  | deleteUser => "deleteUser"

/-! ## Routes -/

/-- The method of an operation's requests. -/
def method : Operation → Method
  | updatePet => .put
  | addPet => .post
  | findPetsByStatus => .get
  | findPetsByTags => .get
  | getPetById => .get
  | updatePetWithForm => .post
  | deletePet => .delete
  | uploadFile => .post
  | getInventory => .get
  | placeOrder => .post
  | getOrderById => .get
  | deleteOrder => .delete
  | createUser => .post
  | createUsersWithArrayInput => .post
  | createUsersWithListInput => .post
  | loginUser => .get
  | logoutUser => .get
  | getUserByName => .get
  | updateUser => .put
  | deleteUser => .delete

/-- The segments of the paths on which an operation is asked for. -/
def segments : Operation → List Segment
  | updatePet => [.literal "pet"]
  | addPet => [.literal "pet"]
  | findPetsByStatus => [.literal "pet", .literal "findByStatus"]
  | findPetsByTags => [.literal "pet", .literal "findByTags"]
  | getPetById => [.literal "pet", .param "petId"]
  | updatePetWithForm => [.literal "pet", .param "petId"]
  | deletePet => [.literal "pet", .param "petId"]
  | uploadFile => [.literal "pet", .param "petId", .literal "uploadImage"]
  | getInventory => [.literal "store", .literal "inventory"]
  | placeOrder => [.literal "store", .literal "order"]
  | getOrderById => [.literal "store", .literal "order", .param "orderId"]
  | deleteOrder => [.literal "store", .literal "order", .param "orderId"]
  | createUser => [.literal "user"]
  | createUsersWithArrayInput => [.literal "user", .literal "createWithArray"]
  | createUsersWithListInput => [.literal "user", .literal "createWithList"]
  | loginUser => [.literal "user", .literal "login"]
  | logoutUser => [.literal "user", .literal "logout"]
  | getUserByName => [.literal "user", .param "username"]
  | updateUser => [.literal "user", .param "username"]
  | deleteUser => [.literal "user", .param "username"]

/-- The template of an operation's paths. -/
def template (operation : Operation) : PathTemplate :=
  ⟨operation.segments⟩

/-- The route of an operation as it is declared. -/
def declaration (operation : Operation) : Declaration Operation where
  method := operation.method
  template := operation.template.text
  name := operation.name
  action := operation

/-- The operations on pets, in the order in which their routes are declared. -/
def onPets : List Operation :=
  [updatePet, addPet, findPetsByStatus, findPetsByTags, getPetById, updatePetWithForm, deletePet,
    uploadFile]

/-- The operations on the store, in the order in which their routes are declared. -/
def onStore : List Operation :=
  [getInventory, placeOrder, getOrderById, deleteOrder]

/-- The operations on users, in the order in which their routes are declared. -/
def onUsers : List Operation :=
  [createUser, createUsersWithArrayInput, createUsersWithListInput, loginUser, logoutUser,
    getUserByName, updateUser, deleteUser]

/-- The route of an operation once its declaration is accepted. -/
def route (operation : Operation) : Route Operation where
  method := operation.method
  template := operation.template
  name := operation.name
  action := operation

/-- The route tables of the service, or the first error in building one. -/
def tables : Except TableError (List (RouteTable Operation)) := do
  let pets ← RouteTable.build "pet" "/pet" (onPets.map declaration)
  let store ← RouteTable.build "store" "/store" (onStore.map declaration)
  let users ← RouteTable.build "user" "/user" (onUsers.map declaration)
  return [pets, store, users]

/-! ## Binding -/

/-- The call that an invocation of an operation comes to. -/
def bind (invocation : Invocation) : Operation → Except BindingError Call
  | updatePet => do
    return ⟨.updatePet (← invocation.json Pet.reader)⟩
  | addPet => do
    return ⟨.addPet (← invocation.json Pet.reader)⟩
  | findPetsByStatus => do
    return ⟨.findPetsByStatus (← invocation.requireQueryList "status")⟩
  | findPetsByTags => do
    return ⟨.findPetsByTags (← invocation.requireQueryList "tags")⟩
  | getPetById => do
    return ⟨.getPetById (← invocation.int64Param "petId")⟩
  | updatePetWithForm => do
    let petId ← invocation.int64Param "petId"
    let name := invocation.formField? "name"
    let status := invocation.formField? "status"
    return ⟨.updatePetWithForm petId name status⟩
  | deletePet => do
    return ⟨.deletePet (← invocation.int64Param "petId") (invocation.header? "api_key")⟩
  | uploadFile => do
    let petId ← invocation.int64Param "petId"
    return ⟨.uploadFile petId (invocation.queryValue? "additionalMetadata") invocation.body⟩
  | getInventory => return ⟨.getInventory⟩
  | placeOrder => do
    return ⟨.placeOrder (← invocation.json Order.reader)⟩
  | getOrderById => do
    return ⟨.getOrderById (← invocation.int64Param "orderId")⟩
  | deleteOrder => do
    return ⟨.deleteOrder (← invocation.int64Param "orderId")⟩
  | createUser => do
    return ⟨.createUser (← invocation.json User.reader)⟩
  | createUsersWithArrayInput => do
    return ⟨.createUsersWithArrayInput (← invocation.json (.list User.reader))⟩
  | createUsersWithListInput => do
    return ⟨.createUsersWithListInput (← invocation.json (.list User.reader))⟩
  | loginUser => do
    let username ← invocation.requireQuery "username"
    let password ← invocation.requireQuery "password"
    return ⟨.loginUser username password⟩
  | logoutUser => return ⟨.logoutUser⟩
  | getUserByName => do
    return ⟨.getUserByName (← invocation.textParam "username")⟩
  | updateUser => do
    let username ← invocation.textParam "username"
    let user ← invocation.json User.reader
    return ⟨.updateUser username user⟩
  | deleteUser => do
    return ⟨.deleteUser (← invocation.textParam "username")⟩

end Operation

end Petstore
