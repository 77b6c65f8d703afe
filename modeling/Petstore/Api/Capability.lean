import Petstore.Api.Failure
import Petstore.Api.Request
import Petstore.Model.Encoding
import Std.Data.ExtTreeMap

/-!
# Capabilities

What the controllers of the store can be asked for. A capability carries its inputs, and its index
is the kind of its result; controllers answer every capability, from a state and with a new state.
How a result is written as a reply depends on its kind alone.
-/

namespace Petstore

/-- The number of pets by the name of their status. -/
abbrev Inventory := Std.ExtTreeMap String Int32

/-- What capabilities result in. -/
inductive ResultKind where
  | pet
  | pets
  | upload
  | inventory
  | order
  | session
  | user
  | done
  deriving DecidableEq, Repr

/-- The results of a kind. -/
abbrev ResultKind.Value : ResultKind → Type
  | pet => Pet
  | pets => List Pet
  | upload => ApiResponse
  | inventory => Inventory
  | order => Order
  | session => String
  | user => User
  | done => Unit

/-- A request to the controllers, with its inputs, by the kind of its result. -/
inductive Capability : ResultKind → Type where
  | addPet (pet : Pet) : Capability .pet
  | updatePet (pet : Pet) : Capability .pet
  | findPetsByStatus (statuses : List String) : Capability .pets
  | findPetsByTags (tags : List String) : Capability .pets
  | getPetById (petId : Int64) : Capability .pet
  | updatePetWithForm (petId : Int64) (name status : Option String) : Capability .done
  | deletePet (petId : Int64) (apiKey : Option String) : Capability .done
  | uploadFile (petId : Int64) (additionalMetadata : Option String) (file : Bytes) :
      Capability .upload
  | getInventory : Capability .inventory
  | placeOrder (order : Order) : Capability .order
  | getOrderById (orderId : Int64) : Capability .order
  | deleteOrder (orderId : Int64) : Capability .done
  | createUser (user : User) : Capability .done
  | createUsersWithArrayInput (users : List User) : Capability .done
  | createUsersWithListInput (users : List User) : Capability .done
  | loginUser (username password : String) : Capability .session
  | logoutUser : Capability .done
  | getUserByName (username : String) : Capability .user
  | updateUser (username : String) (user : User) : Capability .done
  | deleteUser (username : String) : Capability .done

/-- The controllers of the store: an answer to every capability, with the state after it. -/
structure Controllers (σ : Type) where
  run : {kind : ResultKind} → Capability kind → σ → Except ControllerError kind.Value × σ

/-- The inventory as JSON. -/
def Inventory.toJson (inventory : Inventory) : Json :=
  .object (inventory.toList.map fun entry => (entry.1, .ofInt32 entry.2))

/-- The reply for a result: JSON with members sorted, or nothing to say. -/
def ResultKind.reply : (kind : ResultKind) → kind.Value → Reply
  | pet, (value : Pet) => .json value.toJson.sorted
  | pets, (value : List Pet) => .json (Json.ofList Pet.toJson value).sorted
  | upload, (value : ApiResponse) => .json value.toJson.sorted
  | inventory, (value : Inventory) => .json value.toJson.sorted
  | order, (value : Order) => .json value.toJson.sorted
  | session, (value : String) => .json (.string value)
  | user, (value : User) => .json value.toJson.sorted
  | done, _ => .empty

/-- A capability with its inputs, whatever the kind of its result. -/
structure Call where
  {kind : ResultKind}
  capability : Capability kind

/-- Make a call: a failure of the controllers is passed on, a result becomes a reply. -/
def Call.perform (call : Call) (controllers : Controllers σ) (state : σ) :
    Except DispatchError Reply × σ :=
  match controllers.run call.capability state with
  | (.ok result, state) => (.ok (call.kind.reply result), state)
  | (.error error, state) => (.error (.controller error), state)

end Petstore
