import Petstore.Api.Capability
import Petstore.Text.Hex

/-!
# Recording controllers

Controllers that keep no store: they write down what they are asked for, and answer with something
plain, or with a failure that was fixed beforehand. They show what a request was bound to.
-/

namespace Petstore

/-- What controllers were asked for: the name of the capability and its inputs by name. -/
structure Recorded where
  capability : String
  arguments : List (String × Json)

namespace Recorded

/-- A text that may be absent. -/
def ofText? : Option String → Json
  | some text => .string text
  | none => .null

/-- A list of texts. -/
def ofTexts (texts : List String) : Json :=
  .ofList .string texts

/-- The record of a capability with its inputs. -/
def ofCapability : Capability kind → Recorded
  | .addPet pet => ⟨"add_pet", [("pet", pet.toJson)]⟩
  | .updatePet pet => ⟨"update_pet", [("pet", pet.toJson)]⟩
  | .findPetsByStatus statuses => ⟨"find_pets_by_status", [("statuses", ofTexts statuses)]⟩
  | .findPetsByTags tags => ⟨"find_pets_by_tags", [("tags", ofTexts tags)]⟩
  | .getPetById petId => ⟨"get_pet_by_id", [("pet_id", .ofInt64 petId)]⟩
  | .updatePetWithForm petId name status =>
    ⟨"update_pet_with_form",
      [("pet_id", .ofInt64 petId), ("name", ofText? name), ("status", ofText? status)]⟩
  | .deletePet petId apiKey =>
    ⟨"delete_pet", [("pet_id", .ofInt64 petId), ("api_key", ofText? apiKey)]⟩
  | .uploadFile petId metadata file =>
    ⟨"upload_file",
      [("pet_id", .ofInt64 petId), ("additional_metadata", ofText? metadata),
        ("file_hex", .string (Text.hex file))]⟩
  | .getInventory => ⟨"get_inventory", []⟩
  | .placeOrder order => ⟨"place_order", [("order", order.toJson)]⟩
  | .getOrderById orderId => ⟨"get_order_by_id", [("order_id", .ofInt64 orderId)]⟩
  | .deleteOrder orderId => ⟨"delete_order", [("order_id", .ofInt64 orderId)]⟩
  | .createUser user => ⟨"create_user", [("user", user.toJson)]⟩
  | .createUsersWithArrayInput users =>
    ⟨"create_users_with_array_input", [("users", .ofList User.toJson users)]⟩
  | .createUsersWithListInput users =>
    ⟨"create_users_with_list_input", [("users", .ofList User.toJson users)]⟩
  | .loginUser username password =>
    ⟨"login_user", [("username", .string username), ("password", .string password)]⟩
  | .logoutUser => ⟨"logout_user", []⟩
  | .getUserByName username => ⟨"get_user_by_name", [("username", .string username)]⟩
  | .updateUser username user =>
    ⟨"update_user", [("username", .string username), ("user", user.toJson)]⟩
  | .deleteUser username => ⟨"delete_user", [("username", .string username)]⟩

/-- The record as JSON. -/
def toJson (recorded : Recorded) : Json :=
  .object [("args", .object recorded.arguments), ("capability", .string recorded.capability)]

end Recorded

/-- The plain result of a capability. -/
def Capability.plainResult : Capability kind → kind.Value
  | .addPet pet => pet
  | .updatePet pet => pet
  | .findPetsByStatus _ => []
  | .findPetsByTags _ => []
  | .getPetById petId => { id := some petId, name := "stub" }
  | .updatePetWithForm .. => ()
  | .deletePet .. => ()
  | .uploadFile .. => { code := 200, kind := "stub" }
  | .getInventory => (∅ : Inventory).insert "available" 3
  | .placeOrder order => order
  | .getOrderById orderId => { id := some orderId }
  | .deleteOrder _ => ()
  | .createUser _ => ()
  | .createUsersWithArrayInput _ => ()
  | .createUsersWithListInput _ => ()
  | .loginUser .. => "token"
  | .logoutUser => ()
  | .getUserByName username => { username }
  | .updateUser .. => ()
  | .deleteUser _ => ()

/-- Controllers that write down what they are asked for, and then fail as told or answer plainly. -/
def Controllers.recording (failure : Option ControllerError) : Controllers (List Recorded) where
  run capability recorded :=
    let result := match failure with
      | some error => .error error
      | none => .ok capability.plainResult
    (result, recorded ++ [.ofCapability capability])

end Petstore
