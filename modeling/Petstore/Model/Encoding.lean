import Petstore.Json.Basic
import Petstore.Model.Basic

/-!
# Models as JSON

Members come in the order in which the fields are declared; an absent optional field has no member.
-/

namespace Petstore

namespace Json

/-- A 64-bit integer. -/
def ofInt64 (n : Int64) : Json := ofInt n.toInt

/-- A 32-bit integer. -/
def ofInt32 (n : Int32) : Json := ofInt n.toInt

end Json

open Json

def PetStatus.toJson (status : PetStatus) : Json :=
  .string status.name

def OrderStatus.toJson (status : OrderStatus) : Json :=
  .string status.name

def Category.toJson (category : Category) : Json :=
  .object (member? "id" ofInt64 category.id ++ member? "name" .string category.name)

def Tag.toJson (tag : Tag) : Json :=
  .object (member? "id" ofInt64 tag.id ++ member? "name" .string tag.name)

def Pet.toJson (pet : Pet) : Json :=
  .object
    (member? "id" ofInt64 pet.id ++
      member? "category" Category.toJson pet.category ++
      [("name", .string pet.name),
        ("photoUrls", .array (pet.photoUrls.map .string)),
        ("tags", .array (pet.tags.map Tag.toJson))] ++
      member? "status" PetStatus.toJson pet.status)

def Order.toJson (order : Order) : Json :=
  .object
    (member? "id" ofInt64 order.id ++
      member? "petId" ofInt64 order.petId ++
      member? "quantity" ofInt32 order.quantity ++
      member? "shipDate" .string order.shipDate ++
      member? "status" OrderStatus.toJson order.status ++
      [("complete", .boolean order.complete)])

def User.toJson (user : User) : Json :=
  .object
    (member? "id" ofInt64 user.id ++
      [("username", .string user.username)] ++
      member? "firstName" .string user.firstName ++
      member? "lastName" .string user.lastName ++
      member? "email" .string user.email ++
      member? "password" .string user.password ++
      member? "phone" .string user.phone ++
      member? "userStatus" ofInt32 user.userStatus)

def ApiResponse.toJson (response : ApiResponse) : Json :=
  .object
    [("code", ofInt32 response.code),
      ("type", .string response.kind),
      ("message", .string response.message)]

/-- A list of values of one type. -/
def Json.ofList (encode : α → Json) (items : List α) : Json :=
  .array (items.map encode)

end Petstore
