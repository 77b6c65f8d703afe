import Petstore.Json.Record
import Petstore.Model.Basic

/-!
# Models from JSON

One reader for each model. Optional fields may be `null`; every field but the name of a pet may be
left out.
-/

namespace Petstore

open Json (Reader Record Field)

def PetStatus.reader : Reader PetStatus :=
  .choice (all.map fun status => (status.name, status))

def OrderStatus.reader : Reader OrderStatus :=
  .choice (all.map fun status => (status.name, status))

def Category.record : Record Category where
  name := "Category"
  fields := [
    .plain "id" (.optional .int64) fun id category => { category with id },
    .plain "name" (.optional .string) fun name category => { category with name }]
  blank := {}

def Tag.record : Record Tag where
  name := "Tag"
  fields := [
    .plain "id" (.optional .int64) fun id tag => { tag with id },
    .plain "name" (.optional .string) fun name tag => { tag with name }]
  blank := {}

def Pet.record : Record Pet where
  name := "Pet"
  fields := [
    .plain "id" (.optional .int64) fun id pet => { pet with id },
    .plain "category" (.optional Category.record.reader) fun category pet => { pet with category },
    .mandatory "name" .string fun name pet => { pet with name },
    .plain "photoUrls" (.list .string) fun photoUrls pet => { pet with photoUrls },
    .plain "tags" (.list Tag.record.reader) fun tags pet => { pet with tags },
    .plain "status" (.optional PetStatus.reader) fun status pet => { pet with status }]
  blank := {}

def Order.record : Record Order where
  name := "Order"
  fields := [
    .plain "id" (.optional .int64) fun id order => { order with id },
    .plain "petId" (.optional .int64) fun petId order => { order with petId },
    .plain "quantity" (.optional .int32) fun quantity order => { order with quantity },
    .plain "shipDate" (.optional .string) fun shipDate order => { order with shipDate },
    .plain "status" (.optional OrderStatus.reader) fun status order => { order with status },
    .plain "complete" .boolean fun complete order => { order with complete }]
  blank := {}

def User.record : Record User where
  name := "User"
  fields := [
    .plain "id" (.optional .int64) fun id user => { user with id },
    .plain "username" .string fun username user => { user with username },
    .plain "firstName" (.optional .string) fun firstName user => { user with firstName },
    .plain "lastName" (.optional .string) fun lastName user => { user with lastName },
    .plain "email" (.optional .string) fun email user => { user with email },
    .plain "password" (.optional .string) fun password user => { user with password },
    .plain "phone" (.optional .string) fun phone user => { user with phone },
    .plain "userStatus" (.optional .int32) fun userStatus user => { user with userStatus }]
  blank := {}

def ApiResponse.record : Record ApiResponse where
  name := "ApiResponse"
  fields := [
    .plain "code" .int32 fun code response => { response with code },
    .plain "type" .string fun kind response => { response with kind },
    .plain "message" .string fun message response => { response with message }]
  blank := {}

def Category.reader : Reader Category := record.reader
def Tag.reader : Reader Tag := record.reader
def Pet.reader : Reader Pet := record.reader
def Order.reader : Reader Order := record.reader
def User.reader : Reader User := record.reader
def ApiResponse.reader : Reader ApiResponse := record.reader

end Petstore
