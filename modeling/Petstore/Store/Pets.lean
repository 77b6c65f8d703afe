import Petstore.Model.Basic
import Petstore.Store.Action
import Petstore.Text.Blank
import Std.Data.ExtTreeMap

/-!
# The pets of the store

Pets by id, with the next id to give out.
-/

namespace Petstore

/-- The pets of the store and the next id to give out. -/
structure PetStore where
  pets : Std.ExtTreeMap Int64 Pet := ∅
  nextId : Int64 := 1

namespace PetStore

/-- The complaint about an id that no pet has. -/
def noPet (petId : Int64) : ControllerError :=
  .notFound s!"pet {petId.toInt}"

/-- A pet's name has to have a character that is not blank. -/
def checkName (pet : Pet) : Except ControllerError Unit :=
  if Text.trim pet.name = "" then .error (.validation "pet name must not be empty") else .ok ()

/-- All pets in the order of their ids. -/
def all (store : PetStore) : List Pet :=
  store.pets.toList.map (·.2)

/-- The id after a given one, which stays where the ids end. -/
def successor (id : Int64) : Int64 :=
  if id = Int64.maxValue then id else id + 1

/-! ## Single steps -/

/-- Give out an id, as long as there is one after it. -/
def allocateId : Action PetStore Int64 := do
  let store ← get
  if store.nextId = Int64.maxValue then throw (.internal "pet id space exhausted")
  set { store with nextId := store.nextId + 1 }
  return store.nextId

/-- Move the next id beyond an id that is given from outside. -/
def passId (id : Int64) : Action PetStore Unit :=
  modify fun store =>
    { store with
      nextId := if store.nextId < successor id then successor id else store.nextId }

/-- Put a pet in the place of an id. -/
def put (petId : Int64) (pet : Pet) : Action PetStore Unit :=
  modify fun store => { store with pets := store.pets.insert petId pet }

/-- Take away the pet of an id, if there is one. -/
def remove (petId : Int64) : Action PetStore (Option Pet) :=
  modifyGet fun store => (store.pets[petId]?, { store with pets := store.pets.erase petId })

/-- The pet of an id. -/
def find (petId : Int64) : Action PetStore Pet := do
  match (← get).pets[petId]? with
  | some pet => return pet
  | none => throw (noPet petId)

/-! ## Operations -/

/-- The id under which a pet is added: its own, or a new one. -/
def claimId (pet : Pet) : Action PetStore Int64 := do
  match pet.id with
  | some id =>
    passId id
    return id
  | none => allocateId

/-- Add a pet, under its own id or under a new one. -/
def add (pet : Pet) : Action PetStore Pet := do
  checkName pet
  let id ← claimId pet
  let pet := { pet with id := some id }
  put id pet
  return pet

/-- Replace the pet of an id. -/
def update (pet : Pet) : Action PetStore Pet := do
  match pet.id with
  | none => throw (.invalidInput "pet id is required")
  | some id =>
    checkName pet
    discard (find id)
    put id pet
    return pet

/-- The status of a name. -/
def readStatus (name : String) : Except ControllerError PetStatus :=
  match PetStatus.ofName? name with
  | some status => .ok status
  | none => .error (.invalidInput (PetStatus.unknownText name))

/-- The statuses of several names. -/
def readStatuses (names : List String) : Except ControllerError (List PetStatus) :=
  names.mapM readStatus

/-- The status of a name that may be absent. -/
def readStatus? (name : Option String) : Except ControllerError (Option PetStatus) :=
  name.mapM readStatus

/-- The pets with one of the given statuses. -/
def findByStatus (statuses : List String) : Action PetStore (List Pet) := do
  let wanted ← readStatuses statuses
  return (← get).all.filter fun pet => pet.status.any wanted.contains

/-- The pets that carry one of the given tags. -/
def findByTags (tags : List String) : Action PetStore (List Pet) := do
  return (← get).all.filter fun pet => pet.tags.any fun tag => tag.name.any tags.contains

/-- Give a pet another name or another status, or both. -/
def updateWithForm (petId : Int64) (name status : Option String) : Action PetStore Unit := do
  let status ← readStatus? status
  let pet ← find petId
  put petId { pet with name := name.getD pet.name, status := status.or pet.status }

/-- Remove a pet. -/
def delete (petId : Int64) : Action PetStore Unit := do
  if (← remove petId).isNone then throw (noPet petId)

/-- Take a file for a pet; only its size is told. -/
def upload (petId : Int64) (metadata : Option String) (file : Bytes) :
    Action PetStore ApiResponse := do
  discard (find petId)
  let told := metadata.getD ""
  return {
    code := 200
    kind := "unknown"
    message := s!"additionalMetadata: {told}\nFile uploaded, {file.length} bytes" }

end PetStore

end Petstore
