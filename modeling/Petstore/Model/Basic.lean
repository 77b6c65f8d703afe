/-!
# What the store deals in

Pets with their category and tags, orders, users, and the answer to an upload.
-/

namespace Petstore

/-! ## Statuses -/

/-- Where a pet stands in the store. -/
inductive PetStatus where
  | available
  | pending
  | sold
  deriving DecidableEq, Repr, Inhabited

namespace PetStatus

/-- The name of a status. -/
def name : PetStatus → String
  | available => "available"
  | pending => "pending"
  | sold => "sold"

/-- Every status. -/
def all : List PetStatus := [available, pending, sold]

/-- The status of a name. -/
def ofName? (text : String) : Option PetStatus :=
  all.find? (·.name == text)

theorem ofName?_eq_some_iff {text : String} {status : PetStatus} :
    ofName? text = some status ↔ status.name = text := by
  constructor
  · intro h
    simpa using List.find?_some h
  · rintro rfl
    cases status <;> decide

/-- The complaint about a name that no status has. -/
def unknownText (text : String) : String :=
  s!"unknown pet status `{text}`"

end PetStatus

/-- How far an order has come. -/
inductive OrderStatus where
  | placed
  | approved
  | delivered
  deriving DecidableEq, Repr, Inhabited

namespace OrderStatus

/-- The name of a status. -/
def name : OrderStatus → String
  | placed => "placed"
  | approved => "approved"
  | delivered => "delivered"

/-- Every status. -/
def all : List OrderStatus := [placed, approved, delivered]

end OrderStatus

/-! ## Records -/

/-- The kind of animal. -/
structure Category where
  id : Option Int64 := none
  name : Option String := none
  deriving DecidableEq, Repr, Inhabited

/-- A label that pets can be found by. -/
structure Tag where
  id : Option Int64 := none
  name : Option String := none
  deriving DecidableEq, Repr, Inhabited

/-- A pet for sale. -/
structure Pet where
  id : Option Int64 := none
  category : Option Category := none
  name : String := ""
  photoUrls : List String := []
  tags : List Tag := []
  status : Option PetStatus := none
  deriving DecidableEq, Repr, Inhabited

/-- An order for a pet. -/
structure Order where
  id : Option Int64 := none
  petId : Option Int64 := none
  quantity : Option Int32 := none
  shipDate : Option String := none
  status : Option OrderStatus := none
  complete : Bool := false
  deriving DecidableEq, Repr, Inhabited

/-- A user of the store. -/
structure User where
  id : Option Int64 := none
  username : String := ""
  firstName : Option String := none
  lastName : Option String := none
  email : Option String := none
  password : Option String := none
  phone : Option String := none
  userStatus : Option Int32 := none
  deriving DecidableEq, Repr, Inhabited

/-- The answer to an upload. -/
structure ApiResponse where
  code : Int32 := 0
  kind : String := ""
  message : String := ""
  deriving DecidableEq, Repr, Inhabited

end Petstore
