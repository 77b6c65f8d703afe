/-!
# JSON values

A value keeps the order of its object members, so one type serves both written forms that the
service has: models write their members in declaration order, replies write them sorted by name.
`Json.sorted` goes from the first to the second.
-/

namespace Petstore

/-- A JSON number: an integer, or a double. -/
inductive Number where
  | integer (n : Int)
  | float (x : Float)
  deriving Inhabited

/-- A JSON value. -/
inductive Json where
  | null
  | boolean (b : Bool)
  | number (n : Number)
  | string (s : String)
  | array (items : List Json)
  | object (members : List (String × Json))
  deriving Inhabited

namespace Json

/-- An integer as a JSON value. -/
def ofInt (n : Int) : Json := .number (.integer n)

/-- A member whose value is present, or nothing. -/
def member? (name : String) (encode : α → Json) : Option α → List (String × Json)
  | some value => [(name, encode value)]
  | none => []

/-! ## Sorted members -/

/-- Put a member in its place by name; a member of the same name that is already there stays. -/
def placeMember (name : String) (value : Json) : List (String × Json) → List (String × Json)
  | [] => [(name, value)]
  | (other, stored) :: rest =>
    if name < other then (name, value) :: (other, stored) :: rest
    else if name = other then (other, stored) :: rest
    else (other, stored) :: placeMember name value rest

mutual

/-- The value with the members of every object sorted by name. Of members with one name the last
counts. -/
def sorted : Json → Json
  | .array items => .array (sortedItems items)
  | .object members => .object (sortedMembers members)
  | .null => .null
  | .boolean b => .boolean b
  | .number n => .number n
  | .string s => .string s

/-- The items, each sorted. -/
def sortedItems : List Json → List Json
  | [] => []
  | item :: items => sorted item :: sortedItems items

/-- The members, each sorted, in the order of their names. -/
def sortedMembers : List (String × Json) → List (String × Json)
  | [] => []
  | (name, value) :: members => placeMember name (sorted value) (sortedMembers members)

end

end Json

end Petstore
