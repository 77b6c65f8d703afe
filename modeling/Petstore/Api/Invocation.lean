import Petstore.Api.Failure
import Petstore.Api.Request
import Petstore.Json.Reader
import Petstore.Model.Basic
import Petstore.Routing.Template
import Petstore.Text.Blank
import Petstore.Text.Integer
import Petstore.Text.Urlencoded

/-!
# Invocations

The inputs of a resolved operation: the parameters captured from the path, the decoded pairs of the
query, the headers and the body.
-/

namespace Petstore

/-- Everything from which the inputs of an operation are bound. -/
structure Invocation where
  params : PathParams := ∅
  query : List (String × String) := []
  headers : Headers := {}
  body : Bytes := []

namespace Invocation

/-- The invocation for a request whose route captured the given parameters. -/
def ofRequest (params : PathParams) (request : Request) : Invocation where
  params
  query := match request.query with
    | some query => Urlencoded.pairs (Utf8.encode query)
    | none => []
  headers := request.headers
  body := request.body

/-! ## Path parameters -/

/-- A parameter captured from the path. -/
def param? (invocation : Invocation) (name : String) : Option String :=
  invocation.params[name]?

/-- A parameter that has to be there and to be readable. -/
def readParam (invocation : Invocation) (read : String → Option α) (name : String) :
    Except BindingError α :=
  match invocation.param? name with
  | none => .error (.missingParam name)
  | some raw =>
    match read raw with
    | some value => .ok value
    | none => .error (.unreadableParam raw name)

/-- A parameter that is a 64-bit signed integer. -/
def int64Param (invocation : Invocation) (name : String) : Except BindingError Int64 :=
  invocation.readParam (fun raw => (Text.readInt? .int64 raw).map Int64.ofInt) name

/-- A parameter that is a 32-bit signed integer. -/
def int32Param (invocation : Invocation) (name : String) : Except BindingError Int32 :=
  invocation.readParam (fun raw => (Text.readInt? .int32 raw).map Int32.ofInt) name

/-- A parameter that is a number of one byte. -/
def byteParam (invocation : Invocation) (name : String) : Except BindingError UInt8 :=
  invocation.readParam (fun raw => (Text.readInt? .byte raw).map fun n => UInt8.ofNat n.toNat) name

/-- A parameter that is a truth value. -/
def booleanParam (invocation : Invocation) (name : String) : Except BindingError Bool :=
  invocation.readParam
    (fun raw => if raw = "true" then some true else if raw = "false" then some false else none)
    name

/-- A parameter that is the status of a pet. -/
def petStatusParam (invocation : Invocation) (name : String) : Except BindingError PetStatus :=
  invocation.readParam PetStatus.ofName? name

/-- A parameter as it is. -/
def textParam (invocation : Invocation) (name : String) : Except BindingError String :=
  invocation.readParam some name

/-! ## Query, form and headers -/

/-- The first value of a query parameter. -/
def queryValue? (invocation : Invocation) (name : String) : Option String :=
  Urlencoded.lookup? name invocation.query

/-- A query parameter that has to be there. -/
def requireQuery (invocation : Invocation) (name : String) : Except BindingError String :=
  match invocation.queryValue? name with
  | some value => .ok value
  | none => .error (.missingQuery name)

/-- The values of a query parameter that may be repeated or list several values between commas.
Blanks around a value do not belong to it, and empty values do not count. -/
def queryList (invocation : Invocation) (name : String) : List String :=
  ((invocation.query.filter (·.1 == name)).flatMap fun pair => Text.split ',' pair.2)
    |>.map Text.trim |>.filter (· ≠ "")

/-- The values of a query parameter of which there has to be one. -/
def requireQueryList (invocation : Invocation) (name : String) :
    Except BindingError (List String) :=
  match invocation.queryList name with
  | [] => .error (.missingQuery name)
  | values => .ok values

/-- A header as text. -/
def header? (invocation : Invocation) (name : String) : Option String :=
  invocation.headers.text? name

/-- A field of a form body, or else of the query. -/
def formField? (invocation : Invocation) (name : String) : Option String :=
  (Urlencoded.lookup? name (Urlencoded.pairs invocation.body)).or (invocation.queryValue? name)

/-! ## Body -/

/-- The body as a JSON value of a known type. -/
def json (invocation : Invocation) (reader : Json.Reader α) : Except BindingError α :=
  (reader.document invocation.body).mapError .unreadableBody

end Invocation

end Petstore
