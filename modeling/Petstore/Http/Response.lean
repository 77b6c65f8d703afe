import Petstore.Api.Failure
import Petstore.Api.Request

/-!
# Responses

How replies and failures are rendered. Failures are rendered as an object with a code and a
message; from status 500 on the message is fixed, so that nothing of what went wrong inside is
shown.
-/

namespace Petstore

/-- An HTTP response. -/
structure Response where
  status : Nat
  headers : List (String × Bytes) := []
  body : Bytes := []
  deriving DecidableEq, Repr

namespace Response

/-- A response whose body is a JSON value. -/
def json (status : Nat) (value : Json) : Response where
  status
  headers := [("content-type", Utf8.encode "application/json")]
  body := value.bytes

/-- The body of a failure: its code and its message. -/
def failureBody (code message : String) : Json :=
  .object [("error", .string code), ("message", .string message)]

/-- The response for a failure of the given status and code. -/
def failure (status : Nat) (code message : String) : Response :=
  json status (failureBody code message)

/-- The response with one more header. -/
def withHeader (response : Response) (name : String) (value : Bytes) : Response :=
  { response with headers := response.headers ++ [(name, value)] }

end Response

/-- The response for a reply. -/
def Reply.response : Reply → Response
  | .json value => .json 200 value
  | .empty => { status := 200 }

namespace DispatchError

/-- What clients are told about a failure. -/
def publicMessage (error : DispatchError) : String :=
  if 500 ≤ error.status then "internal server error" else error.text

/-- The methods that a refused method could be replaced by, as one text. -/
def allowText (allowed : List Method) : String :=
  Text.join ", " (allowed.map Method.name)

/-- The response for a failure; a refused method is answered with those allowed. -/
def response (error : DispatchError) : Response :=
  let rendered := Response.failure error.status error.code error.publicMessage
  match error with
  | methodNotAllowed _ _ allowed =>
    rendered.withHeader "allow" (Utf8.encode (allowText allowed))
  | _ => rendered

end DispatchError

/-- The response for the outcome of a dispatch. -/
def dispatchResponse : Except DispatchError Reply → Response
  | .ok reply => reply.response
  | .error error => error.response

end Petstore
