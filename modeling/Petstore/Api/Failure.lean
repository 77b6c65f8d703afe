import Petstore.Http.Method
import Petstore.Json.Failure
import Petstore.Json.Remark
import Petstore.Text.Pieces

/-!
# Why a request fails

A request fails in the router, in the binding of its inputs, in the encoding of a result, or in the
controller that was called. Each failure has a wording, an HTTP status and a code that clients can
rely on.
-/

namespace Petstore

/-- A failure raised by a controller, with a text of its own. -/
inductive ControllerError where
  | invalidInput (text : String)
  | notFound (text : String)
  | validation (text : String)
  | internal (text : String)
  deriving DecidableEq, Repr, Inhabited

namespace ControllerError

/-- The wording of a controller failure. -/
def text : ControllerError → String
  | invalidInput text => s!"invalid input: {text}"
  | notFound text => s!"not found: {text}"
  | validation text => s!"validation failed: {text}"
  | internal text => s!"internal error: {text}"

end ControllerError

/-- Why an input of an operation cannot be bound. -/
inductive BindingError where
  | missingParam (name : String)
  | unreadableParam (raw name : String)
  | missingQuery (name : String)
  | unreadableBody (failure : Json.Failure)
  | stated (text : String)
  deriving Inhabited

/-- The wording of a binding error. -/
def BindingError.text : BindingError → String
  | missingParam name => s!"missing path parameter `{name}`"
  | unreadableParam raw name => s!"invalid value `{raw}` for path parameter `{name}`"
  | missingQuery name => s!"missing query parameter `{name}`"
  | unreadableBody failure => s!"invalid request body: {failure.text}"
  | stated text => text

/-- Why a request was not answered with a result. -/
inductive DispatchError where
  | routeNotFound (method : Method) (path : String)
  | methodNotAllowed (method : Method) (path : String) (allowed : List Method)
  | invalidInput (reason : BindingError)
  | encode (remark : Json.Remark)
  | controller (error : ControllerError)

namespace DispatchError

/-- The wording of a failure. -/
def text : DispatchError → String
  | routeNotFound method path => s!"no route matches {method.name} {path}"
  | methodNotAllowed method path _ => s!"method {method.name} is not allowed for {path}"
  | invalidInput reason => s!"invalid input: {reason.text}"
  | encode remark => s!"failed to encode response: {remark.text}"
  | controller error => error.text

/-- The HTTP status of a failure. -/
def status : DispatchError → Nat
  | routeNotFound .. => 404
  | methodNotAllowed .. => 405
  | invalidInput _ => 400
  | encode _ => 500
  | controller (.invalidInput _) => 400
  | controller (.notFound _) => 404
  | controller (.validation _) => 422
  | controller (.internal _) => 500

/-- The code of a failure. -/
def code : DispatchError → String
  | routeNotFound .. => "route_not_found"
  | methodNotAllowed .. => "method_not_allowed"
  | invalidInput _ => "invalid_input"
  | encode _ => "encode_error"
  | controller (.invalidInput _) => "invalid_input"
  | controller (.notFound _) => "not_found"
  | controller (.validation _) => "validation_failed"
  | controller (.internal _) => "internal_error"

end DispatchError

end Petstore
