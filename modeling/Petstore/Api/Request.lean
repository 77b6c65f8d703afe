import Petstore.Http.Headers
import Petstore.Json.Printer

/-!
# Requests and replies

What the router is given, and what a capability answers with, before and after any transport.
-/

namespace Petstore

/-- A request as the router sees it. -/
structure Request where
  method : Method
  path : String
  query : Option String := none
  headers : Headers := {}
  body : Bytes := []
  deriving DecidableEq

/-- The request with the compact text of a JSON value, members sorted, as its body. -/
def Request.withJson (request : Request) (value : Json) : Request :=
  { request with body := value.sorted.bytes }

/-- The result of a capability: a JSON value, or nothing to say. -/
inductive Reply where
  | json (value : Json)
  | empty

end Petstore
