import Petstore.Api.Dispatch
import Petstore.Http.Metrics
import Petstore.Http.Response
import Petstore.Http.Target

/-!
# The application

The service over HTTP. A request loses the base path, its body is read up to a limit, the router
dispatches it, and the outcome is rendered and counted. Around that, every response carries the
identity of its request and the length of its body, and the answer to a `HEAD` request has no body.
-/

namespace Petstore

/-- A body as it arrives: pieces in order, and the failure that ends them, if one does. -/
structure BodyStream where
  chunks : List Bytes := []
  failure : Option String := none
  deriving DecidableEq, Repr

/-- A request as it arrives. -/
structure HttpRequest where
  method : Method
  target : Target
  headers : Headers := {}
  body : BodyStream := {}

/-! ## Reading bodies -/

/-- Why a body was not read. -/
inductive BodyFault where
  | tooLarge
  | failed (text : String)
  deriving DecidableEq, Repr

/-- The pieces of a body, as long as they fit into what is left of the limit. -/
def collectChunks : List Bytes → Nat → Except BodyFault (List Bytes)
  | [], _ => .ok []
  | chunk :: chunks, limit =>
    if limit < chunk.length then .error .tooLarge
    else (collectChunks chunks (limit - chunk.length)).map (chunk :: ·)

/-- The whole body, if it stays within the limit and does not fail. -/
def BodyStream.read (body : BodyStream) (limit : Nat) : Except BodyFault Bytes :=
  match collectChunks body.chunks limit with
  | .error fault => .error fault
  | .ok chunks =>
    match body.failure with
    | some text => .error (.failed text)
    | none => .ok chunks.flatten

/-- The response for a body that was not read. -/
def BodyFault.response (limit : Nat) : BodyFault → Response
  | tooLarge => .failure 413 "payload_too_large" s!"request body exceeds {limit} bytes"
  | failed text => .failure 400 "invalid_body" s!"failed to read request body: {text}"

/-! ## The base path -/

/-- The path below a base, which has no slash at its end; the base itself is the root below it. -/
def stripBase? (base path : String) : Option String :=
  if base = "" then some path
  else match Text.after? base.toList path.toList with
    | some [] => some "/"
    | some ('/' :: rest) => some (String.ofList ('/' :: rest))
    | _ => none

/-- A base path without the slashes at its end. -/
def trimBase (base : String) : String :=
  String.ofList (Text.trimEnd (· == '/') base.toList)

/-! ## Handling -/

/-- The service over HTTP. Its router may have any tables, with any methods and templates; what
answers on a route is one of the operations of the service, with what it binds (`Operation.bind`),
and there is no other handler. The controllers that are called may be any. -/
structure App (σ : Type) where
  basePath : String
  bodyLimit : Nat
  router : Router Operation
  controllers : Controllers σ

/-- The label of requests that no operation was found for. -/
def unmatchedLabel : String := "unmatched"

namespace App

/-- What the application keeps between requests. -/
structure State (σ : Type) where
  store : σ
  metrics : Metrics := {}

/-- The outcome of handling one request: the response, the label to count it under, and the state
of the controllers. -/
structure Handled (σ : Type) where
  response : Response
  label : String
  store : σ

/-- Handle a request on a path, without regard to the transport around it. -/
def handlePath (app : App σ) (method : Method) (path : String) (query : Option String)
    (headers : Headers) (body : BodyStream) (store : σ) : Handled σ :=
  match stripBase? app.basePath path with
  | none => ⟨(DispatchError.routeNotFound method path).response, unmatchedLabel, store⟩
  | some path =>
    match body.read app.bodyLimit with
    | .error fault => ⟨fault.response app.bodyLimit, unmatchedLabel, store⟩
    | .ok body =>
      let request : Request := { method, path, query, headers, body }
      let label := (app.router.resolve method path).operation?.getD unmatchedLabel
      let (outcome, store) := app.router.dispatch app.controllers request store
      ⟨dispatchResponse outcome, label, store⟩

/-- Finish a response: the length of its body, no body for `HEAD`, and the request's identity. -/
def finish (method : Method) (requestId : Bytes) (response : Response) : Response :=
  let sized := response.withHeader "content-length" (Utf8.encode (toString response.body.length))
  let shown := if method = .head then { sized with body := [] } else sized
  shown.withHeader requestIdName requestId

/-- The identity of a request: the one it brings along, or else a fresh one. -/
def requestId (freshId : String) (headers : Headers) : Bytes :=
  (headers.value? requestIdName).getD (Utf8.encode freshId)

/-- Answer a request. Only requests for a path are handled and counted. -/
def respond (app : App σ) (freshId : String) (request : HttpRequest) (state : State σ) :
    Response × State σ :=
  let finished := finish request.method (requestId freshId request.headers)
  match request.target with
  | .path path query =>
    let handled := app.handlePath request.method path query request.headers request.body state.store
    (finished handled.response,
      ⟨handled.store, state.metrics.record handled.label handled.response.status⟩)
  | .authority | .asterisk => (finished { status := 404 }, state)

/-- Answer requests one after the other, each with a fresh identity at hand. -/
def respondAll (app : App σ) : List (String × HttpRequest) → State σ → List Response × State σ
  | [], state => ([], state)
  | (freshId, request) :: requests, state =>
    let (response, state) := app.respond freshId request state
    let (responses, state) := app.respondAll requests state
    (response :: responses, state)

end App

end Petstore
