import Petstore.Api.Operation

/-!
# Dispatch

From a request to a reply: the router resolves it, the operation's inputs are bound, and one call
is made. A request that fails before the call leaves the controllers alone. The service has one
router, and `serviceRouter?_eq` says that its tables are what their declarations build.
-/

namespace Petstore

/-- The action of the route that a request resolves to, with its invocation, or the miss as a
failure. -/
def Resolution.invocation (resolution : Resolution α) (request : Request) :
    Except DispatchError (α × Invocation) :=
  match resolution with
  | .matched route params => .ok (route.action, .ofRequest params request)
  | .methodNotAllowed allowed => .error (.methodNotAllowed request.method request.path allowed)
  | .notFound => .error (.routeNotFound request.method request.path)

namespace Router

/-- The action and the invocation that a request comes to. -/
def invocation (router : Router α) (request : Request) :
    Except DispatchError (α × Invocation) :=
  (router.resolve request.method request.path).invocation request

/-- The call that a request comes to. -/
def call (router : Router Operation) (request : Request) : Except DispatchError Call :=
  match router.invocation request with
  | .error error => .error error
  | .ok (operation, invocation) => (operation.bind invocation).mapError .invalidInput

/-- Answer a request by the controllers. -/
def dispatch (router : Router Operation) (controllers : Controllers σ) (request : Request)
    (state : σ) : Except DispatchError Reply × σ :=
  match router.call request with
  | .error error => (.error error, state)
  | .ok call => call.perform controllers state

end Router

/-- The router of the service as it is built from its declarations. -/
def serviceRouter? : Except TableError (Router Operation) :=
  Operation.tables.map Router.mk

/-- The router of the service: pets, then the store, then users. -/
def serviceRouter : Router Operation :=
  ⟨[⟨"pet", ⟨"/pet"⟩, Operation.onPets.map Operation.route⟩,
    ⟨"store", ⟨"/store"⟩, Operation.onStore.map Operation.route⟩,
    ⟨"user", ⟨"/user"⟩, Operation.onUsers.map Operation.route⟩]⟩

/-- Every declaration of the service is accepted. -/
theorem serviceRouter?_eq : serviceRouter? = .ok serviceRouter := rfl

end Petstore
