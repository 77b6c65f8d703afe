import Petstore.Api.Dispatch
import Petstore.Proofs.Routing.Mounting

/-!
# The calls that requests come to

A request comes to a call of one operation: its path fills the operation's template, its method is
the operation's own or is served by it, and the call is what the operation binds
(`call_eq_ok`). The other way round, a request whose path only one operation of its method matches
comes to what that operation binds (`call_of_only`).
-/

namespace Petstore

/-! ## The mounted operations -/

namespace Operation

/-- The routes of the service are those of its operations. -/
theorem mem_routes_iff {route : Route Operation} :
    route ∈ serviceRouter.routes ↔ ∃ operation : Operation, operation.route = route := by
  have mounted : serviceRouter.routes = (onPets ++ onStore ++ onUsers).map Operation.route := rfl
  have every (operation : Operation) : operation ∈ onPets ++ onStore ++ onUsers := by
    cases operation <;> decide
  rw [mounted, List.mem_map]
  exact ⟨fun ⟨operation, _, same⟩ => ⟨operation, same⟩,
    fun ⟨operation, same⟩ => ⟨operation, every operation, same⟩⟩

theorem tables_eq : tables = .ok serviceRouter.tables := by
  have mapped : Except.map Router.mk tables = .ok serviceRouter := serviceRouter?_eq
  generalize tables = built at mapped ⊢
  cases built with
  | error reason => cases mapped
  | ok mounted =>
    have same : Router.mk mounted = serviceRouter := Except.ok.inj mapped
    rw [← same]

theorem built_of_mem_tables : ∀ table ∈ serviceRouter.tables, table.Built := by
  have success := tables_eq
  unfold tables at success
  obtain ⟨pets, petsBuilt, success⟩ := bind_eq_ok success
  obtain ⟨store, storeBuilt, success⟩ := bind_eq_ok success
  obtain ⟨users, usersBuilt, success⟩ := bind_eq_ok success
  rw [← Except.ok.inj success, List.forall_mem_cons, List.forall_mem_cons,
    List.forall_mem_singleton]
  exact ⟨⟨_, _, _, petsBuilt⟩, ⟨_, _, _, storeBuilt⟩, ⟨_, _, _, usersBuilt⟩⟩

theorem wellFormed_template (operation : Operation) : operation.template.WellFormed := by
  obtain ⟨table, mounted, member⟩ := List.mem_flatMap.mp (mem_routes_iff.mpr ⟨operation, rfl⟩)
  exact ((built_of_mem_tables table mounted).liesUnder member).wellFormed

/-- The candidates of a path are the operations whose templates match it. -/
theorem mem_candidates_iff {route : Route Operation} {path : String} :
    route ∈ serviceRouter.candidates path ↔
      ∃ operation : Operation, operation.route = route ∧
        (operation.template.matches? path).isSome := by
  have literal : ∀ table ∈ serviceRouter.tables, '{' ∉ table.mount.path.toList := by decide
  rw [Router.candidates_eq, Router.matching_coveringRoutes built_of_mem_tables literal,
    Router.map_fst_matching, List.mem_filter, mem_routes_iff]
  constructor
  · rintro ⟨⟨operation, rfl⟩, matched⟩
    exact ⟨operation, rfl, matched⟩
  · rintro ⟨operation, rfl, matched⟩
    exact ⟨⟨operation, rfl⟩, matched⟩

end Operation

/-! ## Calls -/

/-- The operation by which a capability is called. -/
def Capability.operation {kind : ResultKind} : Capability kind → Operation
  | addPet _ => .addPet
  | updatePet _ => .updatePet
  | findPetsByStatus _ => .findPetsByStatus
  | findPetsByTags _ => .findPetsByTags
  | getPetById _ => .getPetById
  | updatePetWithForm .. => .updatePetWithForm
  | deletePet .. => .deletePet
  | uploadFile .. => .uploadFile
  | getInventory => .getInventory
  | placeOrder _ => .placeOrder
  | getOrderById _ => .getOrderById
  | deleteOrder _ => .deleteOrder
  | createUser _ => .createUser
  | createUsersWithArrayInput _ => .createUsersWithArrayInput
  | createUsersWithListInput _ => .createUsersWithListInput
  | loginUser .. => .loginUser
  | logoutUser => .logoutUser
  | getUserByName _ => .getUserByName
  | updateUser .. => .updateUser
  | deleteUser _ => .deleteUser

/-- An operation binds its inputs to a call of its own. -/
theorem Operation.operation_of_bind {operation : Operation} {invocation : Invocation} {call : Call}
    (bound : operation.bind invocation = .ok call) : call.capability.operation = operation := by
  cases operation with
  | getInventory | logoutUser =>
    cases bound
    rfl
  | updatePetWithForm | deletePet | uploadFile | updatePet | addPet | findPetsByStatus
  | findPetsByTags | getPetById | placeOrder | getOrderById | deleteOrder | createUser
  | createUsersWithArrayInput | createUsersWithListInput | getUserByName | deleteUser =>
    obtain ⟨_, _, bound⟩ := bind_eq_ok bound
    cases bound
    rfl
  | loginUser | updateUser =>
    obtain ⟨_, _, bound⟩ := bind_eq_ok bound
    obtain ⟨_, _, bound⟩ := bind_eq_ok bound
    cases bound
    rfl

/-- A call leaves what the controllers leave, replies with their result, and fails as they fail. -/
theorem Call.perform_eq_run {σ : Type} (call : Call) (controllers : Controllers σ) (state : σ) :
    call.perform controllers state =
      (match (controllers.run call.capability state).1 with
        | .ok result => .ok (call.kind.reply result)
        | .error error => .error (.controller error),
        (controllers.run call.capability state).2) := by
  unfold perform
  rcases controllers.run call.capability state with ⟨error | result, left⟩
  · rfl
  · rfl

namespace Router

variable {router : Router Operation} {request : Request}

theorem call_of_matched {route : Route Operation} {params : PathParams}
    (resolved : router.resolve request.method request.path = .matched route params) :
    router.call request =
      (route.action.bind (.ofRequest params request)).mapError .invalidInput := by
  unfold call invocation
  rw [resolved]
  rfl

theorem call_of_methodNotAllowed {allowed : List Method}
    (resolved : router.resolve request.method request.path = .methodNotAllowed allowed) :
    router.call request =
      .error (.methodNotAllowed request.method request.path allowed) := by
  unfold call invocation
  rw [resolved]
  rfl

theorem call_of_notFound (resolved : router.resolve request.method request.path = .notFound) :
    router.call request = .error (.routeNotFound request.method request.path) := by
  unfold call invocation
  rw [resolved]
  rfl

variable {σ : Type} {controllers : Controllers σ} {state : σ}

/-- A request that comes to no call leaves the controllers alone. -/
theorem dispatch_of_call_error {error : DispatchError}
    (failed : router.call request = .error error) :
    router.dispatch controllers request state = (.error error, state) := by
  rw [dispatch, failed]

theorem dispatch_of_call_ok {call : Call} (called : router.call request = .ok call) :
    router.dispatch controllers request state = call.perform controllers state := by
  rw [dispatch, called]

end Router

section Calls

variable {request : Request} {call : Call} {operation : Operation}

/-- **What comes to a call.** The path of the request fills the template of the operation that is
called, the method is the operation's own or `HEAD` in the place of `GET`, and the call is what the
operation binds. -/
theorem call_eq_ok (called : serviceRouter.call request = .ok call) :
    let operation := call.capability.operation
    ∃ values, request.path = operation.template.fill values ∧ operation.template.Fits values ∧
      (operation.method = request.method ∨ request.method = .head ∧ operation.method = .get) ∧
      operation.bind (.ofRequest (operation.template.captures values) request) = .ok call := by
  cases resolved : serviceRouter.resolve request.method request.path with
  | notFound =>
    rw [Router.call_of_notFound resolved] at called
    cases called
  | methodNotAllowed allowed =>
    rw [Router.call_of_methodNotAllowed resolved] at called
    cases called
  | matched route params =>
    obtain ⟨mounted, matched, method⟩ := Router.of_resolve_eq_matched resolved
    obtain ⟨other, rfl⟩ := Operation.mem_routes_iff.mp mounted
    rw [Router.call_of_matched resolved] at called
    have bound : other.bind (.ofRequest params request) = .ok call := mapError_eq_ok_iff.mp called
    obtain rfl := Operation.operation_of_bind bound
    obtain ⟨values, fits, filled, rfl⟩ :=
      (PathTemplate.matches?_eq_some_iff (Operation.wellFormed_template _)).mp matched
    exact ⟨values, filled, fits, method, bound⟩

/-- Nothing but `HEAD` is served by an operation of another method, and that by `GET` alone. -/
theorem method_eq_of_ne_get {own method : Method}
    (served : own = method ∨ method = .head ∧ own = .get) (writes : own ≠ .get) : method = own :=
  (served.resolve_right fun standing => writes standing.2).symm

/-- A path without parameters is resolved to its own operation. -/
theorem Operation.resolve_text {operation : Operation}
    (plain : operation.template.paramNames = []) :
    serviceRouter.resolve operation.method operation.template.text =
      .matched operation.route ∅ := by
  cases operation with
  | getPetById | updatePetWithForm | deletePet | uploadFile | getOrderById | deleteOrder
  | getUserByName | updateUser | deleteUser => cases plain
  | _ => rfl

/-- A request that resolves to an operation comes to what that one binds. -/
theorem call_of_resolve {params : PathParams}
    (resolved : serviceRouter.resolve request.method request.path =
      .matched operation.route params) :
    serviceRouter.call request =
      (operation.bind (.ofRequest params request)).mapError .invalidInput :=
  Router.call_of_matched resolved

/-- A request whose path only one operation of its method matches comes to what that one binds. -/
theorem call_of_only {values : String → String} (fits : operation.template.Fits values)
    (only : ∀ other : Operation, other.method = operation.method →
      List.Forall₂ Segment.Accepts other.segments
        (operation.segments.map fun segment => (segment.fill values).toList) → other = operation)
    (own : request.method = operation.method)
    (filled : request.path = operation.template.fill values) :
    serviceRouter.call request =
      (operation.bind (.ofRequest (operation.template.captures values) request)).mapError
        .invalidInput := by
  have matched : operation.template.matches? (operation.template.fill values) =
      some (operation.template.captures values) :=
    (PathTemplate.matches?_eq_some_iff operation.wellFormed_template).mpr ⟨values, fits, rfl, rfl⟩
  have candidate : operation.route ∈ serviceRouter.candidates (operation.template.fill values) :=
    Operation.mem_candidates_iff.mpr ⟨operation, rfl, Option.isSome_of_eq_some matched⟩
  obtain ⟨params, captured, resolved⟩ := Router.resolve_of_only candidate <| by
    intro route member same
    obtain ⟨other, rfl, alike⟩ := Operation.mem_candidates_iff.mp member
    obtain ⟨parts, split, accepted⟩ := PathTemplate.isSome_matches?_iff.mp alike
    rw [PathTemplate.parts?_fill operation.wellFormed_template fits] at split
    rw [only other same (Option.some_inj.mp split ▸ accepted)]
  cases matched.symm.trans captured
  refine call_of_resolve ?_
  rw [own, filled]
  exact resolved

end Calls

end Petstore
