import Petstore.Routing.Table

/-!
# Resolving requests

A router holds mounted tables in registration order. A request is resolved by one scan over the
routes of the tables whose mount covers its path, in registration and then declaration order: the
first route of the request's own method wins; a `HEAD` request falls back to the first `GET` route;
otherwise the methods seen on the way are the allowed ones.
-/

namespace Petstore

/-- What a request comes to. -/
inductive Resolution (α : Type) where
  | matched (route : Route α) (params : PathParams)
  | methodNotAllowed (allowed : List Method)
  | notFound

/-- The name of the operation that was found. -/
def Resolution.operation? : Resolution α → Option String
  | matched route _ => some route.name
  | methodNotAllowed _ => none
  | notFound => none

/-- Tables in registration order. -/
structure Router (α : Type) where
  tables : List (RouteTable α)

namespace Router

/-- Every mounted route in the order in which it is considered. -/
def routes (router : Router α) : List (Route α) :=
  router.tables.flatMap (·.routes)

/-- The routes of the tables whose mount covers the path. -/
def coveringRoutes (router : Router α) (path : String) : List (Route α) :=
  (router.tables.filter (·.mount.covers path)).flatMap (·.routes)

/-- What a scan has seen before it finds a route of the request's own method: the other methods of
matching routes, each once, and the `GET` route that serves a `HEAD` request. -/
structure Scan (α : Type) where
  allowed : List Method := []
  fallback : Option (Route α × PathParams) := none

/-- Note the method of a matching route. -/
def Scan.allow (seen : Scan α) (method : Method) : Scan α :=
  if seen.allowed.contains method then seen
  else { seen with allowed := seen.allowed ++ [method] }

/-- What a scan comes to that found no route of the request's own method. -/
def Scan.conclude (seen : Scan α) : Resolution α :=
  match seen.fallback with
  | some (route, params) => .matched route params
  | none => if seen.allowed.isEmpty then .notFound else .methodNotAllowed seen.allowed

/-- Scan the remaining routes. -/
def scan (method : Method) (path : String) (seen : Scan α) : List (Route α) → Resolution α
  | [] => seen.conclude
  | route :: rest =>
    match route.template.matches? path with
    | none => scan method path seen rest
    | some params =>
      if route.method = method then .matched route params
      else if method = .head ∧ route.method = .get ∧ seen.fallback.isNone then
        scan method path { seen with fallback := some (route, params) } rest
      else scan method path (seen.allow route.method) rest

/-- What a method on a path comes to. -/
def resolve (router : Router α) (method : Method) (path : String) : Resolution α :=
  scan method path {} (router.coveringRoutes path)

end Router

end Petstore
