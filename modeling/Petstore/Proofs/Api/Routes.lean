import Petstore.Proofs.Api.Calls
import Petstore.Proofs.Routing.Precedence

/-!
# Which operation a path is for

A path such as `/pet/findByStatus` matches the template of a pet as well, and only the order of the
declarations keeps it from being read as the id of one. The twenty routes of the service are in
order (`Operation.ordered_routes`), so each of them is reached by all its paths but for those that
are, letter by letter, the path of another one (`Operation.first_match_most_specific`). A route
names its operation, so this is the same for all controllers that may answer it.
-/

namespace Petstore.Operation

variable {route : Route Operation} {path : String}

/-- Of two routes of one method that might match one path the more specific one is declared
first. -/
theorem ordered_routes : serviceRouter.routes.Pairwise Route.GoesBefore := by decide

theorem undeclared_head : ∀ route ∈ serviceRouter.routes, route.method ≠ .head := by decide

theorem wellFormed_of_mem_routes (mounted : route ∈ serviceRouter.routes) :
    route.template.WellFormed := by
  obtain ⟨operation, rfl⟩ := mem_routes_iff.mp mounted
  exact wellFormed_template operation

/-- The mounts hide no route: all that match a path are its candidates. -/
theorem mem_candidates_iff_matches? :
    route ∈ serviceRouter.candidates path ↔
      route ∈ serviceRouter.routes ∧ (route.template.matches? path).isSome := by
  rw [mem_candidates_iff, mem_routes_iff]
  constructor
  · rintro ⟨operation, rfl, matched⟩
    exact ⟨⟨operation, rfl⟩, matched⟩
  · rintro ⟨⟨operation, rfl⟩, matched⟩
    exact ⟨operation, rfl, matched⟩

/-- Routes that answer requests of one method declare one method. -/
theorem method_eq_of_serve {method own other : Method}
    (serves : own = method ∨ method = .head ∧ own = .get)
    (serves' : other = method ∨ method = .head ∧ other = .get)
    (notHead : own ≠ .head) (notHead' : other ≠ .head) : other = own := by
  rcases serves with rfl | ⟨isHead, isGet⟩
  · exact serves'.resolve_right fun standing => notHead standing.1
  · exact (serves'.resolve_left (isHead ▸ notHead')).2.trans isGet.symm

/-- **The first match is the most specific one.** The twenty routes of the service are accepted, and
every request that some of them answer is resolved to one that has a literal where it first differs
from any other of these. So a path without parameters is for its own route, with nothing captured,
and any other route gets, under its own method, each path that fills its template and is not the
path of a route of that method without parameters. -/
theorem first_match_most_specific :
    (serviceRouter? = .ok serviceRouter ∧ serviceRouter.routes.length = 20) ∧
    (∀ (method : Method) (path : String),
      (∃ route ∈ serviceRouter.routes, route.Answers method path) →
      ∃ chosen ∈ serviceRouter.routes, chosen.Answers method path ∧
        (∃ params, serviceRouter.resolve method path = .matched chosen params) ∧
        ∀ other ∈ serviceRouter.routes, other.Answers method path → other ≠ chosen →
          chosen.template.LiteralFirst other.template) ∧
    (∀ route ∈ serviceRouter.routes, route.template.paramNames = [] →
      ∀ method, (route.method = method ∨ method = .head ∧ route.method = .get) →
        serviceRouter.resolve method route.template.text = .matched route ∅) ∧
    ∀ route ∈ serviceRouter.routes, ∀ values, route.template.Fits values →
      (∀ other ∈ serviceRouter.routes, other ≠ route → other.method = route.method →
        other.template.paramNames = [] → route.template.fill values ≠ other.template.text) →
      serviceRouter.resolve route.method (route.template.fill values) =
        .matched route (route.template.captures values) := by
  refine ⟨⟨serviceRouter?_eq, rfl⟩, ?_, ?_, ?_⟩
  · rintro method path ⟨route, mounted, serves, matched⟩
    obtain ⟨chosen, candidate, declared, ⟨params, captured, resolved⟩, specific⟩ :=
      Router.resolve_literalFirst undeclared_head serves ordered_routes
        (mem_candidates_iff_matches?.mpr ⟨mounted, matched⟩)
    obtain ⟨mounted', matched'⟩ := mem_candidates_iff_matches?.mp candidate
    refine ⟨chosen, mounted', ⟨declared ▸ serves, matched'⟩, ⟨params, resolved⟩, ?_⟩
    rintro other among ⟨serves', alike⟩ different
    have sameMethod : other.method = route.method :=
      method_eq_of_serve serves serves' (undeclared_head route mounted)
        (undeclared_head other among)
    exact (specific other (mem_candidates_iff_matches?.mpr ⟨among, alike⟩) sameMethod different).2
  · intro route mounted plain method serves
    have matched := PathTemplate.isSome_matches?_text (wellFormed_of_mem_routes mounted)
    exact Router.resolve_text undeclared_head serves ordered_routes
      (fun other => wellFormed_of_mem_routes) plain
      (mem_candidates_iff_matches?.mpr ⟨mounted, matched⟩)
  · intro route mounted values fits apart
    have wellFormed := wellFormed_of_mem_routes mounted
    refine Router.resolve_fill undeclared_head (Or.inl rfl) ordered_routes wellFormed fits
      (mem_candidates_iff_matches?.mpr ⟨mounted, ?_⟩) ?_
    · exact PathTemplate.isSome_matches?_fill wellFormed fits
    · exact fun other among different sameMethod plain _ =>
        apart other among different sameMethod plain

/-- The path of a route without parameters is a username under a method that it does not declare. -/
example : (serviceRouter.resolve .delete "/user/login").operation? = some "deleteUser" := by decide

end Petstore.Operation
