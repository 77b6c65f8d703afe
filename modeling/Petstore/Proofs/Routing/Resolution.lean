import Mathlib.Data.List.Induction
import Petstore.Routing.Router

/-!
# What a request resolves to

The scan of a router keeps two accumulators and may stop early. Here it is replaced by what it
computes from the list of all matches, the routes of the covering tables that match the path with
what they capture, in registration and then declaration order:

* `resolve_eq_verdict`: the first match of the request's own method; for `HEAD` otherwise the first
  match of `GET`; otherwise a miss that lists the methods of all matches.
* `resolve_spec` says the same of the candidates, the routes alone.
-/

namespace Petstore.Router

variable {α : Type}

/-! ## The matches of a path -/

/-- The routes that match a path, with what they capture. -/
def matching (path : String) (routes : List (Route α)) : List (Route α × PathParams) :=
  routes.filterMap fun route => (route.template.matches? path).map (route, ·)

/-- The first match of a method. -/
def firstOf (method : Method) (hits : List (Route α × PathParams)) :
    Option (Route α × PathParams) :=
  hits.find? (·.1.method = method)

/-- The match of `GET` that serves a `HEAD` request. -/
def stand? (method : Method) (hits : List (Route α × PathParams)) :
    Option (Route α × PathParams) :=
  if method = .head then firstOf .get hits else none

/-- The match that serves a method: the first of its own, or one that stands in. -/
def serving? (method : Method) (hits : List (Route α × PathParams)) :
    Option (Route α × PathParams) :=
  (firstOf method hits).or (stand? method hits)

/-- What a method comes to on a path with the given matches. -/
def verdict (method : Method) (hits : List (Route α × PathParams)) : Resolution α :=
  match serving? method hits with
  | some (route, params) => .matched route params
  | none =>
    if hits = [] then .notFound else .methodNotAllowed (hits.map (·.1.method)).eraseDups

/-! ## The scan as a fold over the matches -/

/-- Note a match whose method is not the request's own. -/
def Scan.note (method : Method) (seen : Scan α) (hit : Route α × PathParams) : Scan α :=
  if method = .head ∧ hit.1.method = .get ∧ seen.fallback.isNone then
    { seen with fallback := some hit }
  else seen.allow hit.1.method

/-- The scan stops at the first match of the request's own method; without one it concludes from
all matches. -/
theorem scan_eq (method : Method) (path : String) (seen : Scan α) (routes : List (Route α)) :
    scan method path seen routes =
      match firstOf method (matching path routes) with
      | some (route, params) => .matched route params
      | none => ((matching path routes).foldl (Scan.note method) seen).conclude := by
  induction routes generalizing seen with
  | nil => rfl
  | cons route rest ih =>
    cases captured : route.template.matches? path with
    | none =>
      have skipped : matching path (route :: rest) = matching path rest := by
        simp [matching, captured]
      rw [skipped, ← ih seen]
      simp [scan, captured]
    | some params =>
      have taken : matching path (route :: rest) = (route, params) :: matching path rest := by
        simp [matching, captured]
      rw [taken]
      by_cases own : route.method = method
      · simp [scan, captured, own, firstOf]
      · have later : firstOf method ((route, params) :: matching path rest) =
            firstOf method (matching path rest) := by
          simp [firstOf, own]
        rw [later, List.foldl_cons, ← ih, Scan.note, scan, captured]
        simp only [own, if_false]
        split <;> rfl

theorem Scan.fallback_allow (seen : Scan α) (method : Method) :
    (seen.allow method).fallback = seen.fallback := by
  unfold Scan.allow
  split <;> rfl

theorem Scan.allowed_allow (seen : Scan α) (method : Method) :
    (seen.allow method).allowed =
      seen.allowed ++ if method ∈ seen.allowed then [] else [method] := by
  unfold Scan.allow
  split <;> simp_all

theorem stand?_cons (method : Method) (hit : Route α × PathParams)
    (rest : List (Route α × PathParams)) :
    stand? method (hit :: rest) = (stand? method [hit]).or (stand? method rest) := by
  unfold stand? firstOf
  by_cases isHead : method = .head
  · by_cases isGet : hit.1.method = .get <;> simp [isHead, isGet]
  · simp [isHead]

/-- A noted match becomes the fallback if it may stand in and none was found before. -/
theorem Scan.fallback_note (method : Method) (seen : Scan α) (hit : Route α × PathParams) :
    (seen.note method hit).fallback = seen.fallback.or (stand? method [hit]) := by
  unfold Scan.note
  split
  · next first =>
    obtain ⟨isHead, isGet, isFirst⟩ := first
    rw [Option.isNone_iff_eq_none] at isFirst
    simp [stand?, firstOf, isHead, isGet, isFirst]
  · next other =>
    rw [Scan.fallback_allow]
    cases found : seen.fallback with
    | some earlier => rfl
    | none => simp_all [stand?, firstOf]

/-- The fallback is the first match that may stand in. -/
theorem fallback_foldl_note (method : Method) (seen : Scan α) (hits : List (Route α × PathParams)) :
    (hits.foldl (Scan.note method) seen).fallback = seen.fallback.or (stand? method hits) := by
  induction hits generalizing seen with
  | nil => simp [stand?, firstOf]
  | cons hit rest ih =>
    rw [List.foldl_cons, ih, Scan.fallback_note, stand?_cons method hit rest, Option.or_assoc]

/-- When none stands in, the allowed methods are those of all matches, each where it first
occurs. -/
theorem allowed_foldl_note (method : Method) (hits : List (Route α × PathParams))
    (noStand : stand? method hits = none) :
    (hits.foldl (Scan.note method) {}).allowed = (hits.map (·.1.method)).eraseDups := by
  -- From the last match, since it is the one whose method the accumulator may already hold.
  induction hits using List.reverseRecOn with
  | nil => rfl
  | append_singleton hits hit ih =>
    have split : stand? method hits = none ∧ ¬ (method = .head ∧ hit.1.method = .get) := by
      simp only [stand?, firstOf] at noStand ⊢
      grind
    obtain ⟨noStand, plain⟩ := split
    have noted (seen : Scan α) : seen.note method hit = seen.allow hit.1.method :=
      if_neg fun first => plain ⟨first.1, first.2.1⟩
    rw [List.foldl_append, List.foldl_cons, List.foldl_nil, noted, Scan.allowed_allow,
      ih noStand, List.map_append, List.eraseDups_append]
    by_cases known : hit.1.method ∈ hits.map (·.1.method)
    · rw [if_pos (List.mem_eraseDups.mpr known)]
      simp [List.removeAll, known]
    · rw [if_neg (mt List.mem_eraseDups.mp known)]
      simp [List.removeAll, known, List.eraseDups_cons]

/-- The scan comes to the verdict on the matches. -/
theorem scan_eq_verdict (method : Method) (path : String) (routes : List (Route α)) :
    scan method path {} routes = verdict method (matching path routes) := by
  have fallback := fallback_foldl_note method {} (matching path routes)
  rw [scan_eq, verdict, serving?]
  cases own : firstOf method (matching path routes) with
  | some hit => rfl
  | none =>
    rw [Option.none_or] at fallback ⊢
    unfold Scan.conclude
    rw [fallback]
    cases stand : stand? method (matching path routes) with
    | some hit => rfl
    | none =>
      rw [allowed_foldl_note method _ stand]
      cases matching path routes with
      | nil => rfl
      | cons hit rest => simp [List.eraseDups_cons]

theorem resolve_eq_verdict (router : Router α) (method : Method) (path : String) :
    router.resolve method path = verdict method (matching path (router.coveringRoutes path)) :=
  scan_eq_verdict method path (router.coveringRoutes path)

theorem mem_of_serving? {method : Method} {hits : List (Route α × PathParams)}
    {hit : Route α × PathParams} (served : serving? method hits = some hit) : hit ∈ hits := by
  unfold serving? stand? firstOf at served
  rcases Option.or_eq_some_iff.mp served with own | ⟨-, standing⟩
  · exact List.mem_of_find?_eq_some own
  · split at standing
    · exact List.mem_of_find?_eq_some standing
    · cases standing

/-- What serves a method declares it, or stands in for it. -/
theorem method_of_serving? {method : Method} {hits : List (Route α × PathParams)}
    {hit : Route α × PathParams} (served : serving? method hits = some hit) :
    hit.1.method = method ∨ method = .head ∧ hit.1.method = .get := by
  unfold serving? stand? firstOf at served
  rcases Option.or_eq_some_iff.mp served with own | ⟨-, standing⟩
  · exact Or.inl (by simpa using List.find?_some own)
  · split at standing
    · next isHead => exact Or.inr ⟨isHead, by simpa using List.find?_some standing⟩
    · cases standing

/-- Only a path without matches is not found. -/
theorem verdict_eq_notFound_iff {method : Method} {hits : List (Route α × PathParams)} :
    verdict method hits = .notFound ↔ hits = [] := by
  unfold verdict
  constructor
  · intro missed
    split at missed
    · cases missed
    · by_contra matched
      rw [if_neg matched] at missed
      cases missed
  · rintro rfl
    simp [serving?, stand?, firstOf]

/-! ## The candidates of a path -/

/-- The routes that match a path and whose table's mount covers it, as a part of `routes`. -/
def candidates (router : Router α) (path : String) : List (Route α) :=
  router.tables.flatMap fun table =>
    table.routes.filter fun route =>
      table.mount.covers path && (route.template.matches? path).isSome

theorem candidates_sublist (router : Router α) (path : String) :
    (router.candidates path).Sublist router.routes := by
  unfold candidates routes
  induction router.tables with
  | nil => exact List.Sublist.refl _
  | cons table rest ih =>
    rw [List.flatMap_cons, List.flatMap_cons]
    exact List.filter_sublist.append ih

theorem matches?_of_mem_matching {path : String} {routes : List (Route α)}
    {hit : Route α × PathParams} (member : hit ∈ matching path routes) :
    hit.1.template.matches? path = some hit.2 := by
  obtain ⟨route, _, captured⟩ := List.mem_filterMap.mp member
  obtain ⟨params, found, rfl⟩ := Option.map_eq_some_iff.mp captured
  exact found

theorem map_fst_matching (path : String) (routes : List (Route α)) :
    (matching path routes).map (·.1) =
      routes.filter fun route => (route.template.matches? path).isSome := by
  induction routes with
  | nil => rfl
  | cons route rest ih =>
    unfold matching at ih ⊢
    rw [List.filterMap_cons, List.filter_cons, ← ih]
    cases route.template.matches? path <;> rfl

/-- The candidates are the routes of the matches from which a request is resolved. -/
theorem candidates_eq (router : Router α) (path : String) :
    router.candidates path = (matching path (router.coveringRoutes path)).map (·.1) := by
  rw [map_fst_matching]
  unfold candidates coveringRoutes
  induction router.tables with
  | nil => rfl
  | cons table rest ih =>
    rw [List.flatMap_cons, ih, List.filter_cons]
    cases covered : table.mount.covers path <;> simp

theorem find?_candidates (router : Router α) (method : Method) (path : String) :
    (router.candidates path).find? (·.method = method) =
      (firstOf method (matching path (router.coveringRoutes path))).map (·.1) := by
  rw [candidates_eq, List.find?_map]
  rfl

/-- A method that no candidate declares has no match of its own. -/
theorem firstOf_of_undeclared {router : Router α} {method : Method} {path : String}
    (undeclared : ∀ route ∈ router.candidates path, route.method ≠ method) :
    firstOf method (matching path (router.coveringRoutes path)) = none := by
  rw [← Option.map_eq_none_iff, ← find?_candidates, List.find?_eq_none]
  intro route candidate
  simpa using undeclared route candidate

/-- A served request is matched by the route that serves it, with what its template captures. -/
theorem resolve_of_serving? {router : Router α} {method : Method} {path : String}
    {hit : Route α × PathParams}
    (served : serving? method (matching path (router.coveringRoutes path)) = some hit) :
    ∃ params, hit.1.template.matches? path = some params ∧
      router.resolve method path = .matched hit.1 params := by
  refine ⟨hit.2, matches?_of_mem_matching (mem_of_serving? served), ?_⟩
  rw [resolve_eq_verdict, verdict, served]

/-- A request that is matched gets a mounted route that matches the path, of the request's own
method or one that stands in for it. -/
theorem of_resolve_eq_matched {router : Router α} {method : Method} {path : String}
    {route : Route α} {params : PathParams}
    (resolved : router.resolve method path = .matched route params) :
    route ∈ router.routes ∧ route.template.matches? path = some params ∧
      (route.method = method ∨ method = .head ∧ route.method = .get) := by
  rw [resolve_eq_verdict, verdict] at resolved
  split at resolved
  · next served =>
    cases resolved
    have member := mem_of_serving? served
    refine ⟨?_, matches?_of_mem_matching member, method_of_serving? served⟩
    refine (router.candidates_sublist path).subset ?_
    rw [candidates_eq]
    exact List.mem_map_of_mem member
  · split at resolved <;> cases resolved

/-- A request is matched by a candidate of its method if all candidates of that method are alike. -/
theorem resolve_of_only {router : Router α} {path : String} {route : Route α}
    (candidate : route ∈ router.candidates path)
    (only : ∀ other ∈ router.candidates path, other.method = route.method → other = route) :
    ∃ params, route.template.matches? path = some params ∧
      router.resolve route.method path = .matched route params := by
  have found : ((router.candidates path).find? (·.method = route.method)).isSome :=
    List.find?_isSome.mpr ⟨route, candidate, by simp⟩
  obtain ⟨other, first⟩ := Option.isSome_iff_exists.mp found
  have same := only other (List.mem_of_find?_eq_some first) (by simpa using List.find?_some first)
  rw [same, find?_candidates] at first
  obtain ⟨hit, own, rfl⟩ := Option.map_eq_some_iff.mp first
  exact resolve_of_serving? (by rw [serving?, own, Option.some_or])

/-- **What a request resolves to.** The first candidate of the request's own method wins, whatever
stands before it; for `HEAD` the first candidate of `GET` stands in. Otherwise the path is not found
exactly if it has no candidate, and else the methods of its candidates are the allowed ones. -/
theorem resolve_spec (router : Router α) (method : Method) (path : String) :
    (router.candidates path).Sublist router.routes ∧
    (∀ route, (router.candidates path).find? (·.method = method) = some route →
      ∃ params, route.template.matches? path = some params ∧
        router.resolve method path = .matched route params) ∧
    ((router.candidates path).find? (·.method = method) = none → method = .head →
      ∀ route, (router.candidates path).find? (·.method = .get) = some route →
        ∃ params, route.template.matches? path = some params ∧
          router.resolve method path = .matched route params) ∧
    (router.resolve method path = .notFound ↔ router.candidates path = []) ∧
    (router.candidates path ≠ [] →
      (router.candidates path).find? (·.method = method) = none →
      (method = .head → (router.candidates path).find? (·.method = .get) = none) →
      router.resolve method path =
        .methodNotAllowed ((router.candidates path).map (·.method)).eraseDups) := by
  have empty : router.candidates path = [] ↔ matching path (router.coveringRoutes path) = [] := by
    rw [candidates_eq, List.map_eq_nil_iff]
  have methods : (router.candidates path).map (·.method) =
      (matching path (router.coveringRoutes path)).map (·.1.method) := by
    rw [candidates_eq, List.map_map]
    rfl
  simp only [find?_candidates]
  refine ⟨router.candidates_sublist path, ?_, ?_, ?_, ?_⟩
  · intro route own
    obtain ⟨hit, found, rfl⟩ := Option.map_eq_some_iff.mp own
    exact resolve_of_serving? (by rw [serving?, found, Option.some_or])
  · intro noOwn isHead route standing
    obtain ⟨hit, found, rfl⟩ := Option.map_eq_some_iff.mp standing
    refine resolve_of_serving? ?_
    rw [serving?, Option.map_eq_none_iff.mp noOwn, Option.none_or, stand?, if_pos isHead, found]
  · rw [resolve_eq_verdict, verdict_eq_notFound_iff, empty]
  · intro matched noOwn noGet
    have noStand : stand? method (matching path (router.coveringRoutes path)) = none := by
      unfold stand?
      split
      · next isHead => exact Option.map_eq_none_iff.mp (noGet isHead)
      · rfl
    rw [resolve_eq_verdict, verdict, serving?, Option.map_eq_none_iff.mp noOwn, noStand,
      Option.none_or, methods]
    exact if_neg (mt empty.mpr matched)

end Petstore.Router
