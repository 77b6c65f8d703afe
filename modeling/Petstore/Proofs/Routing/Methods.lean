import Petstore.Proofs.Routing.Resolution

/-!
# One path under several methods

All methods are resolved from the same matches of a path, so what one method comes to says something
about every other: refused methods are told the same list, the list holds the methods that have a
route of their own (`mem_allowed_iff`), and a path is missing for all methods or for none.
-/

namespace Petstore

/-! ## Lists without repetitions -/

section Repetitions

variable {β : Type} [DecidableEq β]

/-- A further element is kept unless it occurred before. -/
theorem eraseDups_concat (xs : List β) (x : β) :
    (xs ++ [x]).eraseDups = if x ∈ xs then xs.eraseDups else xs.eraseDups ++ [x] := by
  rw [List.eraseDups_append]
  by_cases known : x ∈ xs
  · simp [List.removeAll, known]
  · simp [List.removeAll, known, List.eraseDups_cons]

theorem nodup_eraseDups (xs : List β) : xs.eraseDups.Nodup := by
  induction xs using List.reverseRecOn with
  | nil => exact List.nodup_nil
  | append_singleton xs x ih =>
    rw [eraseDups_concat]
    split
    · exact ih
    · next new =>
      refine List.nodup_append.mpr ⟨ih, by simp, ?_⟩
      rintro y member z last rfl
      rw [List.mem_singleton.mp last] at member
      exact new (List.mem_eraseDups.mp member)

theorem filter_eraseDups (p : β → Bool) (xs : List β) :
    xs.eraseDups.filter p = (xs.filter p).eraseDups := by
  induction xs using List.reverseRecOn with
  | nil => rfl
  | append_singleton xs x ih =>
    rw [eraseDups_concat, List.filter_append]
    by_cases chosen : p x = true
    · rw [List.filter_cons_of_pos chosen, List.filter_nil, eraseDups_concat, ← ih]
      by_cases known : x ∈ xs
      · simp [known, chosen]
      · simp [known, chosen]
    · rw [List.filter_cons_of_neg chosen, List.filter_nil, List.append_nil, ← ih]
      split
      · rfl
      · simp [chosen]

end Repetitions

/-! ## Resolutions -/

variable {α : Type}

namespace Resolution

/-- The resolution is a match by a route that declares the method. -/
def MatchedBy (method : Method) (resolution : Resolution α) : Prop :=
  ∃ route params, resolution = .matched route params ∧ route.method = method

/-- The methods that a refused method is told; none where nothing was refused. -/
def allowed : Resolution α → List Method
  | methodNotAllowed allowed => allowed
  | matched .. => []
  | notFound => []

end Resolution

namespace Router

variable {method : Method} {hits : List (Route α × PathParams)} {allowed : List Method}

/-- A method has a first match exactly if some match declares it. -/
theorem exists_firstOf_iff :
    (∃ hit, firstOf method hits = some hit) ↔ ∃ hit ∈ hits, hit.1.method = method := by
  rw [← Option.isSome_iff_exists, firstOf, List.find?_isSome]
  simp

theorem verdict_of_served {hit : Route α × PathParams} (served : serving? method hits = some hit) :
    verdict method hits = .matched hit.1 hit.2 := by
  rw [verdict, served]

theorem verdict_of_unserved (unserved : serving? method hits = none) :
    verdict method hits =
      if hits = [] then .notFound else .methodNotAllowed (hits.map (·.1.method)).eraseDups := by
  rw [verdict, unserved]

/-- What matches by a route of some method is what serves the request. -/
theorem matchedBy_verdict {other : Method} (matched : (verdict method hits).MatchedBy other) :
    ∃ hit, serving? method hits = some hit ∧ hit.1.method = other := by
  obtain ⟨route, params, resolved, declared⟩ := matched
  cases served : serving? method hits with
  | some hit =>
    rw [verdict_of_served served] at resolved
    cases resolved
    exact ⟨hit, rfl, declared⟩
  | none =>
    rw [verdict_of_unserved served] at resolved
    split at resolved <;> cases resolved

/-- A request is matched by a route of its own method exactly if its method has a first match. -/
theorem matchedBy_verdict_iff :
    (verdict method hits).MatchedBy method ↔ ∃ hit, firstOf method hits = some hit := by
  constructor
  · intro matched
    obtain ⟨hit, served, declared⟩ := matchedBy_verdict matched
    exact exists_firstOf_iff.mpr ⟨hit, mem_of_serving? served, declared⟩
  · rintro ⟨hit, own⟩
    have served : serving? method hits = some hit := by rw [serving?, own, Option.some_or]
    refine ⟨hit.1, hit.2, verdict_of_served served, ?_⟩
    simpa [firstOf] using List.find?_some own

/-- A refusal lists the methods of the matches, of which there are some, and none of these serves
the request. -/
theorem of_verdict_eq_methodNotAllowed (refused : verdict method hits = .methodNotAllowed allowed) :
    serving? method hits = none ∧ hits ≠ [] ∧ allowed = (hits.map (·.1.method)).eraseDups := by
  cases served : serving? method hits with
  | some hit =>
    rw [verdict_of_served served] at refused
    cases refused
  | none =>
    rw [verdict_of_unserved served] at refused
    split at refused
    · cases refused
    · next found =>
      cases refused
      exact ⟨rfl, found, rfl⟩

/-! ## What refusals say -/

section Refusals

variable {router : Router α} {other : Method} {path : String} {others : List Method}

/-- The matches of a path, from which all methods are resolved. -/
def hitsOf (router : Router α) (path : String) : List (Route α × PathParams) :=
  matching path (router.coveringRoutes path)

theorem of_refused (refused : router.resolve method path = .methodNotAllowed allowed) :
    serving? method (router.hitsOf path) = none ∧ router.hitsOf path ≠ [] ∧
      allowed = ((router.hitsOf path).map (·.1.method)).eraseDups := by
  rw [resolve_eq_verdict] at refused
  exact of_verdict_eq_methodNotAllowed refused

theorem allowed_eq (refused : router.resolve method path = .methodNotAllowed allowed) :
    allowed = ((router.hitsOf path).map (·.1.method)).eraseDups :=
  (of_refused refused).2.2

theorem allowed_ne_nil (refused : router.resolve method path = .methodNotAllowed allowed) :
    allowed ≠ [] := by
  obtain ⟨-, found, rfl⟩ := of_refused refused
  obtain ⟨hit, rest, whole⟩ := List.exists_cons_of_ne_nil found
  rw [whole, List.map_cons, List.eraseDups_cons]
  exact List.cons_ne_nil _ _

/-- All refused methods are told the same list. -/
theorem allowed_unique (refused : router.resolve method path = .methodNotAllowed allowed)
    (refused' : router.resolve other path = .methodNotAllowed others) : allowed = others := by
  rw [allowed_eq refused, allowed_eq refused']

theorem nodup_allowed (refused : router.resolve method path = .methodNotAllowed allowed) :
    allowed.Nodup := by
  rw [allowed_eq refused]
  exact nodup_eraseDups _

/-- The listed methods are those that a route of their own answers on the path. -/
theorem mem_allowed_iff (refused : router.resolve method path = .methodNotAllowed allowed)
    (other : Method) : other ∈ allowed ↔ (router.resolve other path).MatchedBy other := by
  rw [allowed_eq refused, List.mem_eraseDups, List.mem_map, resolve_eq_verdict,
    matchedBy_verdict_iff, exists_firstOf_iff, hitsOf]

/-- `HEAD` is refused only where neither `HEAD` nor `GET` is listed. -/
theorem not_mem_of_head_refused (refused : router.resolve .head path = .methodNotAllowed allowed) :
    .head ∉ allowed ∧ .get ∉ allowed := by
  have unserved := (of_refused refused).1
  rw [serving?, stand?, if_pos rfl, Option.or_eq_none_iff] at unserved
  rw [allowed_eq refused]
  simpa [firstOf] using unserved

/-- A path is missing for one method exactly if it is for every other. -/
theorem resolve_eq_notFound_congr (router : Router α) (path : String) (method other : Method) :
    router.resolve method path = .notFound ↔ router.resolve other path = .notFound := by
  rw [resolve_eq_verdict, resolve_eq_verdict, verdict_eq_notFound_iff, verdict_eq_notFound_iff]

end Refusals

end Router

end Petstore
