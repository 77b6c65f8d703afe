import Petstore.Proofs.Routing.Methods
import Petstore.Proofs.Routing.Mounting

/-!
# Routers side by side

A router that mounts two lists of tables, one behind the other, resolves a request from what each of
the lists comes to by itself (`resolve_append`). A route of the request's own method wins wherever
it is mounted, so a `HEAD` route of the second list goes before a `GET` route of the first one that
would stand in for it.
-/

namespace Petstore.Router

variable {α : Type} {method : Method} {hits later : List (Route α × PathParams)}

/-! ## Matches side by side -/

theorem firstOf_append (method : Method) (hits later : List (Route α × PathParams)) :
    firstOf method (hits ++ later) = (firstOf method hits).or (firstOf method later) := by
  rw [firstOf, firstOf, firstOf, List.find?_append]

theorem stand?_append (method : Method) (hits later : List (Route α × PathParams)) :
    stand? method (hits ++ later) = (stand? method hits).or (stand? method later) := by
  unfold stand?
  split
  · exact firstOf_append .get hits later
  · rfl

theorem hitsOf_append (tables others : List (RouteTable α)) (path : String) :
    hitsOf ⟨tables ++ others⟩ path = hitsOf ⟨tables⟩ path ++ hitsOf ⟨others⟩ path := by
  unfold hitsOf coveringRoutes
  rw [List.filter_append, List.flatMap_append, matching_append]

theorem verdict_of_firstOf {hit : Route α × PathParams} (own : firstOf method hits = some hit) :
    verdict method hits = .matched hit.1 hit.2 :=
  verdict_of_served (by rw [serving?, own, Option.some_or])

theorem verdict_of_stand? {hit : Route α × PathParams} (noOwn : firstOf method hits = none)
    (stand : stand? method hits = some hit) : verdict method hits = .matched hit.1 hit.2 :=
  verdict_of_served (by rw [serving?, noOwn, Option.none_or, stand])

theorem firstOf_eq_none (unmatched : ¬ (verdict method hits).MatchedBy method) :
    firstOf method hits = none :=
  Option.eq_none_iff_forall_ne_some.mpr fun hit own =>
    unmatched (matchedBy_verdict_iff.mpr ⟨hit, own⟩)

/-- `HEAD` is served by a route of `GET` exactly if such a route matches and none of `HEAD`. -/
theorem matchedBy_get_verdict_head_iff (noOwn : firstOf .head hits = none) :
    (verdict .head hits).MatchedBy .get ↔ ∃ hit, stand? .head hits = some hit := by
  constructor
  · intro matched
    obtain ⟨hit, served, -⟩ := matchedBy_verdict matched
    rw [serving?, noOwn, Option.none_or] at served
    exact ⟨hit, served⟩
  · rintro ⟨hit, stand⟩
    refine ⟨hit.1, hit.2, verdict_of_stand? noOwn stand, ?_⟩
    rw [stand?, if_pos rfl] at stand
    simpa [firstOf] using List.find?_some stand

/-- A first match of the request's own method stays the first. -/
theorem verdict_append_of_own (own : (verdict method hits).MatchedBy method) :
    verdict method (hits ++ later) = verdict method hits := by
  obtain ⟨hit, first⟩ := matchedBy_verdict_iff.mp own
  have first' : firstOf method (hits ++ later) = some hit := by
    rw [firstOf_append, first, Option.some_or]
  rw [verdict_of_firstOf first, verdict_of_firstOf first']

theorem verdict_append_of_later_own (noOwn : ¬ (verdict method hits).MatchedBy method)
    (own : (verdict method later).MatchedBy method) :
    verdict method (hits ++ later) = verdict method later := by
  obtain ⟨hit, first⟩ := matchedBy_verdict_iff.mp own
  have first' : firstOf method (hits ++ later) = some hit := by
    rw [firstOf_append, firstOf_eq_none noOwn, Option.none_or, first]
  rw [verdict_of_firstOf first, verdict_of_firstOf first']

section Head

variable (noOwn : ¬ (verdict .head hits).MatchedBy .head)
  (noOwn' : ¬ (verdict .head later).MatchedBy .head)

include noOwn noOwn'

theorem firstOf_head_append_eq_none : firstOf .head (hits ++ later) = none := by
  rw [firstOf_append, firstOf_eq_none noOwn, firstOf_eq_none noOwn', Option.none_or]

/-- Without a route of `HEAD` on either side, the first route of `GET` stays the first. -/
theorem verdict_head_append_of_get (stands : (verdict .head hits).MatchedBy .get) :
    verdict .head (hits ++ later) = verdict .head hits := by
  obtain ⟨hit, stand⟩ := (matchedBy_get_verdict_head_iff (firstOf_eq_none noOwn)).mp stands
  have stand' : stand? .head (hits ++ later) = some hit := by
    rw [stand?_append, stand, Option.some_or]
  rw [verdict_of_stand? (firstOf_eq_none noOwn) stand,
    verdict_of_stand? (firstOf_head_append_eq_none noOwn noOwn') stand']

theorem verdict_head_append_of_later_get (noStand : ¬ (verdict .head hits).MatchedBy .get)
    (stands : (verdict .head later).MatchedBy .get) :
    verdict .head (hits ++ later) = verdict .head later := by
  have standsIff := matchedBy_get_verdict_head_iff (firstOf_eq_none noOwn)
  have noStand : stand? .head hits = none :=
    Option.eq_none_iff_forall_ne_some.mpr fun hit stand => noStand (standsIff.mpr ⟨hit, stand⟩)
  obtain ⟨hit, stand⟩ := (matchedBy_get_verdict_head_iff (firstOf_eq_none noOwn')).mp stands
  have stand' : stand? .head (hits ++ later) = some hit := by
    rw [stand?_append, noStand, Option.none_or, stand]
  rw [verdict_of_stand? (firstOf_eq_none noOwn') stand,
    verdict_of_stand? (firstOf_head_append_eq_none noOwn noOwn') stand']

end Head

/-! ## Misses side by side -/

/-- Of two lists the first is kept, and of the second what is new. -/
theorem eraseDups_append_eq {β : Type} [DecidableEq β] (xs ys : List β) :
    (xs ++ ys).eraseDups = xs.eraseDups ++ ys.eraseDups.filter (· ∉ xs.eraseDups) := by
  rw [List.eraseDups_append, List.removeAll, ← filter_eraseDups]
  congr 2
  funext y
  rw [Bool.eq_iff_iff]
  simp [List.mem_eraseDups]

theorem serving?_eq_none (unmatched : ¬ (verdict method hits).MatchedBy method)
    (noStand : method = .head → ¬ (verdict method hits).MatchedBy .get) :
    serving? method hits = none := by
  have noOwn := firstOf_eq_none unmatched
  rw [serving?, noOwn, Option.none_or, Option.eq_none_iff_forall_ne_some]
  intro hit stand
  by_cases isHead : method = .head
  · subst isHead
    exact noStand rfl ((matchedBy_get_verdict_head_iff noOwn).mpr ⟨hit, stand⟩)
  · rw [stand?, if_neg isHead] at stand
    cases stand

theorem serving?_append_eq_none (unserved : serving? method hits = none)
    (unserved' : serving? method later = none) : serving? method (hits ++ later) = none := by
  rw [serving?, Option.or_eq_none_iff] at unserved unserved' ⊢
  rw [firstOf_append, stand?_append, unserved.1, unserved.2, unserved'.1, unserved'.2]
  exact ⟨rfl, rfl⟩

theorem allowed_verdict_of_unserved (unserved : serving? method hits = none) :
    (verdict method hits).allowed = (hits.map (·.1.method)).eraseDups := by
  rw [verdict_of_unserved unserved]
  split
  · next empty => rw [empty]; rfl
  · rfl

/-- Of two misses the methods are listed in order, each once. -/
theorem verdict_append_of_unserved (unserved : serving? method hits = none)
    (unserved' : serving? method later = none) (found : ¬ (hits = [] ∧ later = [])) :
    verdict method (hits ++ later) =
      .methodNotAllowed ((verdict method hits).allowed ++
        (verdict method later).allowed.filter (· ∉ (verdict method hits).allowed)) := by
  rw [verdict_of_unserved (serving?_append_eq_none unserved unserved'),
    if_neg (mt List.append_eq_nil_iff.mp found), List.map_append, eraseDups_append_eq,
    allowed_verdict_of_unserved unserved, allowed_verdict_of_unserved unserved']

/-! ## Tables side by side -/

/-- **Mounting further tables.** A request that the first tables answer by a route of its own method
gets the same answer, and so does one for which only the further tables have such a route. For
`HEAD` a route of `GET` stands in otherwise, of the first tables if these have one. Otherwise the
path is not found exactly if both do not find it, and else the methods of the first tables are
allowed, and then those that only the further ones have. -/
theorem resolve_append (tables others : List (RouteTable α)) (method : Method) (path : String) :
    let first := resolve ⟨tables⟩ method path
    let second := resolve ⟨others⟩ method path
    let both := resolve ⟨tables ++ others⟩ method path
    (first.MatchedBy method → both = first) ∧
    (¬ first.MatchedBy method → second.MatchedBy method → both = second) ∧
    (¬ first.MatchedBy method → ¬ second.MatchedBy method → method = .head →
      (first.MatchedBy .get → both = first) ∧
      (¬ first.MatchedBy .get → second.MatchedBy .get → both = second)) ∧
    (¬ first.MatchedBy method → ¬ second.MatchedBy method →
      (method = .head → ¬ first.MatchedBy .get ∧ ¬ second.MatchedBy .get) →
      (both = .notFound ↔ first = .notFound ∧ second = .notFound) ∧
      (¬ (first = .notFound ∧ second = .notFound) →
        both = .methodNotAllowed
          (first.allowed ++ second.allowed.filter (· ∉ first.allowed)))) := by
  simp only [resolve_eq_verdict]
  have split := hitsOf_append tables others path
  unfold hitsOf at split
  rw [split]
  refine ⟨verdict_append_of_own, verdict_append_of_later_own, ?_, ?_⟩
  · rintro noOwn noOwn' rfl
    exact ⟨verdict_head_append_of_get noOwn noOwn', verdict_head_append_of_later_get noOwn noOwn'⟩
  · intro noOwn noOwn' noGet
    have unserved := serving?_eq_none noOwn fun isHead => (noGet isHead).1
    have unserved' := serving?_eq_none noOwn' fun isHead => (noGet isHead).2
    rw [verdict_eq_notFound_iff, verdict_eq_notFound_iff, verdict_eq_notFound_iff]
    exact ⟨List.append_eq_nil_iff, verdict_append_of_unserved unserved unserved'⟩

/-- A route of `HEAD` in a table that is mounted later goes before the `GET` route that would stand
in for it. -/
theorem resolve_append_later_head :
    let template : PathTemplate := ⟨[.literal "store", .literal "inventory"]⟩
    let shown : Route Unit := ⟨.get, template, "getInventory", ()⟩
    let sized : Route Unit := ⟨.head, template, "headInventory", ()⟩
    let store : RouteTable Unit := ⟨"store", ⟨"/store"⟩, [shown]⟩
    let sizes : RouteTable Unit := ⟨"sizes", ⟨"/store"⟩, [sized]⟩
    resolve ⟨[store]⟩ .head "/store/inventory" = .matched shown ∅ ∧
      resolve ⟨[store, sizes]⟩ .head "/store/inventory" = .matched sized ∅ := by
  intro template shown sized store sizes
  have first : resolve ⟨[store]⟩ .head "/store/inventory" = .matched shown ∅ := by
    simp only [store, shown, template]
    rfl
  have second : resolve ⟨[sizes]⟩ .head "/store/inventory" = .matched sized ∅ := by
    simp only [sizes, sized, template]
    rfl
  have noOwn : ¬ (resolve ⟨[store]⟩ .head "/store/inventory").MatchedBy .head := by
    rw [first]
    rintro ⟨route, params, same, declared⟩
    cases same
    exact absurd declared (by decide)
  have own : (resolve ⟨[sizes]⟩ .head "/store/inventory").MatchedBy .head :=
    ⟨sized, ∅, second, rfl⟩
  have both := (resolve_append [store] [sizes] .head "/store/inventory").2.1 noOwn own
  exact ⟨first, both.trans second⟩

end Petstore.Router
