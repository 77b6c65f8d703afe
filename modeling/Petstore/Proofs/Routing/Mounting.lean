import Petstore.Proofs.Routing.Resolution
import Petstore.Proofs.Routing.Template

/-!
# Mounts and the routes below them

A table's mount is compared twice: with the texts of the templates when the table is built, and with
the path of every request. Both comparisons are about pieces between slashes, and they agree as far
as the pieces of the mount are literals in the templates:

* `resolve_eq_resolvePlain`: under mounts without parameters the comparison with the path leaves out
  no match.
* `serves_fill_iff_of_build`: under any mount, the fillings of a template that are served are those
  that leave the parameters within the mount as they are written.
-/

namespace Petstore

variable {α : Type}

/-! ## Mounts by pieces -/

namespace Mount

theorem covers_iff_eq_or {mount : Mount} {path : String} :
    mount.covers path = true ↔
      path.toList = mount.path.toList ∨
        ∃ rest, path.toList = mount.path.toList ++ '/' :: rest := by
  unfold covers
  constructor
  · intro covered
    split at covered
    · next whole =>
      exact Or.inl ((Text.after?_eq_some_iff.mp whole).trans (List.append_nil _))
    · next c rest whole =>
      have slash : c = '/' := eq_of_beq covered
      exact Or.inr ⟨rest, slash ▸ Text.after?_eq_some_iff.mp whole⟩
    · cases covered
  · rintro (whole | ⟨rest, whole⟩)
    · rw [Text.after?_eq_some_iff.mpr (whole.trans (List.append_nil _).symm)]
    · rw [Text.after?_eq_some_iff.mpr whole]
      rfl

/-- A mount covers the paths whose first pieces are its own. -/
theorem covers_iff_pieces {mount : Mount} {path : String} :
    mount.covers path = true ↔
      Text.pieces '/' mount.path.toList <+: Text.pieces '/' path.toList := by
  rw [covers_iff_eq_or]
  constructor
  · rintro (whole | ⟨rest, whole⟩)
    · exact whole ▸ List.prefix_refl _
    · rw [whole, Text.pieces_append_cons]
      exact List.prefix_append _ _
  · rintro ⟨others, same⟩
    rcases others with _ | ⟨first, others⟩
    · rw [List.append_nil] at same
      exact Or.inl (Text.pieces_injective same.symm)
    · have clean : ∀ piece ∈ first :: others, '/' ∉ piece := fun piece member =>
        Text.not_mem_of_mem_pieces (same ▸ List.mem_append_right _ member)
      have joined : Text.pieces '/' path.toList =
          Text.pieces '/' (mount.path.toList ++ '/' :: ['/'].intercalate (first :: others)) := by
        rw [Text.pieces_append_cons, Text.pieces_intercalate (by simp) clean, same]
      exact Or.inr ⟨_, Text.pieces_injective joined⟩

/-- The number of segments in a mount. -/
def depth (mount : Mount) : Nat :=
  (Text.pieces '/' mount.path.toList).length - 1

end Mount

/-- Only slashes are taken off a path to mount under. -/
theorem Mount.mem_ofText_iff {text : String} {c : Char} (notSlash : c ≠ '/') :
    c ∈ (ofText text).path.toList ↔ c ∈ text.toList := by
  rw [ofText, String.toList_ofList]
  exact Text.mem_trimEnd (beq_false_of_ne notSlash)

/-- The pieces of a path that has parts: the empty one before the first slash, and the parts. -/
theorem PathTemplate.pieces_of_parts? {path : String} {parts : List (List Char)}
    (split : parts? path = some parts) :
    Text.pieces '/' path.toList = [] :: if parts = [] then [[]] else parts := by
  unfold parts? at split
  split at split
  · next root =>
    cases split
    rw [root]
    rfl
  · next rest notRoot whole =>
    cases split
    rw [whole, Text.pieces_cons, if_pos rfl, if_neg (Text.pieces_ne_nil '/' rest)]
  · cases split

/-- The pieces of a mount are the parts of any path that it covers, as deep as the mount. -/
theorem Mount.pieces_of_covers {mount : Mount} {path : String} {parts : List (List Char)}
    (covered : mount.covers path = true) (split : PathTemplate.parts? path = some parts) :
    Text.pieces '/' mount.path.toList =
      [] :: (if parts = [] then [[]] else parts).take mount.depth := by
  rw [covers_iff_pieces, PathTemplate.pieces_of_parts? split] at covered
  rw [depth]
  obtain ⟨first, rest, whole⟩ := List.exists_cons_of_ne_nil
    (Text.pieces_ne_nil '/' mount.path.toList)
  rw [whole, List.cons_prefix_cons] at covered
  rw [whole, List.length_cons, Nat.add_sub_cancel, covered.1,
    ← List.prefix_iff_eq_take.mp covered.2]

/-- Of two paths with equally many parts, where a mount covers one, it covers the other exactly if
they agree on the parts as deep as the mount. -/
theorem Mount.covers_iff_take {mount : Mount} {path other : String}
    {parts others : List (List Char)} (covered : mount.covers path = true)
    (split : PathTemplate.parts? path = some parts)
    (splitOther : PathTemplate.parts? other = some others)
    (length : others.length = parts.length) :
    mount.covers other = true ↔ others.take mount.depth = parts.take mount.depth := by
  have pieces := pieces_of_covers covered split
  rw [covers_iff_pieces, PathTemplate.pieces_of_parts? splitOther, pieces, List.cons_prefix_cons]
  by_cases root : parts = []
  · have rootOther : others = [] := List.eq_nil_of_length_eq_zero (by rw [length, root]; rfl)
    subst root rootOther
    exact ⟨fun _ => rfl, fun _ => ⟨rfl, List.take_prefix _ _⟩⟩
  · have notRoot : others ≠ [] := fun none => root
      (List.eq_nil_of_length_eq_zero (by rw [← length, none]; rfl))
    rw [if_neg root, if_neg notRoot, List.prefix_iff_eq_take, List.length_take, ← length,
      ← List.take_eq_take_min]
    exact (and_iff_right rfl).trans eq_comm

/-- The characters of a mount, slashes apart, are those of the parts as deep as the mount. -/
theorem Mount.mem_path_iff {mount : Mount} {path : String} {parts : List (List Char)} {c : Char}
    (covered : mount.covers path = true) (split : PathTemplate.parts? path = some parts)
    (notSlash : c ≠ '/') :
    c ∈ mount.path.toList ↔ ∃ part ∈ parts.take mount.depth, c ∈ part := by
  have inPieces : c ∈ mount.path.toList ↔ c ∈ (Text.pieces '/' mount.path.toList).flatten := by
    rw [Text.mem_flatten_pieces]
    exact (and_iff_left notSlash).symm
  rw [inPieces, pieces_of_covers covered split, List.flatten_cons, List.nil_append]
  by_cases root : parts = []
  · rw [if_pos root, root]
    cases mount.depth <;> simp
  · rw [if_neg root, List.mem_flatten]

/-! ## Tables that were built -/

/-- A route as a table has it: its template is well formed and its text lies under the mount. -/
structure Route.LiesUnder (route : Route α) (mount : Mount) : Prop where
  wellFormed : route.template.WellFormed
  covered : mount.covers route.template.text = true

namespace RouteTable

/-- What a declaration comes to behind the routes that were accepted before it. -/
inductive Ruling (mount : Mount) (accepted : List (Route α)) (declared : Declaration α) :
    Except TableIssue (Route α) → Prop
  | malformed {reason : TemplateError} :
    PathTemplate.parse declared.template = .error reason →
      Ruling mount accepted declared (.error (.malformedTemplate declared.template reason))
  | outside {template : PathTemplate} :
    PathTemplate.parse declared.template = .ok template →
    mount.covers declared.template = false →
      Ruling mount accepted declared (.error (.outsideMount declared.template mount))
  | duplicate {template : PathTemplate} :
    PathTemplate.parse declared.template = .ok template →
    mount.covers declared.template = true →
    (∃ route ∈ accepted,
      route.method = declared.method ∧ route.template.sameShape template = true) →
      Ruling mount accepted declared (.error (.duplicateRoute declared.method declared.template))
  | fresh {template : PathTemplate} :
    PathTemplate.parse declared.template = .ok template →
    mount.covers declared.template = true →
    (¬ ∃ route ∈ accepted,
      route.method = declared.method ∧ route.template.sameShape template = true) →
      Ruling mount accepted declared
        (.ok ⟨declared.method, template, declared.name, declared.action⟩)

theorem ruling_accept (mount : Mount) (accepted : List (Route α)) (declared : Declaration α) :
    Ruling mount accepted declared (accept mount accepted declared) := by
  unfold accept
  split
  · next reason unread => exact .malformed unread
  · next template read =>
    split
    · next uncovered => exact .outside read (by simpa using uncovered)
    · next covered =>
      have covered : mount.covers declared.template = true := by simpa using covered
      split
      · next known => exact .duplicate read covered (by simpa using known)
      · next new => exact .fresh read covered (by simpa using new)

theorem accept_eq_ok {mount : Mount} {accepted : List (Route α)} {declared : Declaration α}
    {route : Route α} (success : accept mount accepted declared = .ok route) :
    route.LiesUnder mount := by
  have ruling := ruling_accept mount accepted declared
  rw [success] at ruling
  cases ruling with
  | fresh read covered _ =>
    obtain ⟨wellFormed, text⟩ := PathTemplate.parse_eq_ok read
    exact ⟨wellFormed, text.symm ▸ covered⟩

/-- Sifting adds only routes that lie under the mount. -/
theorem liesUnder_of_mem_sift {mount : Mount} {accepted : List (Route α)}
    {issues : List TableIssue} {declarations : List (Declaration α)} {route : Route α}
    (before : ∀ earlier ∈ accepted, earlier.LiesUnder mount)
    (member : route ∈ (sift mount accepted issues declarations).1) : route.LiesUnder mount := by
  induction declarations generalizing accepted issues with
  | nil => exact before route member
  | cons declared rest ih =>
    rw [sift] at member
    split at member
    · next added success =>
      refine ih (fun earlier inside => ?_) member
      rcases List.mem_append.mp inside with old | new
      · exact before earlier old
      · rw [List.mem_singleton.mp new]
        exact accept_eq_ok success
    · exact ih before member

/-- A table is built when sifting leaves no issues, and its routes are those that were accepted. -/
theorem sift_of_build {resource mountPath : String} {declarations : List (Declaration α)}
    {table : RouteTable α} (built : build resource mountPath declarations = .ok table) :
    table.routes = (sift (Mount.ofText mountPath) [] [] declarations).1 ∧
      table.mount = Mount.ofText mountPath := by
  unfold build at built
  simp only at built
  split at built
  · next routes sifted =>
    cases built
    rw [sifted]
    exact ⟨rfl, rfl⟩
  · cases built

/-- A table that is built has the mount that was asked for, and its routes lie under it. -/
theorem build_eq_ok {resource mountPath : String} {declarations : List (Declaration α)}
    {table : RouteTable α} (built : build resource mountPath declarations = .ok table) :
    table.mount = Mount.ofText mountPath ∧ ∀ route ∈ table.routes, route.LiesUnder table.mount := by
  obtain ⟨routes, mounted⟩ := sift_of_build built
  rw [routes, mounted]
  exact ⟨rfl, fun route member => liesUnder_of_mem_sift (by simp) member⟩

end RouteTable

/-! ## Where both comparisons agree -/

namespace Route.LiesUnder

variable {route : Route α} {mount : Mount}

theorem parts?_text (under : route.LiesUnder mount) :
    PathTemplate.parts? route.template.text =
      some (route.template.segments.map (·.text.toList)) :=
  PathTemplate.parts?_text under.wellFormed

/-- The mount has braces exactly if a parameter lies within its depth. -/
theorem brace_iff (under : route.LiesUnder mount) :
    '{' ∈ mount.path.toList ↔ ∃ name, .param name ∈ route.template.segments.take mount.depth := by
  rw [mount.mem_path_iff under.covered under.parts?_text (by decide), ← List.map_take]
  constructor
  · rintro ⟨part, member, brace⟩
    obtain ⟨segment, inside, rfl⟩ := List.mem_map.mp member
    have wellFormed := under.wellFormed.segments segment (List.mem_of_mem_take inside)
    obtain ⟨name, rfl⟩ := wellFormed.mem_brace_iff.mp brace
    exact ⟨name, inside⟩
  · rintro ⟨name, inside⟩
    have wellFormed := under.wellFormed.segments _ (List.mem_of_mem_take inside)
    exact ⟨_, List.mem_map.mpr ⟨_, inside, rfl⟩, wellFormed.mem_brace_iff.mpr ⟨name, rfl⟩⟩

/-- A mount without parameters covers every path that a route below it matches. -/
theorem covers_of_matches? (under : route.LiesUnder mount) (literal : '{' ∉ mount.path.toList)
    {path : String} (matched : (route.template.matches? path).isSome) :
    mount.covers path = true := by
  obtain ⟨parts, split, accepted⟩ := PathTemplate.isSome_matches?_iff.mp matched
  have length : parts.length = (route.template.segments.map (·.text.toList)).length := by
    rw [List.length_map, accepted.length_eq]
  rw [mount.covers_iff_take under.covered under.parts?_text split length, ← List.map_take]
  refine PathTemplate.eq_of_accepts_of_literal (List.forall₂_take _ accepted) ?_
  rintro segment inside name rfl
  exact literal (under.brace_iff.mpr ⟨name, inside⟩)

/-- A mount covers a filling exactly if the parameters within its depth stand for themselves. -/
theorem covers_fill_iff (under : route.LiesUnder mount) {values : String → String}
    (fits : route.template.Fits values) :
    mount.covers (route.template.fill values) = true ↔
      ∀ name, .param name ∈ route.template.segments.take mount.depth →
        values name = Segment.placeholder name := by
  rw [mount.covers_iff_take under.covered under.parts?_text
    (PathTemplate.parts?_fill under.wellFormed fits) (by simp), ← List.map_take, ← List.map_take,
    List.map_inj_left]
  constructor
  · intro same name inside
    exact String.toList_inj.mp (same _ inside)
  · intro same segment inside
    cases segment with
    | literal text => rfl
    | param name => exact congrArg String.toList (same name inside)

end Route.LiesUnder

/-! ## Selection by mounts -/

namespace RouteTable

/-- The table is the result of building one. -/
def Built (table : RouteTable α) : Prop :=
  ∃ resource mountPath declarations, build resource mountPath declarations = .ok table

theorem Built.liesUnder {table : RouteTable α} (built : table.Built) {route : Route α}
    (member : route ∈ table.routes) : route.LiesUnder table.mount := by
  obtain ⟨_, _, _, built⟩ := built
  exact (build_eq_ok built).2 route member

end RouteTable

namespace Router

/-- The resolution that tries the template of every route, whatever its table is mounted under. -/
def resolvePlain (router : Router α) (method : Method) (path : String) : Resolution α :=
  scan method path {} router.routes

theorem matching_append (path : String) (routes others : List (Route α)) :
    matching path (routes ++ others) = matching path routes ++ matching path others :=
  List.filterMap_append

theorem matching_eq_nil {path : String} {routes : List (Route α)}
    (unmatched : ∀ route ∈ routes, ¬ (route.template.matches? path).isSome) :
    matching path routes = [] := by
  refine List.filterMap_eq_nil_iff.mpr fun route member => ?_
  rw [Option.map_eq_none_iff, ← Option.not_isSome_iff_eq_none]
  exact unmatched route member

/-- The tables that a selection by mounts leaves out have no match. -/
theorem matching_coveringRoutes {router : Router α}
    (built : ∀ table ∈ router.tables, table.Built)
    (literal : ∀ table ∈ router.tables, '{' ∉ table.mount.path.toList) (path : String) :
    matching path (router.coveringRoutes path) = matching path router.routes := by
  obtain ⟨tables⟩ := router
  unfold coveringRoutes routes
  induction tables with
  | nil => rfl
  | cons table rest ih =>
    have later := ih (fun other member => built other (List.mem_cons_of_mem _ member))
      (fun other member => literal other (List.mem_cons_of_mem _ member))
    rw [List.flatMap_cons, matching_append, ← later, List.filter_cons]
    split
    · rw [List.flatMap_cons, matching_append]
    · next uncovered =>
      have unmatched : matching path table.routes = [] := by
        refine matching_eq_nil fun route member matched => uncovered ?_
        exact ((built table (by simp)).liesUnder member).covers_of_matches?
          (literal table (by simp)) matched
      rw [unmatched, List.nil_append]

/-- **Selection by mounts is an optimisation.** With mounts that have no parameters, looking only at
the tables whose mount covers the path comes to the same as trying every template. -/
theorem resolve_eq_resolvePlain {router : Router α}
    (built : ∀ table ∈ router.tables, table.Built)
    (literal : ∀ table ∈ router.tables, '{' ∉ table.mount.path.toList)
    (method : Method) (path : String) :
    router.resolve method path = router.resolvePlain method path := by
  rw [resolve_eq_verdict, resolvePlain, scan_eq_verdict, matching_coveringRoutes built literal]

theorem resolve_eq_resolvePlain_pets_orders :
    let pets : RouteTable Unit :=
      ⟨"pet", ⟨"/pet"⟩, [⟨.get, ⟨[.literal "pet", .param "petId"]⟩, "getPetById", ()⟩]⟩
    let orders : RouteTable Unit :=
      ⟨"store", ⟨"/store"⟩,
        [⟨.get, ⟨[.literal "store", .literal "inventory"]⟩, "getInventory", ()⟩]⟩
    (∀ table ∈ [pets, orders], table.Built) ∧
      (∀ table ∈ [pets, orders], '{' ∉ table.mount.path.toList) ∧
      resolve ⟨[pets, orders]⟩ .head "/store/inventory" =
        resolvePlain ⟨[pets, orders]⟩ .head "/store/inventory" := by
  intro pets orders
  have pets_built : pets.Built :=
    ⟨"pet", "/pet", [⟨.get, "/pet/\x7bpetId\x7d", "getPetById", ()⟩], rfl⟩
  have orders_built : orders.Built :=
    ⟨"store", "/store/", [⟨.get, "/store/inventory", "getInventory", ()⟩], rfl⟩
  have built : ∀ table ∈ [pets, orders], table.Built :=
    List.forall_mem_cons.mpr ⟨pets_built, List.forall_mem_singleton.mpr orders_built⟩
  have literal : ∀ table ∈ [pets, orders], '{' ∉ table.mount.path.toList := by decide
  exact ⟨built, literal, resolve_eq_resolvePlain built literal .head "/store/inventory"⟩

end Router

/-! ## Tables on their own -/

namespace RouteTable

variable {table : RouteTable α} {before after : List (Route α)} {route : Route α} {path : String}

/-- A router with just this table resolves the path, under the method of the route, to the route or
to one before it, which declares the same method and matches the path too. -/
def Serves (table : RouteTable α) (before : List (Route α)) (route : Route α) (path : String) :
    Prop :=
  ∃ server ∈ before ++ [route], server.method = route.method ∧
    ∃ params, server.template.matches? path = some params ∧
      Router.resolve ⟨[table]⟩ route.method path = .matched server params

/-- Under a mount that covers the path, a route that matches is served by the first of its method
that matches. -/
theorem serves_of_covers (order : table.routes = before ++ route :: after)
    (covered : table.mount.covers path = true) (matched : (route.template.matches? path).isSome) :
    table.Serves before route path := by
  obtain ⟨params, captured⟩ := Option.isSome_iff_exists.mp matched
  have reached : Router.coveringRoutes ⟨[table]⟩ path = (before ++ [route]) ++ after := by
    simp [Router.coveringRoutes, covered, order]
  have found : (Router.firstOf route.method
      (Router.matching path (before ++ [route]))).isSome := by
    refine List.find?_isSome.mpr ⟨(route, params), ?_, by simp⟩
    exact List.mem_filterMap.mpr ⟨route, by simp, by rw [captured]; rfl⟩
  obtain ⟨hit, first⟩ := Option.isSome_iff_exists.mp found
  have member : hit ∈ Router.matching path (before ++ [route]) := List.mem_of_find?_eq_some first
  have served : Router.serving? route.method
      (Router.matching path (Router.coveringRoutes ⟨[table]⟩ path)) = some hit := by
    rw [reached, Router.matching_append, Router.serving?, Router.firstOf, List.find?_append]
    rw [Router.firstOf] at first
    rw [first, Option.some_or, Option.some_or]
  obtain ⟨captures, captured, resolved⟩ := Router.resolve_of_serving? served
  refine ⟨hit.1, ?_, ?_, captures, captured, resolved⟩
  · obtain ⟨server, inside, same⟩ := List.mem_filterMap.mp member
    obtain ⟨_, _, rfl⟩ := Option.map_eq_some_iff.mp same
    exact inside
  · simpa using List.find?_some first

/-- Beyond its mount a table finds nothing. -/
theorem resolve_eq_notFound_of_not_covers (uncovered : ¬ table.mount.covers path = true)
    (method : Method) : Router.resolve ⟨[table]⟩ method path = .notFound := by
  have unreached : Router.coveringRoutes ⟨[table]⟩ path = [] := by
    simp [Router.coveringRoutes, uncovered]
  rw [Router.resolve_eq_verdict, unreached]
  exact Router.verdict_eq_notFound_iff.mpr rfl

theorem serves_iff_covers (order : table.routes = before ++ route :: after)
    (matched : (route.template.matches? path).isSome) :
    table.Serves before route path ↔ table.mount.covers path = true := by
  constructor
  · rintro ⟨server, _, _, params, _, resolved⟩
    by_contra uncovered
    rw [resolve_eq_notFound_of_not_covers uncovered] at resolved
    cases resolved
  · exact fun covered => serves_of_covers order covered matched

theorem resolve_eq_notFound_of_not_serves (order : table.routes = before ++ route :: after)
    (matched : (route.template.matches? path).isSome) (hidden : ¬ table.Serves before route path) :
    Router.resolve ⟨[table]⟩ route.method path = .notFound :=
  resolve_eq_notFound_of_not_covers (mt (serves_iff_covers order matched).mpr hidden) route.method

/-- A filling is served exactly if the parameters as deep as the mount are left as they are
written. -/
theorem serves_fill_iff {values : String → String} (order : table.routes = before ++ route :: after)
    (under : route.LiesUnder table.mount) (fits : route.template.Fits values) :
    table.Serves before route (route.template.fill values) ↔
      ∀ name, .param name ∈ route.template.segments.take table.mount.depth →
        values name = Segment.placeholder name := by
  rw [serves_iff_covers order (PathTemplate.isSome_matches?_fill under.wellFormed fits)]
  exact under.covers_fill_iff fits

/-- **Which requests an accepted route gets.** A filling of its template is served exactly if the
parameters as deep as the mount are left as they are written, and not found otherwise. So no route
is hidden by its mount exactly if the mount has no parameters, or the table no routes. -/
theorem serves_fill_iff_of_build {resource mountPath : String}
    {declarations : List (Declaration α)}
    (built : build resource mountPath declarations = .ok table) :
    (∀ before route after values, table.routes = before ++ route :: after →
      route.template.Fits values →
      (table.Serves before route (route.template.fill values) ↔
        ∀ name, .param name ∈ route.template.segments.take table.mount.depth →
          values name = Segment.placeholder name) ∧
      (¬ table.Serves before route (route.template.fill values) →
        Router.resolve ⟨[table]⟩ route.method (route.template.fill values) = .notFound)) ∧
    ((∀ before route after values, table.routes = before ++ route :: after →
        route.template.Fits values → table.Serves before route (route.template.fill values)) ↔
      '{' ∉ mountPath.toList ∨ table.routes = []) := by
  obtain ⟨mounted, under⟩ := build_eq_ok built
  have brace : '{' ∈ table.mount.path.toList ↔ '{' ∈ mountPath.toList := by
    rw [mounted]
    exact Mount.mem_ofText_iff (by decide)
  refine ⟨fun before route after values order fits => ?_, ?_⟩
  · have lies : route.LiesUnder table.mount := under route (by simp [order])
    refine ⟨serves_fill_iff order lies fits, fun hidden => ?_⟩
    exact resolve_eq_notFound_of_not_serves order
      (PathTemplate.isSome_matches?_fill lies.wellFormed fits) hidden
  · constructor
    · intro all
      by_contra dead
      obtain ⟨parameter, inhabited⟩ := not_or.mp dead
      obtain ⟨route, after, order⟩ := List.exists_cons_of_ne_nil inhabited
      have lies : route.LiesUnder table.mount := under route (by simp [order])
      obtain ⟨name, inside⟩ := lies.brace_iff.mp (brace.mpr (not_not.mp parameter))
      -- A value other than the placeholder takes the path out of the mount.
      have fits : route.template.Fits fun _ => "x" := fun _ _ =>
        (by decide : "x" ≠ "" ∧ '/' ∉ "x".toList)
      have kept := (serves_fill_iff order lies fits).mp (all [] route after _ order fits)
      exact Segment.placeholder_ne (by decide) (kept name inside).symm
    · rintro (literal | empty) before route after values order fits
      · have lies : route.LiesUnder table.mount := under route (by simp [order])
        refine (serves_fill_iff order lies fits).mpr fun name inside => ?_
        exact absurd (brace.mp (lies.brace_iff.mpr ⟨name, inside⟩)) literal
      · simp [order] at empty

/-- Mounted under a parameter, a template is accepted and then misses the paths it describes. -/
theorem serves_fill_iff_of_build_parameter :
    let route : Route Unit := ⟨.get, ⟨[.param "id"]⟩, "getPetById", ()⟩
    let table : RouteTable Unit := ⟨"pet", ⟨"/\x7bid\x7d"⟩, [route]⟩
    build "pet" "/\x7bid\x7d" [⟨.get, "/\x7bid\x7d", "getPetById", ()⟩] = .ok table ∧
      (route.template.matches? "/5").isSome ∧
      ¬ table.Serves [] route "/5" ∧ Router.resolve ⟨[table]⟩ .get "/5" = .notFound := by
  intro route table
  have built : build "pet" "/\x7bid\x7d" [⟨.get, "/\x7bid\x7d", "getPetById", ()⟩] = .ok table :=
    rfl
  have fits : route.template.Fits fun _ => "5" := fun _ _ =>
    (by decide : "5" ≠ "" ∧ '/' ∉ "5".toList)
  obtain ⟨served, missed⟩ := (serves_fill_iff_of_build built).1 [] route [] _ rfl fits
  have hidden : ¬ table.Serves [] route "/5" := fun serves =>
    absurd (served.mp serves "id" (by decide)) (by decide)
  exact ⟨built, rfl, hidden, missed hidden⟩

end RouteTable

end Petstore
