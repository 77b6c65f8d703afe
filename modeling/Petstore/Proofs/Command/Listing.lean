import Petstore.Command.Run
import Petstore.Proofs.Http.BasePath
import Petstore.Proofs.Http.Counts

/-!
# The listing of routes and what is served

The listing puts the configured base path in front of every template, as it is; the application
drops the slashes at the end of that base path before it strips it. So what is listed is what is
served exactly if the base path does not end in a slash (`Settings.listed_routes_served`). Otherwise
the slashes stay in front of what is left of a listed path, and no route matches that.
-/

namespace Petstore

/-! ## Paths that begin with an empty part -/

theorem PathTemplate.matches?_of_double_slash {template : PathTemplate} {path : String}
    {rest : List Char} (wellFormed : template.WellFormed)
    (split : path.toList = '/' :: '/' :: rest) : ¬ (template.matches? path).isSome := by
  rw [isSome_matches?_iff]
  intro matched
  obtain ⟨parts, found, accepted⟩ := matched
  have first : parts? path = some ([] :: Text.pieces '/' rest) := by
    rw [parts?, split]
    simp [Text.pieces_cons]
  obtain rfl : parts = [] :: Text.pieces '/' rest := Option.some.inj (found.symm.trans first)
  obtain ⟨segment, segments, accepts, -, whole⟩ := List.forall₂_cons_right_iff.mp accepted
  have sound := wellFormed.segments segment (whole ▸ List.mem_cons_self)
  cases segment with
  | literal text => exact sound.1 (String.toList_eq_nil_iff.mp accepts)
  | param name => exact accepts rfl

theorem Router.resolve_of_double_slash {α : Type} {router : Router α} {path : String}
    {rest : List Char} (built : ∀ table ∈ router.tables, table.Built)
    (split : path.toList = '/' :: '/' :: rest) (method : Method) :
    router.resolve method path = .notFound := by
  rw [resolve_eq_verdict, verdict_eq_notFound_iff]
  apply matching_eq_nil
  intro route member
  obtain ⟨table, mounted, inside⟩ := List.mem_flatMap.mp member
  have under := (built table (List.mem_of_mem_filter mounted)).liesUnder inside
  exact PathTemplate.matches?_of_double_slash under.wellFormed split

/-! ## Slashes at the end of a base path -/

/-- A base path ends in a slash exactly if something is trimmed from it. -/
theorem exists_slashes (base : String) :
    ∃ n, base = trimBase base ++ String.ofList (List.replicate n '/') ∧
      (base.toList.getLast? = some '/' ↔ n ≠ 0) := by
  obtain ⟨⟨n, whole⟩, trimmed⟩ := trimBase_spec base
  refine ⟨n, ?_, ?_⟩
  · rw [← String.toList_inj, String.toList_append, String.toList_ofList]
    exact whole
  · rw [whole]
    cases n with
    | zero => simpa using trimmed
    | succ n => simp [List.getLast?_append, List.getLast?_replicate]

section Listed

variable {base text : String} (rooted : text.toList.head? = some '/')

include rooted

/-- The slashes at the end of the base path are left of a listed path. -/
theorem stripBase?_listed {n : Nat}
    (whole : base = trimBase base ++ String.ofList (List.replicate n '/')) :
    stripBase? (trimBase base) (base ++ text) =
      some (String.ofList (List.replicate n '/') ++ text) := by
  have split : base ++ text = trimBase base ++ (String.ofList (List.replicate n '/') ++ text) := by
    rw [← String.append_assoc, ← whole]
  rw [split]
  apply stripBase?_append
  cases n with
  | zero => simpa using rooted
  | succ n => simp [List.replicate_succ]

/-- What is left of a listed path begins with two slashes if the base path ends in one. -/
theorem stripBase?_listed_of_slash (ends : base.toList.getLast? = some '/') :
    ∃ (below : String) (rest : List Char), below.toList = '/' :: '/' :: rest ∧
      stripBase? (trimBase base) (base ++ text) = some below := by
  obtain ⟨n, whole, slashes⟩ := exists_slashes base
  obtain ⟨tail, split⟩ := List.head?_eq_some_iff.mp rooted
  obtain ⟨m, rfl⟩ := Nat.exists_eq_succ_of_ne_zero (slashes.mp ends)
  refine ⟨_, List.replicate m '/' ++ tail, ?_, stripBase?_listed rooted whole⟩
  -- The slash of the template joins those of the base path, of which there is one at least.
  rw [String.toList_append, String.toList_ofList, split, List.append_cons, ← List.replicate_succ',
    List.replicate_succ, List.replicate_succ, List.cons_append, List.cons_append]

/-- Stripping undoes the listing exactly if the base path does not end in a slash. -/
theorem stripBase?_listed_eq_some_iff :
    stripBase? (trimBase base) (base ++ text) = some text ↔ base.toList.getLast? ≠ some '/' := by
  obtain ⟨n, whole, ends⟩ := exists_slashes base
  rw [stripBase?_listed rooted whole, ne_eq, ends, Classical.not_not]
  constructor
  · intro same
    have length := congrArg (fun below => below.toList.length) (Option.some.inj same)
    simpa using length
  · rintro rfl
    simp

end Listed

/-! ## Lines -/

theorem PathTemplate.rooted_text (template : PathTemplate) :
    template.text.toList.head? = some '/' := by
  rw [text, String.toList_append]
  rfl

/-- A line shows the base path directly in front of the template. -/
theorem Route.line_eq {α : Type} (route : Route α) (base : String) :
    route.line base =
      Text.padRight 7 route.method.name ++ " " ++ (base ++ route.template.text) ++
        String.ofList (List.replicate (40 - route.template.text.length) ' ') ++ " " ++
        route.name := by
  simp only [line, Text.padRight, String.append_assoc]

theorem Command.run_routes {arguments : Arguments} {file : String → Except FileFault Bytes}
    {settings : Settings} (routes : arguments.subcommand = .routes)
    (loaded : arguments.settings file = .ok settings) :
    arguments.run file = .finished (serviceRouter.listing settings.api.basePath) := by
  simp only [Arguments.run, loaded, routes]

/-- A listed path can be asked for as it is exactly if the base path consists of bytes of paths and
the whole is not too long. -/
theorem parse_listed_iff {base : String} (begins : base = "" ∨ base.toList.head? = some '/')
    {route : Route Operation} (mounted : route ∈ serviceRouter.routes) :
    Target.parse (base ++ route.template.text) = .ok (.path (base ++ route.template.text) none) ↔
      (∀ b ∈ Utf8.encode base, Target.isPathByte b = true) ∧
        (Utf8.encode (base ++ route.template.text)).length ≤ 65534 := by
  have rooted : (base ++ route.template.text).toList.head? = some '/' := by
    rcases begins with rfl | slash
    · rw [String.empty_append]
      exact route.template.rooted_text
    · rw [String.toList_append, List.head?_append, slash]
      rfl
  have clean : ∀ route ∈ serviceRouter.routes, ∀ b ∈ Utf8.encode route.template.text,
      Target.isPathByte b = true := by decide +kernel
  have split : Utf8.encode (base ++ route.template.text) =
      Utf8.encode base ++ Utf8.encode route.template.text := by
    simp [Utf8.encode, Utf8.encodeChars]
  have bytes : (∀ b ∈ Utf8.encode base ++ Utf8.encode route.template.text,
      Target.isPathByte b = true) ↔ ∀ b ∈ Utf8.encode base, Target.isPathByte b = true := by
    rw [List.forall_mem_append]
    exact and_iff_left (clean route mounted)
  rw [Target.parse_eq_path_iff rooted, split, bytes]

namespace App

variable {σ : Type} {app : App σ} {request : HttpRequest} {listed below : String}
  {query : Option String} {state : State σ} {freshId : String} {body : Bytes}

section Read

variable (target : request.target = .path listed query)
  (stripped : stripBase? app.basePath listed = some below)
  (read : request.body.read app.bodyLimit = .ok body)

include target stripped read

/-- What resolves to a route comes to the call of its operation and is counted under its name. -/
theorem respond_of_matched {route : Route Operation} {params : PathParams}
    (matched : app.router.resolve request.method below = .matched route params) :
    let routed : Request :=
      { method := request.method, path := below, query, headers := request.headers, body }
    let answered := app.router.dispatch app.controllers routed state.store
    let response := dispatchResponse answered.1
    app.operation? request = some route.name ∧
    app.calls request state = (route.action.bind (.ofRequest params routed)).toOption.toList ∧
    app.respond freshId request state =
      (finish request.method (requestId freshId request.headers) response,
        ⟨answered.2, state.metrics.record route.name response.status⟩) := by
  intro routed answered response
  have called : app.router.call routed =
      (route.action.bind (.ofRequest params routed)).mapError .invalidInput :=
    Router.call_of_matched matched
  refine ⟨?_, ?_, ?_⟩
  · exact (operation?_eq_some_iff target).mpr
      ⟨below, body, route, params, stripped, read, matched, rfl⟩
  · rw [calls_of_read target stripped read, called]
    cases route.action.bind (.ofRequest params routed) with
    | error reason => rfl
    | ok call => rfl
  · rw [respond_of_read target stripped read, matched]
    rfl

/-- A path below the base that no route matches is not found, under that path. -/
theorem respond_of_notFound (missed : app.router.resolve request.method below = .notFound) :
    app.operation? request = none ∧ app.calls request state = [] ∧
    app.respond freshId request state =
      (finish request.method (requestId freshId request.headers)
          (.failure 404 "route_not_found" s!"no route matches {request.method.name} {below}"),
        { state with metrics := state.metrics.record unmatchedLabel 404 }) := by
  let routed : Request :=
    { method := request.method, path := below, query, headers := request.headers, body }
  have failed : app.router.call routed = .error (.routeNotFound request.method below) :=
    Router.call_of_notFound missed
  have answered : app.router.dispatch app.controllers routed state.store =
      (.error (.routeNotFound request.method below), state.store) :=
    Router.dispatch_of_call_error failed
  refine ⟨?_, ?_, ?_⟩
  · refine (operation?_eq_none_iff target).mpr (Or.inr (Or.inr ⟨below, stripped, ?_⟩))
    intro route params matched
    cases missed.symm.trans matched
  · rw [calls_of_read target stripped read, failed]
    rfl
  · rw [respond_of_read target stripped read, answered, missed]
    rfl

end Read

end App

/-! ## What is listed and what is served -/

namespace Settings

variable {σ : Type}

theorem basePath_of_accepted {settings : Settings} (accepted : settings.faults = []) :
    settings.api.basePath = "" ∨ settings.api.basePath.toList.head? = some '/' := by
  simp only [faults, List.append_eq_nil_iff] at accepted
  obtain ⟨⟨⟨-, passed⟩, -⟩, -⟩ := accepted
  unfold faultIf at passed
  split at passed
  · cases passed
  · next fine => simpa [or_iff_not_imp_left] using fine

theorem validated_of_accepted {settings : Settings} (accepted : settings.faults = []) :
    settings.validated = .ok settings := by
  delta validated
  rw [accepted]

/-- **What is listed and what is served.** Let the settings be accepted. The listing has one line
for every route: its method, the base path followed by the template, and its name. Stripped of the
base path, such a path leaves the template exactly if the base path does not end in a slash, and it
can be asked for as it is exactly if the base path consists of bytes of paths and the whole is not
too long. If the base path does not end in a slash, a request for the listed path of a route
without parameters, by the listed method, resolves to that route, is counted under the listed name
and comes to the call of its operation. If the base path ends in a slash, no request for a listed
path resolves to a route: none makes a call, and all are answered with status 404. -/
theorem listed_routes_served (settings : Settings) (accepted : settings.faults = [])
    (controllers : Controllers σ) :
    let base := settings.api.basePath
    let app := App.ofSettings settings controllers
    (∀ (arguments : Command.Arguments) file, arguments.subcommand = .routes →
      arguments.settings file = .ok settings →
      arguments.run file = .finished (String.join (serviceRouter.routes.map fun route =>
        Text.padRight 7 route.method.name ++ " " ++ (base ++ route.template.text) ++
          String.ofList (List.replicate (40 - route.template.text.length) ' ') ++ " " ++
          route.name ++ "\n"))) ∧
    ∀ route ∈ serviceRouter.routes,
      let listed := base ++ route.template.text
      (stripBase? app.basePath listed = some route.template.text ↔
        base.toList.getLast? ≠ some '/') ∧
      (Target.parse listed = .ok (.path listed none) ↔
        (∀ b ∈ Utf8.encode base, Target.isPathByte b = true) ∧
          (Utf8.encode listed).length ≤ 65534) ∧
      ∀ freshId request query body state, request.target = .path listed query →
        request.body.read app.bodyLimit = .ok body →
        (base.toList.getLast? ≠ some '/' → route.template.paramNames = [] →
          request.method = route.method →
          let routed : Request :=
            { method := request.method, path := route.template.text, query,
              headers := request.headers, body }
          let answered := serviceRouter.dispatch controllers routed state.store
          let response := dispatchResponse answered.1
          serviceRouter.resolve request.method route.template.text = .matched route ∅ ∧
          app.operation? request = some route.name ∧
          app.calls request state =
            (route.action.bind (.ofRequest ∅ routed)).toOption.toList ∧
          app.respond freshId request state =
            (App.finish request.method (App.requestId freshId request.headers) response,
              ⟨answered.2, state.metrics.record route.name response.status⟩)) ∧
        (base.toList.getLast? = some '/' →
          ∃ below, stripBase? app.basePath listed = some below ∧
          serviceRouter.resolve request.method below = .notFound ∧
          app.operation? request = none ∧ app.calls request state = [] ∧
          app.respond freshId request state =
            (App.finish request.method (App.requestId freshId request.headers)
                (.failure 404 "route_not_found" s!"no route matches {request.method.name} {below}"),
              { state with metrics := state.metrics.record unmatchedLabel 404 })) := by
  intro base app
  refine ⟨fun arguments file routes loaded => ?_, fun route mounted => ?_⟩
  · rw [Command.run_routes routes loaded, Router.listing]
    simp only [Route.line_eq, base]
  · intro listed
    have rooted := route.template.rooted_text
    refine ⟨stripBase?_listed_eq_some_iff rooted,
      parse_listed_iff (basePath_of_accepted accepted) mounted,
      fun freshId request query body state target read =>
        ⟨fun ends plain own => ?_, fun ends => ?_⟩⟩
    · intro routed answered response
      obtain ⟨operation, rfl⟩ := Operation.mem_routes_iff.mp mounted
      have stripped : stripBase? app.basePath listed = some operation.template.text :=
        (stripBase?_listed_eq_some_iff rooted).mpr ends
      have resolved : serviceRouter.resolve request.method operation.template.text =
          .matched operation.route ∅ := by
        rw [own]
        exact Operation.resolve_text plain
      exact ⟨resolved, App.respond_of_matched target stripped read resolved⟩
    · obtain ⟨below, rest, split, stripped⟩ := stripBase?_listed_of_slash rooted ends
      have missed := Router.resolve_of_double_slash Operation.built_of_mem_tables split
        request.method
      exact ⟨below, stripped, missed, App.respond_of_notFound target stripped read missed⟩

/-- Below `/v2` the listed path of the inventory is served; below `/v2/` one with two slashes is
listed, and it is not found. -/
theorem listed_routes_served_inventory :
    let settings (base : String) : Settings := { api := { basePath := base } }
    let app (base : String) : App (List Recorded) :=
      App.ofSettings (settings base) (Controllers.recording none)
    let sent (path : String) : HttpRequest := { method := .get, target := .path path none }
    let start : App.State (List Recorded) := { store := [] }
    (app "/v2").operation? (sent "/v2/store/inventory") = some "getInventory" ∧
      (app "/v2").calls (sent "/v2/store/inventory") start = [⟨.getInventory⟩] ∧
      (∀ file, ∃ lines,
        Command.Arguments.run { subcommand := .routes, basePath := some "/v2/" } file =
          .finished (String.join lines) ∧
        "GET     /v2//store/inventory                         getInventory\n" ∈ lines) ∧
      (app "/v2/").calls (sent "/v2//store/inventory") start = [] ∧
      ((app "/v2/").respond "a" (sent "/v2//store/inventory") start).1.status = 404 := by
  intro settings app sent start
  have valid : (settings "/v2/").faults = [] := by decide +kernel
  have valid' : (settings "/v2").faults = [] := by decide +kernel
  have mounted := Operation.mem_routes_iff.mpr ⟨.getInventory, rfl⟩
  obtain ⟨-, every⟩ := listed_routes_served _ valid' (Controllers.recording none)
  obtain ⟨-, -, served⟩ := every _ mounted
  obtain ⟨lists, every'⟩ := listed_routes_served _ valid (Controllers.recording none)
  obtain ⟨-, -, missed⟩ := every' _ mounted
  obtain ⟨-, named, called, -⟩ :=
    (served "a" (sent "/v2/store/inventory") none [] start rfl rfl).1 (by decide) rfl rfl
  obtain ⟨below, -, -, -, uncalled, answer⟩ :=
    (missed "a" (sent "/v2//store/inventory") none [] start rfl rfl).2 (by decide)
  refine ⟨named, called, fun file => ?_, uncalled,
    congrArg (fun answered => answered.1.status) answer⟩
  have loaded : Command.Arguments.settings { subcommand := .routes, basePath := some "/v2/" } file =
      .ok (settings "/v2/") := validated_of_accepted valid
  refine ⟨_, lists _ file rfl loaded, List.mem_map.mpr ⟨_, mounted, ?_⟩⟩
  decide +kernel

end Settings

end Petstore
