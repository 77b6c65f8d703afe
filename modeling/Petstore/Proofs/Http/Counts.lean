import Mathlib.Algebra.BigOperators.Finprod
import Petstore.Proofs.Http.Allow
import Petstore.Proofs.Http.Target

/-!
# What is counted

Over any run, the counter of an operation and a status is the number of requests for a path that
were answered with that status and came to that operation, and the count of an operation is the sum
over all statuses (`App.counts_over_runs`). One request raises one counter of each kind by one
(`App.metrics_respond`), and from that a run adds up what its requests were answered with.
-/

namespace Petstore

/-! ## Tallies -/

namespace Tally

variable {κ : Type} [DecidableEq κ]

theorem count_bump (key other : κ) (tally : Tally κ) :
    Tally.count other (Tally.bump key tally) =
      Tally.count other tally + if key = other then 1 else 0 := by
  induction tally with
  | nil =>
    rw [bump, count, count, count]
    split
    · rfl
    · rfl
  | cons entry rest ih =>
    obtain ⟨known, n⟩ := entry
    rw [bump]
    by_cases bumped : known = key
    · rw [if_pos bumped, count, count, bumped]
      split
      · rfl
      · rfl
    · rw [if_neg bumped, count, count, ih]
      split
      · next same =>
        rw [if_neg (fun again => bumped (same.trans again.symm)), Nat.add_zero]
      · rfl

/-- The keys that came up. -/
def keys (tally : Tally κ) : List κ :=
  tally.map (·.1)

theorem mem_keys_bump {key other : κ} {tally : Tally κ} :
    other ∈ keys (bump key tally) ↔ other = key ∨ other ∈ keys tally := by
  induction tally with
  | nil => simp [bump, keys]
  | cons entry rest ih =>
    obtain ⟨known, n⟩ := entry
    unfold keys at ih ⊢
    rw [bump]
    split
    · next same => simp [same]
    · simp only [List.map_cons, List.mem_cons, ih]
      tauto

/-- Each key is listed once, and only those that were counted. -/
structure Proper (tally : Tally κ) : Prop where
  nodup : (keys tally).Nodup
  positive : ∀ entry ∈ tally, 0 < entry.2

omit [DecidableEq κ] in
theorem proper_nil : Proper ([] : Tally κ) :=
  ⟨List.nodup_nil, fun _ none => nomatch none⟩

theorem Proper.bump {tally : Tally κ} (proper : Proper tally) (key : κ) :
    Proper (Tally.bump key tally) := by
  induction tally with
  | nil => exact ⟨List.nodup_singleton key, by simp [Tally.bump]⟩
  | cons entry rest ih =>
    obtain ⟨known, n⟩ := entry
    obtain ⟨nodup, positive⟩ := proper
    have fresh := List.nodup_cons.mp nodup
    rw [List.forall_mem_cons] at positive
    rw [Tally.bump]
    split
    · exact ⟨nodup, List.forall_mem_cons.mpr ⟨Nat.succ_pos n, positive.2⟩⟩
    · next other =>
      obtain ⟨nodup', positive'⟩ := ih ⟨fresh.2, positive.2⟩
      refine ⟨List.nodup_cons.mpr ⟨fun again => ?_, nodup'⟩,
        List.forall_mem_cons.mpr ⟨positive.1, positive'⟩⟩
      rcases mem_keys_bump.mp again with same | before
      · exact other same
      · exact fresh.1 before

theorem count_eq_zero_of_not_mem {key : κ} {tally : Tally κ} (absent : key ∉ keys tally) :
    count key tally = 0 := by
  induction tally with
  | nil => rfl
  | cons entry rest ih =>
    obtain ⟨known, n⟩ := entry
    obtain ⟨other, later⟩ := not_or.mp (mt List.mem_cons.mpr absent)
    rw [count, if_neg (Ne.symm other), ih later]

/-- The entries are the keys with a count, each with its count. -/
theorem Proper.mem_iff {tally : Tally κ} (proper : Proper tally) {key : κ} {n : Nat} :
    (key, n) ∈ tally ↔ count key tally = n ∧ 0 < n := by
  induction tally with
  | nil =>
    refine iff_of_false (fun none => nomatch none) ?_
    rintro ⟨rfl, counted⟩
    exact Nat.lt_irrefl 0 counted
  | cons entry rest ih =>
    obtain ⟨known, m⟩ := entry
    obtain ⟨nodup, positive⟩ := proper
    have fresh := List.nodup_cons.mp nodup
    rw [List.forall_mem_cons] at positive
    rw [List.mem_cons, count, ih ⟨fresh.2, positive.2⟩]
    split
    · next same =>
      -- The key of the first entry is that of no other entry.
      subst same
      rw [count_eq_zero_of_not_mem fresh.1, Prod.mk.injEq]
      have counted : 0 < m := positive.1
      grind
    · next other =>
      rw [Prod.mk.injEq]
      grind

/-- Only finitely many statuses come up with an operation. -/
theorem finite_support_count (operation : String) (tally : Tally (String × Nat)) :
    (Function.support fun status => count (operation, status) tally).Finite := by
  refine ((keys tally).map (·.2)).finite_toSet.subset fun status counted => ?_
  have listed : (operation, status) ∈ keys tally :=
    Classical.not_not.mp (mt count_eq_zero_of_not_mem counted)
  exact List.mem_map.mpr ⟨(operation, status), listed, rfl⟩

/-- One more of an operation is one more in the sum over its statuses. -/
theorem finsum_count_bump (operation label : String) (status : Nat) (tally : Tally (String × Nat)) :
    ∑ᶠ other, count (operation, other) (bump (label, status) tally) =
      ∑ᶠ other, count (operation, other) tally + if label = operation then 1 else 0 := by
  have single : (Function.support fun other =>
      if (label, status) = (operation, other) then 1 else 0).Finite := by
    refine (Set.finite_singleton status).subset fun other counted => ?_
    by_contra different
    exact counted (if_neg fun same => different (Prod.mk.inj same).2.symm)
  simp only [count_bump]
  rw [finsum_add_distrib (finite_support_count operation tally) single]
  congr 1
  -- Of the second sum only the status that was counted is left.
  rw [finsum_eq_single _ status fun other different =>
    if_neg fun same => different (Prod.mk.inj same).2.symm]
  simp only [Prod.mk.injEq, and_true]

end Tally

/-! ## Metrics at any time -/

/-- What holds of metrics whatever was counted: each key is listed once with its count, all
operations are known ones, and each was counted as often under all statuses as alone. -/
structure Metrics.Sound (known : String → Prop) (metrics : Metrics) : Prop where
  requests : Tally.Proper metrics.requests
  durations : Tally.Proper metrics.durations
  known_requests : ∀ key ∈ Tally.keys metrics.requests, known key.1
  known_durations : ∀ key ∈ Tally.keys metrics.durations, known key
  total : ∀ operation, Tally.count operation metrics.durations =
    ∑ᶠ status, Tally.count (operation, status) metrics.requests

theorem Metrics.sound_start (known : String → Prop) (mounted : Option Nat) :
    Metrics.Sound known { routesMounted := mounted } where
  requests := Tally.proper_nil
  durations := Tally.proper_nil
  known_requests := fun _ none => nomatch none
  known_durations := fun _ none => nomatch none
  total := fun _ => finsum_zero.symm

theorem Metrics.Sound.record {known : String → Prop} {metrics : Metrics}
    (sound : metrics.Sound known) {label : String} (labelled : known label) (status : Nat) :
    (metrics.record label status).Sound known where
  requests := sound.requests.bump (label, status)
  durations := sound.durations.bump label
  known_requests := by
    intro key listed
    rcases Tally.mem_keys_bump.mp listed with rfl | before
    · exact labelled
    · exact sound.known_requests key before
  known_durations := by
    intro key listed
    rcases Tally.mem_keys_bump.mp listed with rfl | before
    · exact labelled
    · exact sound.known_durations key before
  total := by
    intro operation
    dsimp only [Metrics.record]
    rw [Tally.count_bump, Tally.finsum_count_bump, sound.total operation]

/-! ## One request -/

namespace App

variable {σ : Type} {app : App σ} {request : HttpRequest} {path : String} {query : Option String}

/-- The operation that a request comes to: that of the route to which it resolves below the base,
if its body is read. -/
def operation? (app : App σ) (request : HttpRequest) : Option String :=
  match request.target with
  | .path path _ =>
    (stripBase? app.basePath path).bind fun below =>
      (request.body.read app.bodyLimit).toOption.bind fun _ =>
        (app.router.resolve request.method below).operation?
  | .authority | .asterisk => none

/-- What a request is counted under. -/
def label (app : App σ) (request : HttpRequest) : String :=
  (app.operation? request).getD unmatchedLabel

/-- What a request may be counted under. -/
def Known (app : App σ) (label : String) : Prop :=
  label = unmatchedLabel ∨ ∃ route ∈ app.router.routes, route.name = label

theorem operation?_eq_some_iff (target : request.target = .path path query) {name : String} :
    app.operation? request = some name ↔
      ∃ below body route params, stripBase? app.basePath path = some below ∧
        request.body.read app.bodyLimit = .ok body ∧
        app.router.resolve request.method below = .matched route params ∧ route.name = name := by
  simp only [operation?, target]
  cases stripBase? app.basePath path with
  | none => simp
  | some below =>
    cases request.body.read app.bodyLimit with
    | error fault => simp [Except.toOption]
    | ok body =>
      cases resolved : app.router.resolve request.method below with
      | matched route params => simp [Except.toOption, Resolution.operation?, resolved]
      | methodNotAllowed allowed => simp [Except.toOption, Resolution.operation?, resolved]
      | notFound => simp [Except.toOption, Resolution.operation?, resolved]

/-- A request for a path comes to no operation exactly if it is outside of the base, its body is
refused, or it resolves to no route. -/
theorem operation?_eq_none_iff (target : request.target = .path path query) :
    app.operation? request = none ↔
      stripBase? app.basePath path = none ∨
      (∃ fault, request.body.read app.bodyLimit = .error fault) ∨
      ∃ below, stripBase? app.basePath path = some below ∧
        ∀ route params, app.router.resolve request.method below ≠ .matched route params := by
  constructor
  · intro missed
    cases stripped : stripBase? app.basePath path with
    | none => exact Or.inl rfl
    | some below =>
      cases read : request.body.read app.bodyLimit with
      | error fault => exact Or.inr (Or.inl ⟨fault, rfl⟩)
      | ok body =>
        refine Or.inr (Or.inr ⟨below, rfl, fun route params resolved => ?_⟩)
        have found := (operation?_eq_some_iff target).mpr
          ⟨below, body, route, params, stripped, read, resolved, rfl⟩
        rw [missed] at found
        cases found
  · intro missed
    by_contra other
    obtain ⟨name, found⟩ := Option.ne_none_iff_exists'.mp other
    obtain ⟨below, body, route, params, stripped, read, resolved, -⟩ :=
      (operation?_eq_some_iff target).mp found
    rcases missed with outside | ⟨fault, refused⟩ | ⟨below', stripped', unresolved⟩
    · cases outside.symm.trans stripped
    · cases refused.symm.trans read
    · cases stripped'.symm.trans stripped
      exact unresolved route params resolved

theorem mem_routes_of_operation? {name : String} (found : app.operation? request = some name) :
    ∃ route ∈ app.router.routes, route.name = name := by
  cases target : request.target with
  | authority | asterisk =>
    simp only [operation?, target] at found
    cases found
  | path path query =>
    obtain ⟨below, body, route, params, -, -, resolved, named⟩ :=
      (operation?_eq_some_iff target).mp found
    exact ⟨route, (Router.of_resolve_eq_matched resolved).1, named⟩

/-- A request is never counted under its own text. -/
theorem known_label (app : App σ) (request : HttpRequest) : app.Known (app.label request) := by
  unfold label
  cases found : app.operation? request with
  | none => exact Or.inl rfl
  | some name => exact Or.inr (mem_routes_of_operation? found)

theorem label_eq_unmatched_iff
    (named : ∀ route ∈ app.router.routes, route.name ≠ unmatchedLabel) :
    app.label request = unmatchedLabel ↔ app.operation? request = none := by
  unfold label
  cases found : app.operation? request with
  | none => exact iff_of_true rfl rfl
  | some name =>
    obtain ⟨route, mounted, rfl⟩ := mem_routes_of_operation? found
    exact iff_of_false (named route mounted) (Option.some_ne_none _)

theorem label_handlePath (target : request.target = .path path query) (store : σ) :
    (app.handlePath request.method path query request.headers request.body store).label =
      app.label request := by
  unfold label operation?
  rw [target]
  dsimp only
  rcases app.handlePath_cases request path query store with ⟨outside, handled⟩ |
    ⟨below, fault, stripped, refused, handled⟩ | ⟨below, body, stripped, read, handled⟩
  · rw [handled, outside]
    rfl
  · rw [handled, stripped, refused]
    rfl
  · rw [handled, stripped, read]
    rfl

/-- **What one request adds.** A request for a path is counted once, under its label and the status
of its answer; no other request is counted. -/
theorem metrics_respond (app : App σ) (freshId : String) (request : HttpRequest)
    (state : State σ) :
    let answered := app.respond freshId request state
    answered.2.metrics =
      if request.target.isPath then state.metrics.record (app.label request) answered.1.status
      else state.metrics := by
  intro answered
  cases target : request.target with
  | authority | asterisk =>
    simp only [answered, respond, target]
    rfl
  | path path query =>
    have whole : answered = _ := respond_of_path target
    rw [whole, status_finish, label_handlePath target]
    rfl

/-! ## Runs -/

/-- An answered request counts for an operation and a status. -/
def counts (app : App σ) (operation : String) (status : Nat)
    (exchange : (String × HttpRequest) × Response) : Bool :=
  exchange.1.2.target.isPath && app.label exchange.1.2 == operation && exchange.2.status == status

theorem respondAll_cons (app : App σ) (freshId : String) (request : HttpRequest)
    (requests : List (String × HttpRequest)) (state : State σ) :
    let answered := app.respond freshId request state
    let ran := app.respondAll requests answered.2
    app.respondAll ((freshId, request) :: requests) state = (answered.1 :: ran.1, ran.2) := rfl

theorem length_respondAll (app : App σ) (requests : List (String × HttpRequest))
    (state : State σ) : (app.respondAll requests state).1.length = requests.length := by
  induction requests generalizing state with
  | nil => rfl
  | cons sent requests ih =>
    obtain ⟨freshId, request⟩ := sent
    rw [respondAll_cons, List.length_cons, List.length_cons, ih]

theorem count_respond (app : App σ) (freshId : String) (request : HttpRequest) (state : State σ)
    (operation : String) (status : Nat) :
    let answered := app.respond freshId request state
    Tally.count (operation, status) answered.2.metrics.requests =
      Tally.count (operation, status) state.metrics.requests +
        if app.counts operation status ((freshId, request), answered.1) then 1 else 0 := by
  intro answered
  have metrics : answered.2.metrics = _ := app.metrics_respond freshId request state
  rw [metrics]
  unfold counts
  by_cases path : request.target.isPath = true
  · rw [if_pos path]
    dsimp only [Metrics.record]
    rw [Tally.count_bump]
    simp [answered, path]
  · rw [if_neg path]
    simp [path]

/-- A run adds to each counter the number of its requests that count for it. -/
theorem count_respondAll (app : App σ) (requests : List (String × HttpRequest)) (state : State σ)
    (operation : String) (status : Nat) :
    let ran := app.respondAll requests state
    Tally.count (operation, status) ran.2.metrics.requests =
      Tally.count (operation, status) state.metrics.requests +
        (requests.zip ran.1).countP (app.counts operation status) := by
  induction requests generalizing state with
  | nil => rfl
  | cons sent requests ih =>
    obtain ⟨freshId, request⟩ := sent
    dsimp only at ih ⊢
    rw [respondAll_cons, List.zip_cons_cons, List.countP_cons, ih,
      count_respond app freshId request state]
    omega

theorem sound_respond {state : State σ} (sound : state.metrics.Sound app.Known)
    (freshId : String) (request : HttpRequest) :
    (app.respond freshId request state).2.metrics.Sound app.Known := by
  rw [app.metrics_respond freshId request state]
  split
  · exact sound.record (app.known_label request) _
  · exact sound

theorem sound_respondAll {requests : List (String × HttpRequest)} {state : State σ}
    (sound : state.metrics.Sound app.Known) :
    (app.respondAll requests state).2.metrics.Sound app.Known := by
  induction requests generalizing state with
  | nil => exact sound
  | cons sent requests ih =>
    obtain ⟨freshId, request⟩ := sent
    rw [respondAll_cons]
    exact ih (sound_respond sound freshId request)

/-- **What is counted over a run.** Every request gets one answer. The counter of an operation and a
status is the number of requests for a path that were answered with that status and have that
operation as their label; the count of an operation is the sum over all statuses; and these counts
are what is listed. The label of a request is the name of the route to which it resolves, and it is
the one of unmatched requests exactly if the path is outside of the base, the body is refused, or
there is no such route; so no label comes from the text of a request. -/
theorem counts_over_runs (app : App σ) (requests : List (String × HttpRequest)) (store : σ)
    (mounted : Option Nat) :
    let ran := app.respondAll requests { store, metrics := { routesMounted := mounted } }
    let metrics := ran.2.metrics
    ran.1.length = requests.length ∧
    (∀ operation status, Tally.count (operation, status) metrics.requests =
      (requests.zip ran.1).countP fun exchange =>
        exchange.1.2.target.isPath && app.label exchange.1.2 == operation &&
          exchange.2.status == status) ∧
    (∀ operation,
      (Function.support fun status => Tally.count (operation, status) metrics.requests).Finite ∧
      Tally.count operation metrics.durations =
        ∑ᶠ status, Tally.count (operation, status) metrics.requests) ∧
    ((∀ key n, (key, n) ∈ metrics.requests ↔ Tally.count key metrics.requests = n ∧ 0 < n) ∧
      ∀ key n, (key, n) ∈ metrics.durations ↔ Tally.count key metrics.durations = n ∧ 0 < n) ∧
    ((∀ entry ∈ metrics.requests, app.Known entry.1.1) ∧
      ∀ entry ∈ metrics.durations, app.Known entry.1) ∧
    (∀ text target, Target.parse text = .ok target →
      (target.isPath = true ↔ target.pathText.toList.head? = some '/')) ∧
    ∀ (request : HttpRequest) (path : String) (query : Option String),
      request.target = .path path query →
      (∀ name, app.operation? request = some name ↔
        ∃ below body route params, stripBase? app.basePath path = some below ∧
          request.body.read app.bodyLimit = .ok body ∧
          app.router.resolve request.method below = .matched route params ∧ route.name = name) ∧
      (app.operation? request = none ↔
        stripBase? app.basePath path = none ∨
        (∃ fault, request.body.read app.bodyLimit = .error fault) ∨
        ∃ below, stripBase? app.basePath path = some below ∧
          ∀ route params, app.router.resolve request.method below ≠ .matched route params) ∧
      (∀ name, app.operation? request = some name → app.label request = name) ∧
      ((∀ route ∈ app.router.routes, route.name ≠ unmatchedLabel) →
        (app.label request = unmatchedLabel ↔ app.operation? request = none)) := by
  intro ran metrics
  have sound : metrics.Sound app.Known := sound_respondAll (Metrics.sound_start app.Known mounted)
  refine ⟨app.length_respondAll requests _, fun operation status => ?_, fun operation => ?_,
    ⟨fun key n => sound.requests.mem_iff, fun key n => sound.durations.mem_iff⟩,
    ⟨fun entry listed => ?_, fun entry listed => ?_⟩,
    fun text target parsed => Target.isPath_iff_of_parse parsed,
    fun request path query target => ⟨fun name => operation?_eq_some_iff target,
      operation?_eq_none_iff target, fun name found => ?_, label_eq_unmatched_iff⟩⟩
  · have counted := app.count_respondAll requests
      { store, metrics := { routesMounted := mounted } } operation status
    exact counted.trans (Nat.zero_add _)
  · exact ⟨Tally.finite_support_count operation metrics.requests, sound.total operation⟩
  · exact sound.known_requests entry.1 (List.mem_map_of_mem listed)
  · exact sound.known_durations entry.1 (List.mem_map_of_mem listed)
  · rw [label, found, Option.getD_some]

/-- Two of four requests come to an operation, one is outside of the base, and one is for no path at
all. -/
theorem counts_over_runs_inventory :
    let app : App (List Recorded) := ⟨"/v2", 4, serviceRouter, Controllers.recording none⟩
    let inventory : HttpRequest := { method := .get, target := .path "/v2/store/inventory" none }
    let outside : HttpRequest := { method := .get, target := .path "/store/inventory" none }
    let requests : List (String × HttpRequest) :=
      [("a", inventory), ("b", outside), ("c", { method := .get, target := .asterisk }),
        ("d", inventory)]
    let metrics := (app.respondAll requests { store := [] }).2.metrics
    Tally.count ("getInventory", 200) metrics.requests = 2 ∧
      Tally.count ("unmatched", 404) metrics.requests = 1 ∧
      Tally.count "getInventory" metrics.durations =
        ∑ᶠ status, Tally.count ("getInventory", status) metrics.requests ∧
      app.operation? outside = none ∧ app.label outside = "unmatched" := by
  intro app inventory outside requests metrics
  obtain ⟨-, counted, total, -, -, -, labelled⟩ := app.counts_over_runs requests [] none
  obtain ⟨-, missed, -, unmatched⟩ := labelled outside "/store/inventory" none rfl
  have named : ∀ route ∈ app.router.routes, route.name ≠ unmatchedLabel := by decide
  have none := missed.mpr (Or.inl (by decide))
  refine ⟨(counted "getInventory" 200).trans ?_, (counted "unmatched" 404).trans ?_,
    (total "getInventory").2, none, (unmatched named).mpr none⟩
  · decide +kernel
  · decide +kernel

end App

end Petstore
