import Petstore.Proofs.Routing.Resolution
import Petstore.Proofs.Routing.Template

/-!
# The first match and the most specific one

A request is resolved to the first route that will do, so which of several matches gets it hangs on
the order in which the routes are declared. Where each route stands before those of its method that
it might lose a path to, the first match is the most specific one: it has a literal where it first
differs from any other match.

* `Route.GoesBefore`: what has to hold of two routes in their order, which can be checked by looking
  at their segments alone.
* `Router.resolve_literalFirst`: if all routes are in order, every request that some route answers
  is resolved to the most specific one of these.
-/

namespace Petstore

/-! ## Segments -/

/-- Some part may be accepted by both segments: they are not two different literals. -/
def Segment.meets : Segment → Segment → Bool
  | literal text, literal other => text == other
  | _, _ => true

theorem Segment.meets_of_accepts {segment other : Segment} {part : List Char}
    (accepts : segment.Accepts part) (accepts' : other.Accepts part) :
    segment.meets other = true := by
  cases segment with
  | literal text =>
    cases other with
    | literal text' => exact beq_iff_eq.mpr (String.toList_inj.mp (accepts.trans accepts'.symm))
    | param name => rfl
  | param name => rfl

namespace PathTemplate

/-- The segments stand side by side, and each two of them may accept the same part. -/
def meet : List Segment → List Segment → Bool
  | [], [] => true
  | segment :: segments, other :: others => segment.meets other && meet segments others
  | _, _ => false

theorem meet_of_accepts {segments others : List Segment} {parts : List (List Char)}
    (accepted : List.Forall₂ Segment.Accepts segments parts)
    (accepted' : List.Forall₂ Segment.Accepts others parts) : meet segments others = true := by
  induction accepted generalizing others with
  | nil =>
    cases accepted'
    rfl
  | cons accepts _ ih =>
    cases accepted' with
    | cons accepts' later =>
      exact Bool.and_eq_true_iff.mpr ⟨Segment.meets_of_accepts accepts accepts', ih later⟩

/-- Where the templates first differ, this one has a literal and the other has not the same. -/
def LiteralFirst (template other : PathTemplate) : Prop :=
  ∃ place text, template.segments.take place = other.segments.take place ∧
    template.segments[place]? = some (.literal text) ∧
    other.segments[place]? ≠ some (.literal text)

/-- The segments that stand where two lists of them first differ. -/
def firstDifference? : List Segment → List Segment → Option (Segment × Segment)
  | segment :: segments, other :: others =>
    if segment = other then firstDifference? segments others else some (segment, other)
  | _, _ => none

theorem literalFirst_of_firstDifference? {segments others : List Segment}
    (literal : (firstDifference? segments others).any (·.1.paramName?.isNone) = true) :
    LiteralFirst ⟨segments⟩ ⟨others⟩ := by
  induction segments generalizing others with
  | nil => cases literal
  | cons segment segments ih =>
    cases others with
    | nil => cases literal
    | cons other others =>
      rw [firstDifference?] at literal
      split at literal
      · next same =>
        obtain ⟨place, text, before, own, apart⟩ := ih literal
        refine ⟨place + 1, text, ?_, own, apart⟩
        rw [List.take_succ_cons, List.take_succ_cons, same]
        exact congrArg (other :: ·) before
      · next different =>
        cases segment with
        | literal text =>
          exact ⟨0, text, rfl, rfl, fun same => different (Option.some_inj.mp same).symm⟩
        | param name => cases literal

section Literals

variable {template other : PathTemplate} (plain : other.paramNames = [])

include plain

theorem ne_param_of_plain {segment : Segment} (member : segment ∈ other.segments) (name : String) :
    segment ≠ .param name := by
  rintro rfl
  have named : name ∈ other.paramNames := List.mem_filterMap.mpr ⟨_, member, rfl⟩
  rw [plain] at named
  cases named

/-- A template without parameters matches nothing but its own text. -/
theorem eq_text_of_matches? {path : String} (matched : (other.matches? path).isSome) :
    path = other.text := by
  obtain ⟨parts, split, accepted⟩ := isSome_matches?_iff.mp matched
  rw [← String.toList_inj, (parts?_eq_some split).1, toList_text,
    eq_of_accepts_of_literal accepted fun segment => ne_param_of_plain plain]

/-- What has a literal where it first differs from a template without parameters does not match the
text of that one. -/
theorem LiteralFirst.not_matches? (first : template.LiteralFirst other)
    (wellFormed : other.WellFormed) : ¬ (template.matches? other.text).isSome := by
  obtain ⟨place, text, -, own, apart⟩ := first
  intro matched
  have accepted := accepts_of_matches?_text wellFormed matched
  obtain ⟨inside, own⟩ := List.getElem?_eq_some_iff.mp own
  have inside' : place < other.segments.length := by
    rw [accepted.length_eq, List.length_map] at inside
    exact inside
  have accepts := accepted.get inside (by rwa [List.length_map])
  rw [List.get_eq_getElem, List.get_eq_getElem, own, List.getElem_map] at accepts
  cases segment : other.segments[place] with
  | literal text' =>
    rw [segment] at accepts
    have same : text = text' := String.toList_inj.mp accepts
    exact apart (List.getElem?_eq_some_iff.mpr ⟨inside', same ▸ segment⟩)
  | param name => exact ne_param_of_plain plain (List.getElem_mem inside') name segment

end Literals

end PathTemplate

/-! ## Routes in order -/

variable {α : Type}

/-- The route declares the method, or `GET` for `HEAD`, and its template matches the path. -/
def Route.Answers (route : Route α) (method : Method) (path : String) : Prop :=
  (route.method = method ∨ method = .head ∧ route.method = .get) ∧
    (route.template.matches? path).isSome

/-- If the routes are for one method and might match one path, the first has no parameters, and it
has a literal where they first differ. -/
def Route.GoesBefore (route other : Route α) : Prop :=
  route.method = other.method →
    PathTemplate.meet route.template.segments other.template.segments = true →
    route.template.paramNames = [] ∧
      (PathTemplate.firstDifference? route.template.segments other.template.segments).any
        (·.1.paramName?.isNone) = true

instance (route other : Route α) : Decidable (route.GoesBefore other) :=
  inferInstanceAs (Decidable (_ → _ → _ ∧ _))

theorem Route.GoesBefore.literalFirst {route other : Route α} {path : String}
    (ordered : route.GoesBefore other) (sameMethod : route.method = other.method)
    (matched : (route.template.matches? path).isSome)
    (matched' : (other.template.matches? path).isSome) :
    route.template.paramNames = [] ∧ route.template.LiteralFirst other.template := by
  obtain ⟨parts, split, accepted⟩ := PathTemplate.isSome_matches?_iff.mp matched
  obtain ⟨parts', split', accepted'⟩ := PathTemplate.isSome_matches?_iff.mp matched'
  obtain rfl := Option.some_inj.mp (split.symm.trans split')
  obtain ⟨plain, literal⟩ :=
    ordered sameMethod (PathTemplate.meet_of_accepts accepted accepted')
  exact ⟨plain, PathTemplate.literalFirst_of_firstDifference? literal⟩

namespace Router

variable {router : Router α} {method : Method} {path : String} {route : Route α}

theorem matches?_of_mem_candidates (candidate : route ∈ router.candidates path) :
    (route.template.matches? path).isSome := by
  obtain ⟨table, -, member⟩ := List.mem_flatMap.mp candidate
  have chosen := (List.mem_filter.mp member).2
  exact (Bool.and_eq_true_iff.mp chosen).2

/-- Of the candidates of one method the first one is the most specific. -/
theorem literalFirst_of_first (ordered : router.routes.Pairwise Route.GoesBefore)
    (first : (router.candidates path).find? (·.method = method) = some route) :
    ∀ other ∈ router.candidates path, other.method = method → other ≠ route →
      route.template.paramNames = [] ∧ route.template.LiteralFirst other.template := by
  intro other candidate sameMethod different
  have inOrder := ordered.sublist (router.candidates_sublist path)
  have matched := matches?_of_mem_candidates (List.mem_of_find?_eq_some first)
  have matched' := matches?_of_mem_candidates candidate
  obtain ⟨declared, before, after, split, others⟩ := List.find?_eq_some_iff_append.mp first
  rw [split] at candidate inOrder
  -- The other one comes later: nothing before the first one is of the method.
  have later : other ∈ after := by
    rcases List.mem_append.mp candidate with earlier | rest
    · have foreign := others other earlier
      simp [sameMethod] at foreign
    · exact (List.mem_cons.mp rest).resolve_left different
  have goesBefore : route.GoesBefore other :=
    List.rel_of_pairwise_cons (List.pairwise_append.mp inOrder).2.1 later
  have declared : route.method = other.method :=
    (of_decide_eq_true declared).trans sameMethod.symm
  exact goesBefore.literalFirst declared matched matched'

section Resolve

variable (undeclared : ∀ route ∈ router.routes, route.method ≠ .head)
  (serves : route.method = method ∨ method = .head ∧ route.method = .get)

include undeclared serves

/-- Where no route declares `HEAD`, the first candidate of a method is what a request resolves to,
and so is the first of `GET` for `HEAD`. -/
theorem resolve_of_first
    (first : (router.candidates path).find? (·.method = route.method) = some route) :
    ∃ params, route.template.matches? path = some params ∧
      router.resolve method path = .matched route params := by
  have none := firstOf_of_undeclared fun other (candidate : other ∈ router.candidates path) =>
    undeclared other ((router.candidates_sublist path).subset candidate)
  rw [find?_candidates] at first
  obtain ⟨hit, found, rfl⟩ := Option.map_eq_some_iff.mp first
  refine resolve_of_serving? ?_
  rcases serves with rfl | ⟨rfl, isGet⟩
  · rw [serving?, found, Option.some_or]
  · rw [serving?, none, Option.none_or, stand?, if_pos rfl, ← isGet, found]

/-- **The first match is the most specific one.** With its routes in order, a router resolves a
request that a candidate answers to the first candidate of that method, which has a literal where it
first differs from any other, and no parameters at all if there is another. -/
theorem resolve_literalFirst (ordered : router.routes.Pairwise Route.GoesBefore)
    (candidate : route ∈ router.candidates path) :
    ∃ chosen ∈ router.candidates path, chosen.method = route.method ∧
      (∃ params, chosen.template.matches? path = some params ∧
        router.resolve method path = .matched chosen params) ∧
      ∀ other ∈ router.candidates path, other.method = route.method → other ≠ chosen →
        chosen.template.paramNames = [] ∧ chosen.template.LiteralFirst other.template := by
  have found : ((router.candidates path).find? (·.method = route.method)).isSome :=
    List.find?_isSome.mpr ⟨route, candidate, by simp⟩
  obtain ⟨chosen, first⟩ := Option.isSome_iff_exists.mp found
  have declared : chosen.method = route.method := by simpa using List.find?_some first
  have specific := literalFirst_of_first ordered first
  refine ⟨chosen, List.mem_of_find?_eq_some first, declared, ?_, specific⟩
  rw [← declared] at serves first
  exact resolve_of_first undeclared serves first

/-- A route gets a filling of its template unless that is, letter by letter, the path of a route
without parameters that goes before it. -/
theorem resolve_fill (ordered : router.routes.Pairwise Route.GoesBefore)
    (wellFormed : route.template.WellFormed) {values : String → String}
    (fits : route.template.Fits values)
    (candidate : route ∈ router.candidates (route.template.fill values))
    (apart : ∀ other ∈ router.routes, other ≠ route → other.method = route.method →
      other.template.paramNames = [] → other.template.LiteralFirst route.template →
      route.template.fill values ≠ other.template.text) :
    router.resolve method (route.template.fill values) =
      .matched route (route.template.captures values) := by
  obtain ⟨chosen, candidate', declared, ⟨params, captured, resolved⟩, specific⟩ :=
    resolve_literalFirst undeclared serves ordered candidate
  have same : chosen = route := by
    by_contra different
    obtain ⟨plain, first⟩ := specific route candidate rfl (Ne.symm different)
    have mounted := (router.candidates_sublist _).subset candidate'
    exact apart chosen mounted different declared plain first
      (PathTemplate.eq_text_of_matches? plain (matches?_of_mem_candidates candidate'))
  rw [same, PathTemplate.matches?_fill wellFormed fits] at captured
  rw [resolved, same, Option.some_inj.mp captured]

/-- A path without parameters is for its own route. -/
theorem resolve_text (ordered : router.routes.Pairwise Route.GoesBefore)
    (wellFormed : ∀ other ∈ router.routes, other.template.WellFormed)
    (plain : route.template.paramNames = [])
    (candidate : route ∈ router.candidates route.template.text) :
    router.resolve method route.template.text = .matched route ∅ := by
  have mounted := (router.candidates_sublist _).subset candidate
  have nothing : route.template.captures Segment.placeholder = ∅ := by
    rw [PathTemplate.captures, plain]
    rfl
  rw [← nothing]
  refine resolve_fill undeclared serves ordered (wellFormed route mounted)
    (PathTemplate.fits_placeholder (wellFormed route mounted)) candidate ?_
  intro other mounted' _ _ _ first filled
  have same : route.template.text = other.template.text := filled
  -- The other route would match its own path, which is this one.
  refine first.not_matches? plain (wellFormed route mounted) ?_
  rw [same]
  exact PathTemplate.isSome_matches?_text (wellFormed other mounted')

end Resolve

end Router

end Petstore
