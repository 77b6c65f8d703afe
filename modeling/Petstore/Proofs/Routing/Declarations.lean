import Petstore.Proofs.Routing.Shapes

/-!
# What becomes of declarations

A table compares a declaration with the routes that it has kept so far. Seen from outside, a
declaration is judged by itself and by all those before it, whether these were kept or refused. Both
come to the same, because a refused duplicate has the shape of a route that was kept:

* `Declaration.fault?`: what is wrong with a declaration behind others.
* `Mirrors`: the routes kept so far take the same methods on the same shapes as the declarations so
  far, which every further declaration preserves (`accept_cases`).
* `build_judged`: a table has all declarations as its routes, or else every fault is reported.
-/

namespace Petstore

variable {α : Type}

namespace Declaration

/-! ## Faults -/

/-- The declaration takes a method on the paths of a shape, whether or not a table keeps it: it is
for that method, its template lies under the mount, and it is read as one of that shape. -/
def Takes (declared : Declaration α) (mount : Mount) (method : Method) (shape : PathTemplate) :
    Prop :=
  declared.method = method ∧ mount.covers declared.template = true ∧
    ∃ template, PathTemplate.parse declared.template = .ok template ∧
      template.sameShape shape = true

instance (declared : Declaration α) (mount : Mount) (method : Method) (shape : PathTemplate) :
    Decidable (declared.Takes mount method shape) :=
  decidable_of_iff (declared.method = method ∧ mount.covers declared.template = true ∧
      (PathTemplate.parse declared.template).toOption.any (·.sameShape shape) = true)
    (by simp only [Takes, Option.any_eq_true, toOption_eq_some_iff])

/-- What is wrong with a declaration, going by itself and by those before it: its template cannot be
read, or it lies outside the mount, or an earlier declaration takes its method on its shape. -/
def fault? (mount : Mount) (earlier : List (Declaration α)) (declared : Declaration α) :
    Option TableIssue :=
  match PathTemplate.parse declared.template with
  | .error reason => some (.malformedTemplate declared.template reason)
  | .ok template =>
    if mount.covers declared.template = false then some (.outsideMount declared.template mount)
    else if ∃ other ∈ earlier, other.Takes mount declared.method template then
      some (.duplicateRoute declared.method declared.template)
    else none

/-- A route that is the declaration, with its template read. -/
structure Becomes (declared : Declaration α) (route : Route α) : Prop where
  method : route.method = declared.method
  read : PathTemplate.parse declared.template = .ok route.template
  text : route.template.text = declared.template
  name : route.name = declared.name
  action : route.action = declared.action

section Takes

variable {declared : Declaration α} {mount : Mount} {method : Method}
  {template shape : PathTemplate}

theorem not_takes_of_unread {reason : TemplateError}
    (unread : PathTemplate.parse declared.template = .error reason) :
    ¬ declared.Takes mount method shape := by
  rintro ⟨-, -, template, read, -⟩
  rw [unread] at read
  cases read

theorem not_takes_of_outside (outside : mount.covers declared.template = false) :
    ¬ declared.Takes mount method shape := by
  rintro ⟨-, covered, -⟩
  rw [outside] at covered
  cases covered

theorem takes_iff (read : PathTemplate.parse declared.template = .ok template)
    (covered : mount.covers declared.template = true) :
    declared.Takes mount method shape ↔
      declared.method = method ∧ template.sameShape shape = true := by
  simp [Takes, read, covered]

end Takes

end Declaration

/-! ## Kept routes and earlier declarations -/

namespace RouteTable

/-- The routes are read, and they take the same methods on the same shapes as the declarations. -/
structure Mirrors (mount : Mount) (earlier : List (Declaration α)) (kept : List (Route α)) :
    Prop where
  wellFormed : ∀ route ∈ kept, route.template.WellFormed
  taken : ∀ method shape, shape.WellFormed →
    ((∃ route ∈ kept, route.method = method ∧ route.template.sameShape shape = true) ↔
      ∃ other ∈ earlier, other.Takes mount method shape)

theorem mirrors_nil (mount : Mount) : Mirrors (α := α) mount [] [] where
  wellFormed := by simp
  taken := by simp

namespace Mirrors

variable {mount : Mount} {earlier : List (Declaration α)} {kept : List (Route α)}
  {declared : Declaration α} {template : PathTemplate} (mirrors : Mirrors mount earlier kept)

include mirrors

/-- A declaration that takes nothing that was not taken leaves the routes as they are. -/
theorem refuse (nothing : ∀ method shape, shape.WellFormed → declared.Takes mount method shape →
      ∃ other ∈ earlier, other.Takes mount method shape) :
    Mirrors mount (earlier ++ [declared]) kept where
  wellFormed := mirrors.wellFormed
  taken := by
    intro method shape wellFormed
    rw [mirrors.taken method shape wellFormed]
    simp only [List.mem_append, List.mem_singleton, or_and_right, exists_or, exists_eq_left]
    exact (or_iff_left_of_imp (nothing method shape wellFormed)).symm

theorem keep (read : PathTemplate.parse declared.template = .ok template)
    (covered : mount.covers declared.template = true) :
    Mirrors mount (earlier ++ [declared])
      (kept ++ [⟨declared.method, template, declared.name, declared.action⟩]) where
  wellFormed := by
    intro route member
    rcases List.mem_append.mp member with old | new
    · exact mirrors.wellFormed route old
    · rw [List.mem_singleton.mp new]
      exact (PathTemplate.parse_eq_ok read).1
  taken := by
    intro method shape wellFormed
    have before := mirrors.taken method shape wellFormed
    simp only [List.mem_append, List.mem_singleton, or_and_right, exists_or, exists_eq_left]
    rw [before, Declaration.takes_iff read covered]

/-- A duplicate takes nothing new, since its shape is that of a route that was kept. -/
theorem refuse_duplicate (read : PathTemplate.parse declared.template = .ok template)
    (covered : mount.covers declared.template = true)
    (duplicate : ∃ other ∈ earlier, other.Takes mount declared.method template) :
    Mirrors mount (earlier ++ [declared]) kept := by
  refine mirrors.refuse fun method shape wellFormed takes => ?_
  have own := (PathTemplate.parse_eq_ok read).1
  obtain ⟨sameMethod, sameShape⟩ := (Declaration.takes_iff read covered).mp takes
  obtain ⟨route, member, kept, alike⟩ := (mirrors.taken _ _ own).mpr duplicate
  refine (mirrors.taken method shape wellFormed).mp ⟨route, member, kept.trans sameMethod, ?_⟩
  exact PathTemplate.sameShape_trans (mirrors.wellFormed route member) own wellFormed alike
    sameShape

/-- **One declaration.** It is kept if it has no fault going by those before it, and refused for its
fault otherwise. -/
theorem accept_cases (declared : Declaration α) :
    (∃ route, accept mount kept declared = .ok route ∧ declared.fault? mount earlier = none ∧
      declared.Becomes route ∧ Mirrors mount (earlier ++ [declared]) (kept ++ [route])) ∨
    ∃ issue, accept mount kept declared = .error issue ∧
      declared.fault? mount earlier = some issue ∧ Mirrors mount (earlier ++ [declared]) kept := by
  -- The kept routes and the earlier declarations take the same, so they rule alike.
  have ruling := ruling_accept mount kept declared
  generalize accept mount kept declared = result at ruling ⊢
  unfold Declaration.fault?
  cases ruling with
  | malformed unread =>
    refine Or.inr ⟨_, rfl, by rw [unread], mirrors.refuse fun method shape _ takes => ?_⟩
    exact absurd takes (Declaration.not_takes_of_unread unread)
  | outside read uncovered =>
    refine Or.inr ⟨_, rfl, by simp [read, uncovered], mirrors.refuse fun method shape _ takes => ?_⟩
    exact absurd takes (Declaration.not_takes_of_outside uncovered)
  | @duplicate template read covered known =>
    obtain ⟨own, -⟩ := PathTemplate.parse_eq_ok read
    have repeated := (mirrors.taken declared.method template own).mp known
    refine Or.inr ⟨_, rfl, ?_, mirrors.refuse_duplicate read covered repeated⟩
    simp only [read, covered, Bool.true_eq_false, if_false, if_pos repeated]
  | @fresh template read covered new =>
    obtain ⟨own, text⟩ := PathTemplate.parse_eq_ok read
    have first := mt (mirrors.taken declared.method template own).mpr new
    refine Or.inl ⟨_, rfl, ?_, ⟨rfl, read, text, rfl, rfl⟩, mirrors.keep read covered⟩
    simp only [read, covered, Bool.true_eq_false, if_false, if_neg first]

end Mirrors

/-! ## All declarations -/

/-- The faults of declarations behind others, with a place for each declaration. -/
def faults (mount : Mount) (earlier declarations : List (Declaration α)) :
    List (Option TableIssue) :=
  declarations.mapIdx fun i declared => declared.fault? mount (earlier ++ declarations.take i)

theorem faults_cons (mount : Mount) (earlier : List (Declaration α)) (declared : Declaration α)
    (rest : List (Declaration α)) :
    faults mount earlier (declared :: rest) =
      declared.fault? mount earlier :: faults mount (earlier ++ [declared]) rest := by
  simp [faults, List.mapIdx_cons]

section Sift

variable {mount : Mount} {earlier : List (Declaration α)} {kept : List (Route α)}

/-- Sifting reports every fault, and in order. -/
theorem issues_sift (mirrors : Mirrors mount earlier kept) (issues : List TableIssue)
    (declarations : List (Declaration α)) :
    (sift mount kept issues declarations).2 =
      issues ++ (faults mount earlier declarations).filterMap id := by
  -- The invariant moves on with both lists, whether the declaration is kept or refused.
  induction declarations generalizing earlier kept issues with
  | nil => exact (List.append_nil issues).symm
  | cons declared rest ih =>
    rw [sift, faults_cons]
    obtain ⟨route, accepted, sound, -, later⟩ | ⟨issue, refused, faulty, later⟩ :=
      mirrors.accept_cases declared
    · rw [accepted, sound]
      exact ih later issues
    · rw [refused, faulty]
      exact (ih later (issues ++ [issue])).trans (List.append_assoc issues [issue] _)

/-- Where there is no fault, sifting keeps every declaration. -/
theorem routes_sift (mirrors : Mirrors mount earlier kept) (issues : List TableIssue)
    {declarations : List (Declaration α)}
    (sound : ∀ fault ∈ faults mount earlier declarations, fault = none) :
    ∃ routes, (sift mount kept issues declarations).1 = kept ++ routes ∧
      List.Forall₂ Declaration.Becomes declarations routes := by
  induction declarations generalizing earlier kept with
  | nil => exact ⟨[], (List.append_nil kept).symm, List.Forall₂.nil⟩
  | cons declared rest ih =>
    rw [faults_cons, List.forall_mem_cons] at sound
    obtain ⟨route, accepted, -, becomes, later⟩ | ⟨issue, -, faulty, -⟩ :=
      mirrors.accept_cases declared
    · obtain ⟨routes, kept', become⟩ := ih later sound.2
      refine ⟨route :: routes, ?_, List.Forall₂.cons becomes become⟩
      rw [sift, accepted]
      exact kept'.trans (List.append_assoc kept [route] routes)
    · rw [sound.1] at faulty
      cases faulty

end Sift

/-- **Every declaration is judged.** If no declaration has a fault, going by itself and those before
it, the table has all declarations as its routes, in their order. Otherwise there is no table, and
the issues are the faults, one for each declaration that has one, in the order of declaration. -/
theorem build_judged (resource mountPath : String) (declarations : List (Declaration α)) :
    let mount := Mount.ofText mountPath
    let found := declarations.mapIdx fun i declared =>
      declared.fault? mount (declarations.take i)
    ((∀ fault ∈ found, fault = none) →
      ∃ routes, build resource mountPath declarations = .ok ⟨resource, mount, routes⟩ ∧
        List.Forall₂ Declaration.Becomes declarations routes) ∧
    ((∃ issue, some issue ∈ found) →
      build resource mountPath declarations = .error ⟨resource, found.filterMap id⟩) := by
  intro mount found
  have issues : (sift mount [] [] declarations).2 = found.filterMap id :=
    issues_sift (mirrors_nil mount) [] declarations
  constructor
  · intro sound
    obtain ⟨routes, kept, become⟩ := routes_sift (mirrors_nil mount) [] sound
    have none : found.filterMap id = [] := List.filterMap_eq_nil_iff.mpr sound
    have sifted : sift mount [] [] declarations = (routes, []) :=
      Prod.ext kept (issues.trans none)
    exact ⟨routes, by simp only [build, mount, sifted], become⟩
  · rintro ⟨issue, member⟩
    have reported : found.filterMap id ≠ [] :=
      List.ne_nil_of_mem (List.mem_filterMap.mpr ⟨some issue, member, rfl⟩)
    rw [← issues] at reported ⊢
    unfold build
    simp only
    split
    · next routes sifted => exact absurd (congrArg Prod.snd sifted) reported
    · next sifted => rw [sifted]

/-- A duplicate of a refused duplicate is refused too, and faults of all kinds keep their places. -/
theorem build_judged_pets :
    let declared (method : Method) (template : String) : Declaration Unit :=
      ⟨method, template, "operation", ()⟩
    let faulty := [declared .get "/pet/\x7bpetId\x7d", declared .get "/pet/\x7bid\x7d",
      declared .get "pet", declared .post "/pet", declared .get "/petfood",
      declared .get "/pet/\x7bname\x7d"]
    let sound := [declared .get "/pet/\x7bpetId\x7d", declared .put "/pet/\x7bid\x7d"]
    build "pet" "/pet/" faulty = .error ⟨"pet",
      [.duplicateRoute .get "/pet/\x7bid\x7d", .malformedTemplate "pet" .missingLeadingSlash,
        .outsideMount "/petfood" ⟨"/pet"⟩, .duplicateRoute .get "/pet/\x7bname\x7d"]⟩ ∧
    ∃ routes, build "pet" "/pet/" sound = .ok ⟨"pet", ⟨"/pet"⟩, routes⟩ ∧
      List.Forall₂ Declaration.Becomes sound routes := by
  intro declared faulty sound
  have found : (faulty.mapIdx fun i declared =>
        declared.fault? (Mount.ofText "/pet/") (faulty.take i)) =
      [none, some (.duplicateRoute .get "/pet/\x7bid\x7d"),
        some (.malformedTemplate "pet" .missingLeadingSlash), none,
        some (.outsideMount "/petfood" ⟨"/pet"⟩),
        some (.duplicateRoute .get "/pet/\x7bname\x7d")] := by
    decide
  have none : ∀ fault ∈ sound.mapIdx fun i declared =>
      declared.fault? (Mount.ofText "/pet/") (sound.take i), fault = none := by
    decide
  have refused := (build_judged "pet" "/pet/" faulty).2
    ⟨.duplicateRoute .get "/pet/\x7bid\x7d", by rw [found]; simp⟩
  rw [found] at refused
  exact ⟨refused, (build_judged "pet" "/pet/" sound).1 none⟩

end RouteTable

end Petstore
