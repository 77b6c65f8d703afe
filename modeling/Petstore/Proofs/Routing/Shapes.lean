import Petstore.Proofs.Routing.Mounting

/-!
# Shapes of templates

The shape of a template is what is left of it without the names of its parameters. A parameter as it
is written is a part like any other, but one that no literal accepts, since literals have no braces.
So of two templates that match each other's texts neither has a literal where the other has a
parameter, and the texts alone tell whether two templates match the same paths:

* `sameShape_iff_matches?`: templates have one shape exactly if they match the same paths.
* `pairwise_differ_of_build`: the routes of a table differ in method or in shape.
* `shapes_exact`: so the routes of one method in a table match different paths.
-/

namespace Petstore

namespace PathTemplate

/-! ## Segments -/

/-- Segments of one shape accept the same parts. -/
theorem accepts_iff_of_sameSegmentShape {segment other : Segment}
    (same : sameSegmentShape segment other = true) (part : List Char) :
    segment.Accepts part ↔ other.Accepts part := by
  cases segment with
  | literal text =>
    cases other with
    | literal text' =>
      have equal : text = text' := eq_of_beq same
      rw [equal]
    | param name => cases same
  | param name =>
    cases other with
    | literal text => cases same
    | param name' => exact Iff.rfl

/-- A literal does not accept a parameter as it is written. -/
theorem not_accepts_placeholder {text name : String}
    (wellFormed : (Segment.literal text).WellFormed) :
    ¬ (Segment.literal text).Accepts (Segment.param name).text.toList := by
  intro accepts
  have brace : '{' ∈ text.toList := by
    rw [show text.toList = _ from accepts]
    simp [Segment.text]
  exact (wellFormed.2 _ brace).2.1 rfl

/-- Segments that accept each other's text have one shape. -/
theorem sameSegmentShape_of_accepts {segment other : Segment} (wellFormed : segment.WellFormed)
    (wellFormed' : other.WellFormed) (accepts : segment.Accepts other.text.toList)
    (accepts' : other.Accepts segment.text.toList) : sameSegmentShape segment other = true := by
  cases segment with
  | literal text =>
    cases other with
    | literal text' =>
      have equal : text = text' := String.toList_inj.mp accepts
      exact beq_iff_eq.mpr equal
    | param name => exact absurd accepts (not_accepts_placeholder wellFormed)
  | param name =>
    cases other with
    | literal text => exact absurd accepts' (not_accepts_placeholder wellFormed')
    | param name' => rfl

/-! ## Templates -/

theorem forall₂_accepts_iff_of_sameShapes {segments others : List Segment}
    (same : sameShapes segments others = true) (parts : List (List Char)) :
    List.Forall₂ Segment.Accepts segments parts ↔ List.Forall₂ Segment.Accepts others parts := by
  induction segments generalizing others parts with
  | nil =>
    cases others with
    | nil => exact Iff.rfl
    | cons other others => cases same
  | cons segment segments ih =>
    cases others with
    | nil => cases same
    | cons other others =>
      obtain ⟨first, rest⟩ := Bool.and_eq_true_iff.mp same
      cases parts with
      | nil => simp
      | cons part parts =>
        rw [List.forall₂_cons, List.forall₂_cons, accepts_iff_of_sameSegmentShape first, ih rest]

theorem sameShapes_of_accepts {segments others : List Segment}
    (wellFormed : ∀ segment ∈ segments, segment.WellFormed)
    (wellFormed' : ∀ other ∈ others, other.WellFormed)
    (accepts : List.Forall₂ Segment.Accepts segments (others.map (·.text.toList)))
    (accepts' : List.Forall₂ Segment.Accepts others (segments.map (·.text.toList))) :
    sameShapes segments others = true := by
  induction segments generalizing others with
  | nil =>
    cases others with
    | nil => rfl
    | cons other others => cases accepts
  | cons segment segments ih =>
    cases others with
    | nil => cases accepts
    | cons other others =>
      rw [List.map_cons, List.forall₂_cons] at accepts accepts'
      rw [List.forall_mem_cons] at wellFormed wellFormed'
      refine Bool.and_eq_true_iff.mpr ⟨?_, ?_⟩
      · exact sameSegmentShape_of_accepts wellFormed.1 wellFormed'.1 accepts.1 accepts'.1
      · exact ih wellFormed.2 wellFormed'.2 accepts.2 accepts'.2

section Shapes

variable {template other : PathTemplate} (wellFormed : template.WellFormed)
  (wellFormed' : other.WellFormed)

include wellFormed wellFormed'

/-- **Shapes are what paths tell apart.** Two templates have one shape exactly if they match the
same paths. -/
theorem sameShape_iff_matches? :
    template.sameShape other = true ↔
      ∀ path, (template.matches? path).isSome ↔ (other.matches? path).isSome := by
  constructor
  · intro same path
    rw [isSome_matches?_iff, isSome_matches?_iff]
    exact exists_congr fun parts =>
      and_congr_right fun _ => forall₂_accepts_iff_of_sameShapes same parts
  -- Of all paths only the two texts are needed.
  · intro alike
    have forth : (template.matches? other.text).isSome :=
      (alike other.text).mpr (isSome_matches?_text wellFormed')
    have back : (other.matches? template.text).isSome :=
      (alike template.text).mp (isSome_matches?_text wellFormed)
    exact sameShapes_of_accepts wellFormed.segments wellFormed'.segments
      (accepts_of_matches?_text wellFormed' forth) (accepts_of_matches?_text wellFormed back)

end Shapes

theorem sameShape_trans {template other another : PathTemplate} (wellFormed : template.WellFormed)
    (wellFormed' : other.WellFormed) (wellFormed'' : another.WellFormed)
    (first : template.sameShape other = true) (second : other.sameShape another = true) :
    template.sameShape another = true := by
  rw [sameShape_iff_matches? wellFormed wellFormed'] at first
  rw [sameShape_iff_matches? wellFormed' wellFormed''] at second
  exact (sameShape_iff_matches? wellFormed wellFormed'').mpr fun path =>
    (first path).trans (second path)

end PathTemplate

/-! ## Routes of a table -/

variable {α : Type}

/-- The routes are for different methods or for paths of different shapes. -/
def Route.Differs (route other : Route α) : Prop :=
  route.method = other.method → route.template.sameShape other.template = false

namespace RouteTable

/-- An accepted route differs from those accepted before it. -/
theorem differs_of_accept {mount : Mount} {accepted : List (Route α)} {declared : Declaration α}
    {route earlier : Route α} (success : accept mount accepted declared = .ok route)
    (member : earlier ∈ accepted) : earlier.Differs route := by
  have ruling := ruling_accept mount accepted declared
  rw [success] at ruling
  cases ruling with
  | fresh read covered new =>
    intro sameMethod
    exact eq_false_of_ne_true fun sameShape => new ⟨earlier, member, sameMethod, sameShape⟩

/-- Sifting keeps the accepted routes apart. -/
theorem pairwise_differ_of_sift {mount : Mount} {accepted : List (Route α)}
    {issues : List TableIssue} (declarations : List (Declaration α))
    (apart : accepted.Pairwise Route.Differs) :
    (sift mount accepted issues declarations).1.Pairwise Route.Differs := by
  induction declarations generalizing accepted issues with
  | nil => exact apart
  | cons declared rest ih =>
    rw [sift]
    split
    · next route success =>
      refine ih (List.pairwise_append.mpr ⟨apart, List.pairwise_singleton _ _, ?_⟩)
      intro earlier member new last
      rw [List.mem_singleton.mp last]
      exact differs_of_accept success member
    · exact ih apart

/-- The routes of a table differ in method or in shape. -/
theorem pairwise_differ_of_build {resource mountPath : String}
    {declarations : List (Declaration α)} {table : RouteTable α}
    (built : build resource mountPath declarations = .ok table) :
    table.routes.Pairwise Route.Differs := by
  rw [(sift_of_build built).1]
  exact pairwise_differ_of_sift declarations List.Pairwise.nil

/-- **Duplicates are told exactly.** Two templates that are read have one shape exactly if they
match the same paths. So of two routes of one method in a table that was built, one matches a path
that the other does not. -/
theorem shapes_exact :
    (∀ {text text' : String} {template other : PathTemplate},
      PathTemplate.parse text = .ok template → PathTemplate.parse text' = .ok other →
      (template.sameShape other = true ↔
        ∀ path, (template.matches? path).isSome ↔ (other.matches? path).isSome)) ∧
    ∀ {α : Type} {resource mountPath : String} {declarations : List (Declaration α)}
      {table : RouteTable α}, build resource mountPath declarations = .ok table →
      table.routes.Pairwise fun route other => route.method = other.method →
        ∃ path, ¬ ((route.template.matches? path).isSome ↔
          (other.template.matches? path).isSome) := by
  refine ⟨fun read read' => ?_, fun built => ?_⟩
  · exact PathTemplate.sameShape_iff_matches? (PathTemplate.parse_eq_ok read).1
      (PathTemplate.parse_eq_ok read').1
  · have under := (build_eq_ok built).2
    refine (pairwise_differ_of_build built).imp_of_mem fun member member' differs sameMethod => ?_
    have different := ne_true_of_eq_false (differs sameMethod)
    rw [PathTemplate.sameShape_iff_matches? (under _ member).wellFormed
      (under _ member').wellFormed] at different
    exact not_forall.mp different

/-- A parameter may be named otherwise, and is told from a literal. -/
theorem shapes_exact_pets :
    let byId : Route Unit := ⟨.get, ⟨[.literal "pet", .param "petId"]⟩, "getPetById", ()⟩
    let byStatus : Route Unit :=
      ⟨.get, ⟨[.literal "pet", .literal "findByStatus"]⟩, "findPetsByStatus", ()⟩
    let renamed : PathTemplate := ⟨[.literal "pet", .param "id"]⟩
    PathTemplate.parse "/pet/\x7bpetId\x7d" = .ok byId.template ∧
      PathTemplate.parse "/pet/\x7bid\x7d" = .ok renamed ∧
      (∀ path, (byId.template.matches? path).isSome ↔ (renamed.matches? path).isSome) ∧
      build "pet" "/pet" [⟨.get, "/pet/findByStatus", "findPetsByStatus", ()⟩,
        ⟨.get, "/pet/\x7bpetId\x7d", "getPetById", ()⟩] = .ok ⟨"pet", ⟨"/pet"⟩, [byStatus, byId]⟩ ∧
      ∃ path, ¬ ((byStatus.template.matches? path).isSome ↔
        (byId.template.matches? path).isSome) := by
  intro byId byStatus renamed
  have read : PathTemplate.parse "/pet/\x7bpetId\x7d" = .ok byId.template := by decide
  have read' : PathTemplate.parse "/pet/\x7bid\x7d" = .ok renamed := by decide
  have built : build "pet" "/pet" [⟨.get, "/pet/findByStatus", "findPetsByStatus", ()⟩,
      ⟨.get, "/pet/\x7bpetId\x7d", "getPetById", ()⟩] =
      .ok ⟨"pet", ⟨"/pet"⟩, [byStatus, byId]⟩ := rfl
  have alike := (shapes_exact.1 read read').mp (by decide)
  have apart := List.pairwise_cons.mp (shapes_exact.2 built)
  exact ⟨read, read', alike, built, apart.1 byId (by simp) rfl⟩

end RouteTable

end Petstore
