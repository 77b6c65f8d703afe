import Petstore.Http.App
import Petstore.Proofs.Routing.Covering

/-!
# Stripping base paths

What is left of a path below a base: what follows the base, if it begins a segment, and the root
where nothing follows. A path that begins with a slash can be stripped exactly if the base, taken
for a mount, covers it, so that base paths and mounts agree on what lies below them
(`stripped_iff_covered`).
-/

namespace Petstore

/-- A text is its base path and the slashes after it, and the base path does not end in one. -/
theorem trimBase_spec (text : String) :
    (∃ n, text.toList = (trimBase text).toList ++ List.replicate n '/') ∧
      (trimBase text).toList.getLast? ≠ some '/' :=
  Mount.ofText_spec text

variable {base path below : String}

/-- What follows the base is what is left of the path, if it begins a segment. -/
theorem stripBase?_append (rooted : below.toList.head? = some '/') :
    stripBase? base (base ++ below) = some below := by
  obtain ⟨rest, split⟩ := List.head?_eq_some_iff.mp rooted
  by_cases empty : base = ""
  · rw [stripBase?, if_pos empty, empty, String.empty_append]
  · have whole : String.ofList ('/' :: rest) = below := by rw [← split, String.ofList_toList]
    have left : Text.after? base.toList (base ++ below).toList = some ('/' :: rest) := by
      rw [Text.after?_eq_some_iff, String.toList_append, split]
    rw [stripBase?, if_neg empty, left]
    exact congrArg some whole

/-- The base alone leaves the root. -/
theorem stripBase?_self (given : base ≠ "") : stripBase? base base = some "/" := by
  have left : Text.after? base.toList base.toList = some [] := by
    rw [Text.after?_eq_some_iff, List.append_nil]
  rw [stripBase?, if_neg given, left]

section Rooted

variable (rooted : path.toList.head? = some '/')

include rooted

/-- What is left of a path begins with a slash. It follows the base, or is the root where the path
is the base. -/
theorem stripBase?_eq_some_iff :
    stripBase? base path = some below ↔
      below.toList.head? = some '/' ∧ (path = base ++ below ∨ below = "/" ∧ path = base) := by
  constructor
  · intro stripped
    unfold stripBase? at stripped
    split at stripped
    · next empty =>
      obtain rfl := Option.some.inj stripped
      exact ⟨rooted, Or.inl (by rw [empty, String.empty_append])⟩
    · split at stripped
      · next left =>
        rw [Text.after?_eq_some_iff, List.append_nil, String.toList_inj] at left
        exact ⟨Option.some.inj stripped ▸ rfl, Or.inr ⟨(Option.some.inj stripped).symm, left⟩⟩
      · next rest left =>
        obtain rfl := Option.some.inj stripped
        rw [Text.after?_eq_some_iff] at left
        refine ⟨by rw [String.toList_ofList]; rfl, Or.inl ?_⟩
        rw [← String.toList_inj, String.toList_append, String.toList_ofList, left]
      · cases stripped
  · intro ⟨begins, split⟩
    rcases split with whole | ⟨root, whole⟩
    · rw [whole]
      exact stripBase?_append begins
    · have given : base ≠ "" := by
        intro empty
        rw [whole, empty] at rooted
        cases rooted
      rw [root, whole]
      exact stripBase?_self given

/-- Nothing is left of a path that neither is the base nor continues it with a new segment. -/
theorem stripBase?_eq_none (other : path ≠ base)
    (outside : ∀ below : String, below.toList.head? = some '/' → path ≠ base ++ below) :
    stripBase? base path = none := by
  apply Option.eq_none_iff_forall_ne_some.mpr
  intro below stripped
  obtain ⟨begins, whole | ⟨-, whole⟩⟩ := (stripBase?_eq_some_iff rooted).mp stripped
  · exact outside below begins whole
  · exact other whole

/-- A path can be stripped of the path of a mount exactly if the mount covers it. -/
theorem isSome_stripBase?_iff {mount : Mount} :
    (stripBase? mount.path path).isSome = true ↔ mount.covers path = true := by
  rw [Option.isSome_iff_exists, Mount.covers_iff_eq_or]
  constructor
  · intro ⟨below, stripped⟩
    obtain ⟨begins, whole | ⟨-, whole⟩⟩ := (stripBase?_eq_some_iff rooted).mp stripped
    · obtain ⟨rest, split⟩ := List.head?_eq_some_iff.mp begins
      exact Or.inr ⟨rest, by rw [whole, String.toList_append, split]⟩
    · exact Or.inl (congrArg String.toList whole)
  · intro covered
    rcases covered with whole | ⟨rest, whole⟩
    · exact ⟨"/", (stripBase?_eq_some_iff rooted).mpr
        ⟨rfl, Or.inr ⟨rfl, String.toList_inj.mp whole⟩⟩⟩
    · refine ⟨String.ofList ('/' :: rest), (stripBase?_eq_some_iff rooted).mpr ⟨?_, Or.inl ?_⟩⟩
      · rw [String.toList_ofList]
        rfl
      · rw [← String.toList_inj, String.toList_append, String.toList_ofList, whole]

end Rooted

/-- **Base paths and mounts agree on what lies below them.** Let the base be a text without the
slashes at its end. A path that begins with a slash can be stripped of the base exactly if the mount
of the text covers it. What is left of it begins with a slash and follows the base in the path, or
is the root where the path is the base. A path that begins with a slash is given back when the base
is put in front of it and stripped again. -/
theorem stripped_iff_covered (text : String) :
    let base := trimBase text
    ((∃ n, text.toList = base.toList ++ List.replicate n '/') ∧
      base.toList.getLast? ≠ some '/') ∧
    (∀ path : String, path.toList.head? = some '/' →
      ((stripBase? base path).isSome = true ↔ (Mount.ofText text).covers path = true) ∧
      ∀ below : String, stripBase? base path = some below ↔
        below.toList.head? = some '/' ∧ (path = base ++ below ∨ below = "/" ∧ path = base)) ∧
    ∀ below : String, below.toList.head? = some '/' →
      stripBase? base (base ++ below) = some below := by
  intro base
  refine ⟨trimBase_spec text, fun path rooted => ⟨?_, fun below => ?_⟩, fun below rooted => ?_⟩
  · have trimmed : base = (Mount.ofText text).path := rfl
    rw [trimmed]
    exact isSome_stripBase?_iff rooted
  · exact stripBase?_eq_some_iff rooted
  · exact stripBase?_append rooted

/-- Of three paths one continues the base, one is the base, and one only begins with its text. -/
theorem stripped_iff_covered_doubled :
    trimBase "/v2//" = "/v2" ∧
      (Mount.ofText "/v2//").covers "/v2//pet" = true ∧
      stripBase? "/v2" "/v2//pet" = some "//pet" ∧
      stripBase? "/v2" "/v2" = some "/" ∧
      (Mount.ofText "/v2//").covers "/v20/pet" = false ∧
      (stripBase? "/v2" "/v20/pet").isSome = false := by
  have trimmed : trimBase "/v2//" = "/v2" := by decide
  obtain ⟨-, agree, follows⟩ := stripped_iff_covered "/v2//"
  simp only [trimmed] at agree follows
  have continued : stripBase? "/v2" "/v2//pet" = some "//pet" := follows "//pet" rfl
  have covered := (agree "/v2//pet" rfl).1.mp (by rw [continued]; rfl)
  have base : stripBase? "/v2" "/v2" = some "/" :=
    ((agree "/v2" rfl).2 "/").mpr ⟨rfl, Or.inr ⟨rfl, rfl⟩⟩
  have uncovered : (Mount.ofText "/v2//").covers "/v20/pet" = false := by decide
  have outside : ¬ (stripBase? "/v2" "/v20/pet").isSome = true := by
    rw [(agree "/v20/pet" rfl).1, uncovered]
    exact Bool.false_ne_true
  exact ⟨trimmed, covered, continued, base, uncovered, Bool.eq_false_iff.mpr outside⟩

end Petstore
