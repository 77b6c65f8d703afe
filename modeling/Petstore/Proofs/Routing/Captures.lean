import Petstore.Proofs.Routing.Template
import Petstore.Proofs.Text.Percent

/-!
# What paths capture

A path that matches a template is an instance of it, and every parameter captures its own part,
decoded: since the parameters of a template that is read have different names, none overwrites
another.

* `instances_exact`: the paths that match are the instances, and what they capture by its place.
* `captures_encoded`: values that were percent-encoded and put in for the parameters come back.
-/

namespace Petstore.PathTemplate

/-! ## Names -/

/-- Values put in under different names are all kept. -/
theorem size_foldl_insert {names : List String} (distinct : names.Nodup)
    (value : String → String) :
    (names.foldl (fun params name => params.insert name (value name)) (∅ : PathParams)).size =
      names.length := by
  induction names using List.reverseRecOn with
  | nil => simp
  | append_singleton names last ih =>
    have kept := List.nodup_append.mp distinct
    have new : last ∉ names := fun before => kept.2.2 last before last (by simp) rfl
    have absent : (names.foldl (fun params name => params.insert name (value name))
        (∅ : PathParams)).contains last = false := by
      rw [Std.ExtTreeMap.contains_eq_isSome_getElem?, getElem?_foldl_insert, if_neg new]
      rfl
    rw [List.foldl_concat, Std.ExtTreeMap.size_insert, absent, ih kept.1]
    simp

section Captures

variable {template : PathTemplate} (values : String → String)

/-- What is captured is captured under the names of the parameters. -/
theorem mem_captures_iff {name : String} :
    name ∈ template.captures values ↔ name ∈ template.paramNames := by
  rw [Std.ExtTreeMap.mem_iff_isSome_getElem?, captures, getElem?_foldl_insert]
  split
  · next member => simp [member]
  · next absent => simp [absent]

/-- Every parameter captures a value of its own. -/
theorem size_captures (wellFormed : template.WellFormed) :
    (template.captures values).size = template.segments.countP (·.paramName?.isSome) := by
  rw [captures, size_foldl_insert wellFormed.names, paramNames, List.length_filterMap_eq_countP]

end Captures

/-! ## Instances -/

/-- A path matches a template exactly if it is an instance of it. -/
theorem isSome_matches?_iff_instance {template : PathTemplate} (wellFormed : template.WellFormed)
    {path : String} :
    (template.matches? path).isSome ↔ ∃ parts, template.Instance parts path := by
  constructor
  · intro matched
    obtain ⟨parts, split, accepted⟩ := isSome_matches?_iff.mp matched
    obtain ⟨joined, clean⟩ := parts?_eq_some split
    exact ⟨parts, joined, clean, accepted⟩
  · rintro ⟨parts, made⟩
    obtain ⟨values, fits, rfl, -⟩ := made.exists_fill wellFormed
    exact isSome_matches?_fill wellFormed fits

/-- **Instances.** A path matches a template that was read exactly if it is a slash followed by
parts without slashes, with slashes between them, one for each segment: the literal itself for a
literal, and any part that is not empty for a parameter. What it captures has the names of the
parameters, one entry for each of them, and under each name the part in its place, decoded. -/
theorem instances_exact {text : String} {template : PathTemplate}
    (read : parse text = .ok template) (path : String) :
    ((template.matches? path).isSome ↔ ∃ parts, template.Instance parts path) ∧
    ∀ parts params, template.Instance parts path → template.matches? path = some params →
      params.size = template.segments.countP (·.paramName?.isSome) ∧
      (∀ name, name ∈ params ↔ name ∈ template.paramNames) ∧
      ∀ (place : Nat) (name : String) (part : List Char),
        template.segments[place]? = some (.param name) → parts[place]? = some part →
        params[name]? = some (Percent.decode (String.ofList part)) := by
  obtain ⟨wellFormed, -⟩ := parse_eq_ok read
  refine ⟨isSome_matches?_iff_instance wellFormed, fun parts params made matched => ?_⟩
  obtain ⟨values, fits, rfl, rfl⟩ := made.exists_fill wellFormed
  rw [matches?_fill wellFormed fits] at matched
  cases matched
  refine ⟨size_captures values wellFormed, fun name => mem_captures_iff values, ?_⟩
  intro place name part segment filled
  have member : name ∈ template.paramNames :=
    List.mem_filterMap.mpr ⟨_, List.mem_of_getElem? segment, rfl⟩
  have own : part = (values name).toList := by
    rw [List.getElem?_map, segment] at filled
    exact (Option.some_inj.mp filled).symm
  rw [getElem?_captures member, own, String.ofList_toList]

/-- A part is decoded on its own, and a path without its last part is no instance. -/
theorem instances_exact_order :
    let template : PathTemplate := ⟨[.literal "store", .literal "order", .param "orderId"]⟩
    let parts := ["store".toList, "order".toList, "4%32".toList]
    parse "/store/order/\x7borderId\x7d" = .ok template ∧
      template.Instance parts "/store/order/4%32" ∧
      (∃ params, template.matches? "/store/order/4%32" = some params ∧ params.size = 1 ∧
        params["orderId"]? = some "42") ∧
      ¬ ∃ parts, template.Instance parts "/store/order/" := by
  intro template parts
  have read : parse "/store/order/\x7borderId\x7d" = .ok template := by decide
  have made : template.Instance parts "/store/order/4%32" := by
    refine ⟨by decide, by decide, ?_⟩
    simp [template, parts, Segment.Accepts]
  have exact := instances_exact read "/store/order/4%32"
  obtain ⟨params, matched⟩ := Option.isSome_iff_exists.mp (exact.1.mpr ⟨parts, made⟩)
  obtain ⟨size, -, captured⟩ := exact.2 parts params made matched
  have unmatched : ¬ (template.matches? "/store/order/").isSome := by decide
  refine ⟨read, made, ⟨params, matched, size, ?_⟩, ?_⟩
  · exact captured 2 "orderId" "4%32".toList rfl rfl
  · exact fun made => unmatched ((instances_exact read "/store/order/").1.mpr made)

/-! ## Encoded values -/

/-- **Capturing undoes encoding.** Put percent-encoded values in for the parameters of a template
that was read, each encoded in any way: the path matches, and the values are captured, and nothing
else. -/
theorem captures_encoded {text : String} {template : PathTemplate}
    (read : parse text = .ok template) {values written : String → String}
    (nonempty : ∀ name ∈ template.paramNames, values name ≠ "")
    (encodes : ∀ name ∈ template.paramNames,
      Percent.Encodes (values name).toList (written name).toList) :
    ∃ params, template.matches? (template.fill written) = some params ∧
      ∀ name, params[name]? = if name ∈ template.paramNames then some (values name) else none := by
  have fits : template.Fits written := fun name member =>
    ⟨Percent.ne_empty_of_encodes (encodes name member) (nonempty name member),
      Percent.slash_not_mem_of_encodes (encodes name member)⟩
  refine ⟨_, matches?_fill (parse_eq_ok read).1 fits, fun name => ?_⟩
  rw [captures, getElem?_foldl_insert]
  split
  · next member => rw [Percent.decode_of_encodes (encodes name member)]
  · rfl

/-- A name with a slash, a percent sign and a letter beyond ASCII, with digits in either case. -/
theorem captures_encoded_user :
    let template : PathTemplate := ⟨[.literal "user", .param "username"]⟩
    let name : String → String := fun _ => "\x7bü/%"
    let written : String → String := fun _ => "\x7b%c3%BC%2f%25"
    parse "/user/\x7busername\x7d" = .ok template ∧
      Percent.Encodes (name "username").toList (written "username").toList ∧
      ∃ params, template.matches? "/user/\x7b%c3%BC%2f%25" = some params ∧
        params["username"]? = some "\x7bü/%" := by
  intro template name written
  have read : parse "/user/\x7busername\x7d" = .ok template := rfl
  have letter : Percent.Escapes (String.utf8EncodeChar 'ü') "%c3%BC".toList :=
    .cons (by decide) (by decide) (.cons (by decide) (by decide) .nil)
  have slash : Percent.Escapes (String.utf8EncodeChar '/') "%2f".toList :=
    .cons (by decide) (by decide) .nil
  have percent : Percent.Escapes (String.utf8EncodeChar '%') "%25".toList :=
    .cons (by decide) (by decide) .nil
  have plain : (name "username").toList = ['{', 'ü', '/', '%'] := by decide
  have encoded : (written "username").toList =
      '{' :: ("%c3%BC".toList ++ ("%2f".toList ++ ("%25".toList ++ []))) := by
    decide
  have encodes : Percent.Encodes (name "username").toList (written "username").toList := by
    rw [plain, encoded]
    exact .plain (by decide) (by decide) (.escaped letter (.escaped slash (.escaped percent .nil)))
  have nonempty : ∀ parameter ∈ template.paramNames, name parameter ≠ "" := by decide
  have all : ∀ parameter ∈ template.paramNames,
      Percent.Encodes (name parameter).toList (written parameter).toList :=
    fun _ _ => encodes
  obtain ⟨params, matched, captured⟩ := captures_encoded read nonempty all
  have path : template.fill written = "/user/\x7b%c3%BC%2f%25" := by decide
  rw [path] at matched
  exact ⟨read, encodes, params, matched, captured "username"⟩

end Petstore.PathTemplate
