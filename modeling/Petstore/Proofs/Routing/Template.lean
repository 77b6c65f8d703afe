import Mathlib.Data.List.Forall2
import Mathlib.Data.List.Induction
import Petstore.Proofs.Outcomes
import Petstore.Routing.Template

/-!
# Templates and the paths they match

A template is read back from its text, and a path matches it part by part. Both are stated on the
parts of a path, so that the places of segments and parts correspond:

* `parse_eq_ok`: what is accepted is well formed, and its text is the one that was read.
* `parts?_fill`: a template with its parameters filled in has one part for each segment.
* `isSome_matches?_iff`: a path matches when the segments accept its parts, one by one.
* `matches?_eq_some_iff`: the paths that match are the fillings, and what is captured are the
  values.
-/

namespace Petstore

/-! ## Segments -/

namespace Segment

/-- A segment as templates have it: a literal is not empty and has neither slashes nor braces, and a
parameter has a proper name. -/
def WellFormed : Segment → Prop
  | literal text => text ≠ "" ∧ ∀ c ∈ text.toList, c ≠ '/' ∧ c ≠ '{' ∧ c ≠ '}'
  | param name => PathTemplate.isParamName name.toList = true

/-- A segment with its parameter filled in. -/
def fill (values : String → String) : Segment → String
  | literal text => text
  | param name => values name

/-- A segment accepts its own text if it is a literal, and any part that is not empty otherwise. -/
def Accepts : Segment → List Char → Prop
  | literal text, part => text.toList = part
  | param _, part => part ≠ []

/-- A parameter as it is written. -/
def placeholder (name : String) : String :=
  (param name).text

theorem placeholder_ne {name value : String} (plain : '{' ∉ value.toList) :
    placeholder name ≠ value := by
  rintro rfl
  exact plain (by simp [placeholder, text])

theorem WellFormed.fill_ne {segment : Segment} {values : String → String}
    (wellFormed : segment.WellFormed)
    (usable : ∀ name, segment = param name → values name ≠ "" ∧ '/' ∉ (values name).toList) :
    segment.fill values ≠ "" ∧ '/' ∉ (segment.fill values).toList := by
  cases segment with
  | literal text => exact ⟨wellFormed.1, fun slash => (wellFormed.2 _ slash).1 rfl⟩
  | param name => exact usable name rfl

/-- Only the text of a parameter has braces. -/
theorem WellFormed.mem_brace_iff {segment : Segment} (wellFormed : segment.WellFormed) :
    '{' ∈ segment.text.toList ↔ ∃ name, segment = param name := by
  cases segment with
  | literal text =>
    constructor
    · exact fun brace => ((wellFormed.2 _ brace).2.1 rfl).elim
    · rintro ⟨name, other⟩
      cases other
  | param name =>
    constructor
    · exact fun _ => ⟨name, rfl⟩
    · intro _
      simp [text]

end Segment

namespace PathTemplate

/-- A template as it is accepted: its segments are well formed and its parameters differ. -/
structure WellFormed (template : PathTemplate) : Prop where
  segments : ∀ segment ∈ template.segments, segment.WellFormed
  names : template.paramNames.Nodup

/-! ## Reading -/

/-- A segment is read back from its text. -/
theorem readSegment_eq_ok {position : Nat} {raw : List Char} {segment : Segment}
    (clean : '/' ∉ raw) (read : readSegment position raw = .ok segment) :
    segment.WellFormed ∧ segment.text.toList = raw := by
  unfold readSegment at read
  split at read
  · cases read
  · next inner =>
    split at read
    · next named =>
      cases read
      rw [Bool.and_eq_true, decide_eq_true_eq] at named
      refine ⟨by simpa [Segment.WellFormed] using named.2, ?_⟩
      have whole := List.dropLast_append_getLast? '}' named.1
      simp [Segment.text, whole]
    · cases read
  · next nonempty _ =>
    split at read
    · cases read
    · next plain =>
      cases read
      rw [Bool.or_eq_true, not_or, List.contains_iff_mem, List.contains_iff_mem] at plain
      refine ⟨⟨?_, ?_⟩, by simp [Segment.text]⟩
      · intro empty
        exact nonempty (by simpa using congrArg String.toList empty)
      · intro c member
        rw [String.toList_ofList] at member
        refine ⟨?_, ?_, ?_⟩ <;> rintro rfl
        · exact clean member
        · exact plain.1 member
        · exact plain.2 member

/-- The segments of a list that is read: the first, and the others behind its name. -/
theorem readSegments_cons_eq_ok {position : Nat} {seen : List String} {raw : List Char}
    {raws : List (List Char)} {segments : List Segment}
    (read : readSegments position seen (raw :: raws) = .ok segments) :
    ∃ segment rest, segments = segment :: rest ∧ readSegment position raw = .ok segment ∧
      (∀ name, segment.paramName? = some name → name ∉ seen) ∧
      readSegments (position + 1) (segment.paramName?.toList ++ seen) raws = .ok rest := by
  rw [readSegments] at read
  obtain ⟨segment, first, read⟩ := bind_eq_ok read
  refine ⟨segment, ?_⟩
  cases segment with
  | literal text =>
    obtain ⟨rest, later, read⟩ := bind_eq_ok read
    cases read
    exact ⟨rest, rfl, first, by simp [Segment.paramName?], later⟩
  | param name =>
    simp only at read
    split at read
    · cases read
    · next fresh =>
      obtain ⟨rest, later, read⟩ := bind_eq_ok read
      cases read
      refine ⟨rest, rfl, first, ?_, later⟩
      intro other same
      cases same
      simpa using fresh

theorem readSegments_eq_ok {position : Nat} {seen : List String} {raws : List (List Char)}
    {segments : List Segment} (clean : ∀ raw ∈ raws, '/' ∉ raw)
    (read : readSegments position seen raws = .ok segments) :
    (∀ segment ∈ segments, segment.WellFormed) ∧
      (segments.filterMap Segment.paramName?).Nodup ∧
      (∀ name ∈ segments.filterMap Segment.paramName?, name ∉ seen) ∧
      segments.map (·.text.toList) = raws := by
  induction raws generalizing position seen segments with
  | nil =>
    cases read
    simp
  | cons raw raws ih =>
    obtain ⟨segment, rest, rfl, first, fresh, later⟩ := readSegments_cons_eq_ok read
    have head := readSegment_eq_ok (clean raw (by simp)) first
    have tail := ih (fun raw member => clean raw (by simp [member])) later
    refine ⟨?_, ?_, ?_, ?_⟩
    · exact List.forall_mem_cons.mpr ⟨head.1, tail.1⟩
    · cases named : segment.paramName? with
      | none => simpa [named] using tail.2.1
      | some name =>
        rw [List.filterMap_cons_some named, List.nodup_cons]
        exact ⟨fun again => tail.2.2.1 name again (by simp [named]), tail.2.1⟩
    · intro name member
      rw [List.mem_filterMap] at member
      obtain ⟨other, member, named⟩ := member
      rcases List.mem_cons.mp member with rfl | member
      · exact fresh name named
      · have unseen := tail.2.2.1 name (List.mem_filterMap.mpr ⟨other, member, named⟩)
        exact fun before => unseen (List.mem_append_right _ before)
    · rw [List.map_cons, head.2, tail.2.2.2]

theorem toList_text (template : PathTemplate) :
    template.text.toList =
      '/' :: ['/'].intercalate (template.segments.map (·.text.toList)) := by
  rw [text, String.toList_append, Text.join, String.toList_intercalate, List.map_map]
  rfl

/-- **What is accepted.** A template that is read is well formed, and its text is what was read. -/
theorem parse_eq_ok {raw : String} {template : PathTemplate} (read : parse raw = .ok template) :
    template.WellFormed ∧ template.text = raw := by
  unfold parse at read
  split at read
  · next root =>
    cases read
    refine ⟨⟨by simp, by simp [paramNames]⟩, ?_⟩
    rw [← String.toList_inj, root]
    rfl
  · next rest _ whole =>
    cases parsed : readSegments 0 [] (Text.pieces '/' rest) with
    | error reason =>
      rw [parsed] at read
      cases read
    | ok segments =>
      rw [parsed] at read
      cases read
      obtain ⟨wellFormed, distinct, _, texts⟩ :=
        readSegments_eq_ok (fun _ => Text.not_mem_of_mem_pieces) parsed
      refine ⟨⟨wellFormed, distinct⟩, ?_⟩
      rw [← String.toList_inj, toList_text, texts, Text.intercalate_pieces, whole]
  · cases read

/-! ## Parts -/

/-- A template with its parameters filled in. -/
def fill (template : PathTemplate) (values : String → String) : String :=
  "/" ++ Text.join "/" (template.segments.map (·.fill values))

/-- The values can stand for the parameters: none is empty or has a slash. -/
def Fits (template : PathTemplate) (values : String → String) : Prop :=
  ∀ name ∈ template.paramNames, values name ≠ "" ∧ '/' ∉ (values name).toList

theorem parts?_join {texts : List String}
    (usable : ∀ text ∈ texts, text ≠ "" ∧ '/' ∉ text.toList) :
    parts? ("/" ++ Text.join "/" texts) = some (texts.map String.toList) := by
  have whole : ("/" ++ Text.join "/" texts).toList =
      '/' :: ['/'].intercalate (texts.map String.toList) := by
    rw [String.toList_append, Text.join, String.toList_intercalate]
    rfl
  have clean : ∀ piece ∈ texts.map String.toList, '/' ∉ piece := by
    simpa using fun text member => (usable text member).2
  unfold parts?
  rw [whole]
  cases texts with
  | nil => rfl
  | cons first rest =>
    have nonempty : ['/'].intercalate ((first :: rest).map String.toList) ≠ [] := by
      intro empty
      have split := Text.pieces_intercalate (by simp) clean
      rw [empty] at split
      have short : [] = first.toList := (List.cons.inj split).1
      exact (usable first (by simp)).1 (by simpa using short.symm)
    split
    · next root => exact absurd (List.cons.inj root).2 nonempty
    · next rest' _ same =>
      rw [← (List.cons.inj same).2, Text.pieces_intercalate (by simp) clean]
    · next noSlash => exact absurd rfl (noSlash _)

theorem parts?_fill {template : PathTemplate} {values : String → String}
    (wellFormed : template.WellFormed) (fits : template.Fits values) :
    parts? (template.fill values) =
      some (template.segments.map fun segment => (segment.fill values).toList) := by
  rw [fill, parts?_join, List.map_map]
  · rfl
  · intro text member
    obtain ⟨segment, inside, rfl⟩ := List.mem_map.mp member
    refine (wellFormed.segments segment inside).fill_ne fun name same => fits name ?_
    exact List.mem_filterMap.mpr ⟨segment, inside, by rw [same]; rfl⟩

theorem fits_placeholder {template : PathTemplate} (wellFormed : template.WellFormed) :
    template.Fits Segment.placeholder := by
  intro name member
  obtain ⟨segment, inside, named⟩ := List.mem_filterMap.mp member
  cases segment with
  | literal text => cases named
  | param other =>
    cases named
    have named : isParamName name.toList = true := wellFormed.segments _ inside
    rw [isParamName, Bool.and_eq_true, List.all_eq_true] at named
    refine ⟨fun empty => ?_, fun slash => ?_⟩
    · simpa [Segment.placeholder, Segment.text] using congrArg String.toList empty
    · have inName : '/' ∈ name.toList := by
        simpa [Segment.placeholder, Segment.text] using slash
      exact absurd (named.2 '/' inName) (by decide)

theorem text_eq_fill (template : PathTemplate) :
    template.text = template.fill Segment.placeholder := rfl

/-- The parts of a template's text are its segments as they are written. -/
theorem parts?_text {template : PathTemplate} (wellFormed : template.WellFormed) :
    parts? template.text = some (template.segments.map (·.text.toList)) := by
  rw [text_eq_fill]
  exact parts?_fill wellFormed (fits_placeholder wellFormed)

/-! ## Matching -/

/-- Capturing succeeds exactly when the segments accept the parts, one by one. -/
theorem isSome_capture_iff {segments : List Segment} {parts : List (List Char)}
    {params : PathParams} :
    (capture segments parts params).isSome ↔ List.Forall₂ Segment.Accepts segments parts := by
  induction segments generalizing parts params with
  | nil =>
    cases parts with
    | nil => simp [capture]
    | cons part parts => simp [capture]
  | cons segment segments ih =>
    cases parts with
    | nil => cases segment <;> simp [capture]
    | cons part parts =>
      rw [List.forall₂_cons]
      cases segment with
      | literal text =>
        rw [capture]
        by_cases same : text.toList = part
        · simp [same, ih, Segment.Accepts]
        · simp [same, Segment.Accepts]
      | param name =>
        rw [capture]
        by_cases empty : part = []
        · simp [empty, Segment.Accepts]
        · simp [empty, ih, Segment.Accepts]

/-- **What matches.** A path matches when it has parts and the segments accept them. -/
theorem isSome_matches?_iff {template : PathTemplate} {path : String} :
    (template.matches? path).isSome ↔
      ∃ parts, parts? path = some parts ∧
        List.Forall₂ Segment.Accepts template.segments parts := by
  unfold matches?
  cases parts? path with
  | none => simp
  | some parts => simp [isSome_capture_iff]

/-- What a path captures that fills the parameters with these values. -/
def captures (template : PathTemplate) (values : String → String) : PathParams :=
  template.paramNames.foldl
    (fun params name => params.insert name (Percent.decode (values name))) ∅

/-- Values put in under some names are found under these names only. -/
theorem getElem?_foldl_insert (names : List String) (value : String → String) (name : String) :
    (names.foldl (fun params name => params.insert name (value name)) (∅ : PathParams))[name]? =
      if name ∈ names then some (value name) else none := by
  induction names using List.reverseRecOn with
  | nil => simp
  | append_singleton names last ih =>
    rw [List.foldl_concat, Std.ExtTreeMap.getElem?_insert, ih]
    by_cases same : last = name
    · simp [same]
    · simp [same, Ne.symm same]

/-- A parameter of a template captures its value, decoded. -/
theorem getElem?_captures {template : PathTemplate} {name : String}
    (member : name ∈ template.paramNames) (values : String → String) :
    (template.captures values)[name]? = some (Percent.decode (values name)) :=
  (getElem?_foldl_insert _ _ name).trans (if_pos member)

theorem capture_fill {segments : List Segment} {values : String → String} {params : PathParams}
    (nonempty : ∀ name ∈ segments.filterMap Segment.paramName?, values name ≠ "") :
    capture segments (segments.map fun segment => (segment.fill values).toList) params =
      some ((segments.filterMap Segment.paramName?).foldl
        (fun params name => params.insert name (Percent.decode (values name))) params) := by
  induction segments generalizing params with
  | nil => rfl
  | cons segment segments ih =>
    cases segment with
    | literal text =>
      rw [List.map_cons, capture]
      exact (if_pos rfl).trans (ih nonempty)
    | param name =>
      have named : (Segment.param name :: segments).filterMap Segment.paramName? =
          name :: segments.filterMap Segment.paramName? := rfl
      rw [named, List.forall_mem_cons] at nonempty
      have filled : (values name).toList.isEmpty = false := by simpa using nonempty.1
      rw [List.map_cons, capture, named, List.foldl_cons, ← ih nonempty.2]
      simp [Segment.fill, filled]

/-- Parts that the segments accept fill the parameters, as long as these differ. -/
theorem exists_fill_of_accepts {segments : List Segment} {parts : List (List Char)}
    (accepted : List.Forall₂ Segment.Accepts segments parts)
    (distinct : (segments.filterMap Segment.paramName?).Nodup) :
    ∃ values : String → String,
      (∀ name ∈ segments.filterMap Segment.paramName?, values name ≠ "") ∧
        parts = segments.map fun segment => (segment.fill values).toList := by
  induction accepted with
  | nil => exact ⟨id, by simp, rfl⟩
  | @cons segment part segments parts accepts _ ih =>
    cases segment with
    | literal text =>
      obtain ⟨values, nonempty, rfl⟩ := ih distinct
      exact ⟨values, nonempty, by rw [List.map_cons, ← accepts]; rfl⟩
    | param name =>
      have named : (Segment.param name :: segments).filterMap Segment.paramName? =
          name :: segments.filterMap Segment.paramName? := rfl
      rw [named, List.nodup_cons] at distinct
      obtain ⟨values, nonempty, rfl⟩ := ih distinct.2
      -- The value of this parameter does not disturb the others, which have other names.
      refine ⟨Function.update values name (String.ofList part), ?_, ?_⟩
      · rw [named, List.forall_mem_cons]
        refine ⟨?_, fun other member => ?_⟩
        · simpa [Segment.Accepts] using accepts
        · rw [Function.update_of_ne (by rintro rfl; exact distinct.1 member)]
          exact nonempty other member
      · rw [List.map_cons, List.cons.injEq]
        refine ⟨by simp [Segment.fill], List.map_congr_left fun other member => ?_⟩
        cases other with
        | literal text => rfl
        | param other =>
          have inside : other ∈ segments.filterMap Segment.paramName? :=
            List.mem_filterMap.mpr ⟨_, member, rfl⟩
          have different : other ≠ name := by
            rintro rfl
            exact distinct.1 inside
          simp [Segment.fill, Function.update_of_ne different]

/-- A path is joined from its parts, and these have no slashes. -/
theorem parts?_eq_some {path : String} {parts : List (List Char)}
    (split : parts? path = some parts) :
    path.toList = '/' :: ['/'].intercalate parts ∧ ∀ part ∈ parts, '/' ∉ part := by
  unfold parts? at split
  split at split
  · next root =>
    cases split
    exact ⟨root, by simp⟩
  · next rest _ whole =>
    cases split
    exact ⟨by rw [whole, Text.intercalate_pieces], fun _ => Text.not_mem_of_mem_pieces⟩
  · cases split

/-- The path is joined from parts without slashes that the segments accept, one by one. -/
structure Instance (template : PathTemplate) (parts : List (List Char)) (path : String) : Prop where
  joined : path.toList = '/' :: ['/'].intercalate parts
  clean : ∀ part ∈ parts, '/' ∉ part
  accepted : List.Forall₂ Segment.Accepts template.segments parts

/-- An instance of a template is a filling, and its parts are the filled segments. -/
theorem Instance.exists_fill {template : PathTemplate} {parts : List (List Char)} {path : String}
    (wellFormed : template.WellFormed) (made : template.Instance parts path) :
    ∃ values, template.Fits values ∧ path = template.fill values ∧
      parts = template.segments.map fun segment => (segment.fill values).toList := by
  obtain ⟨values, nonempty, filled⟩ := exists_fill_of_accepts made.accepted wellFormed.names
  refine ⟨values, fun name member => ⟨nonempty name member, fun slash => ?_⟩, ?_, filled⟩
  · obtain ⟨segment, inside, named⟩ := List.mem_filterMap.mp member
    cases segment with
    | literal text => cases named
    | param other =>
      cases named
      exact made.clean _ (filled ▸ List.mem_map_of_mem inside) slash
  · rw [← String.toList_inj, made.joined, filled, fill, String.toList_append, Text.join,
      String.toList_intercalate, List.map_map]
    rfl

theorem matches?_fill {template : PathTemplate} {values : String → String}
    (wellFormed : template.WellFormed) (fits : template.Fits values) :
    template.matches? (template.fill values) = some (template.captures values) := by
  rw [matches?, parts?_fill wellFormed fits, Option.bind_some,
    capture_fill fun name member => (fits name member).1]
  rfl

/-- A template matches each of its fillings. -/
theorem isSome_matches?_fill {template : PathTemplate} {values : String → String}
    (wellFormed : template.WellFormed) (fits : template.Fits values) :
    (template.matches? (template.fill values)).isSome :=
  Option.isSome_of_eq_some (matches?_fill wellFormed fits)

section OwnText

variable {template other : PathTemplate} (wellFormed : template.WellFormed)

include wellFormed

/-- A template matches its own text. -/
theorem isSome_matches?_text : (template.matches? template.text).isSome := by
  rw [text_eq_fill]
  exact isSome_matches?_fill wellFormed (fits_placeholder wellFormed)

/-- What matches the text of a template accepts its segments as parts. -/
theorem accepts_of_matches?_text (matched : (other.matches? template.text).isSome) :
    List.Forall₂ Segment.Accepts other.segments (template.segments.map (·.text.toList)) := by
  obtain ⟨parts, split, accepted⟩ := isSome_matches?_iff.mp matched
  rw [parts?_text wellFormed] at split
  rw [Option.some_inj.mp split]
  exact accepted

end OwnText

/-- **What is captured.** The paths that match a template are its fillings, and what is captured are
the values of the parameters, decoded. -/
theorem matches?_eq_some_iff {template : PathTemplate} (wellFormed : template.WellFormed)
    {path : String} {params : PathParams} :
    template.matches? path = some params ↔
      ∃ values, template.Fits values ∧ path = template.fill values ∧
        params = template.captures values := by
  constructor
  · intro matched
    obtain ⟨parts, split, accepted⟩ := isSome_matches?_iff.mp (Option.isSome_of_eq_some matched)
    obtain ⟨joined, clean⟩ := parts?_eq_some split
    obtain ⟨values, fits, whole, -⟩ := Instance.exists_fill wellFormed ⟨joined, clean, accepted⟩
    rw [whole, matches?_fill wellFormed fits] at matched
    exact ⟨values, fits, whole, (Option.some_inj.mp matched).symm⟩
  · rintro ⟨values, fits, rfl, rfl⟩
    exact matches?_fill wellFormed fits

/-- Segments without parameters accept their own texts only. -/
theorem eq_of_accepts_of_literal {segments : List Segment} {parts : List (List Char)}
    (accepted : List.Forall₂ Segment.Accepts segments parts)
    (literal : ∀ segment ∈ segments, ∀ name, segment ≠ .param name) :
    parts = segments.map (·.text.toList) := by
  induction accepted with
  | nil => rfl
  | @cons segment part segments parts accepts _ ih =>
    rw [List.map_cons, ← ih fun other member => literal other (by simp [member])]
    cases segment with
    | literal text => rw [← accepts]; rfl
    | param name => exact absurd rfl (literal _ (by simp) name)

end PathTemplate

end Petstore
