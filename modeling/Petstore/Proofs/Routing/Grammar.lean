import Petstore.Proofs.Routing.Template

/-!
# The grammar of templates

A template is read from left to right, and what stands before a part decides whether the part is in
order: a name may be used once. Here the texts of templates are described as a whole, and faults by
the place of the first one:

* `Grammatical`: parts that make up a template, and `Flaw`: what is wrong with a part behind others.
* `outcome_readSegments`: parts behind grammatical ones are read to their end, or up to the first
  flaw.
* `parse_exact`: so the texts that are read are those of the grammar, and any other text fails with
  its leftmost flaw.
-/

namespace Petstore.PathTemplate

/-! ## Parts by themselves -/

/-- A letter, a digit or an underscore, all of ASCII. -/
def IsNameChar (c : Char) : Prop :=
  'a' ≤ c ∧ c ≤ 'z' ∨ 'A' ≤ c ∧ c ≤ 'Z' ∨ '0' ≤ c ∧ c ≤ '9' ∨ c = '_'

/-- The part is free of braces. -/
def Plain (part : List Char) : Prop :=
  '{' ∉ part ∧ '}' ∉ part

/-- A name as it is written for a parameter. -/
def braces (name : String) : List Char :=
  '{' :: name.toList ++ ['}']

/-- The part is a proper name in braces. -/
def Braced (name : String) (part : List Char) : Prop :=
  name ≠ "" ∧ (∀ c ∈ name.toList, IsNameChar c) ∧ part = braces name

theorem isParamChar_iff {c : Char} : isParamChar c = true ↔ IsNameChar c := by
  unfold isParamChar IsNameChar Char.isAlphanum Char.isAlpha Char.isUpper Char.isLower Char.isDigit
  simp only [Char.le_def, Bool.or_eq_true, Bool.and_eq_true, decide_eq_true_eq, beq_iff_eq]
  grind

theorem isParamName_iff {name : String} :
    isParamName name.toList = true ↔ name ≠ "" ∧ ∀ c ∈ name.toList, IsNameChar c := by
  simp [isParamName, isParamChar_iff]

theorem Braced.unique {name other : String} {part : List Char} (braced : Braced name part)
    (braced' : Braced other part) : name = other := by
  have same := braced.2.2.symm.trans braced'.2.2
  rw [← String.toList_inj]
  simpa [braces] using same

/-- What a part by itself is read as. -/
inductive Reading (position : Nat) (part : List Char) : Except TemplateError Segment → Prop
  | empty (none : part = []) : Reading position part (.error (.emptySegment position))
  | literal (nonempty : part ≠ []) (plain : Plain part) :
    Reading position part (.ok (.literal (String.ofList part)))
  | param {name : String} (braced : Braced name part) : Reading position part (.ok (.param name))
  | malformed (nonempty : part ≠ []) (unplain : ¬ Plain part)
    (unnamed : ∀ name, ¬ Braced name part) :
    Reading position part (.error (.malformedParam (String.ofList part)))

theorem reading_readSegment (position : Nat) (part : List Char) :
    Reading position part (readSegment position part) := by
  unfold readSegment
  split
  · exact .empty rfl
  · next inner =>
    split
    · next named =>
      rw [Bool.and_eq_true, decide_eq_true_eq] at named
      have whole := List.dropLast_append_getLast? '}' named.1
      obtain ⟨nonempty, proper⟩ :=
        isParamName_iff.mp ((String.toList_ofList (l := inner.dropLast)).symm ▸ named.2)
      refine .param ⟨nonempty, proper, ?_⟩
      rw [braces, String.toList_ofList, List.cons_append, whole]
    · next unnamed =>
      refine .malformed (List.cons_ne_nil _ _) (fun plain => plain.1 List.mem_cons_self) ?_
      rintro name ⟨nonempty, proper, same⟩
      obtain rfl := (List.cons.inj same).2
      have named := isParamName_iff.mpr ⟨nonempty, proper⟩
      exact unnamed (by simpa using named)
  · next nonempty unbraced =>
    have unnamed : ∀ name, ¬ Braced name part := fun name braced => unbraced _ braced.2.2
    split
    · next found =>
      rw [Bool.or_eq_true, List.contains_iff_mem, List.contains_iff_mem] at found
      exact .malformed nonempty (fun plain => found.elim plain.1 plain.2) unnamed
    · next plain =>
      rw [Bool.or_eq_true, not_or, List.contains_iff_mem, List.contains_iff_mem] at plain
      exact .literal nonempty plain

/-! ## Parts behind others -/

/-- The parts of a template: each is free of braces, but not empty, or a name in braces, and no name
occurs twice. -/
structure Grammatical (parts : List (List Char)) : Prop where
  formed : ∀ part ∈ parts, part ≠ [] ∧ (Plain part ∨ ∃ name, Braced name part)
  distinct : parts.Pairwise fun part other => ∀ name, Braced name part → ¬ Braced name other

/-- What is wrong with a part behind others: it is empty, or neither free of braces nor a name in
braces, or it is a parameter that occurs among the others. -/
inductive Flaw (before : List (List Char)) (part : List Char) : TemplateError → Prop
  | empty (none : part = []) : Flaw before part (.emptySegment before.length)
  | malformed (nonempty : part ≠ []) (unplain : ¬ Plain part)
    (unnamed : ∀ name, ¬ Braced name part) :
    Flaw before part (.malformedParam (String.ofList part))
  | duplicate {name : String} (braced : Braced name part) (earlier : part ∈ before) :
    Flaw before part (.duplicateParam name)

section Flaws

variable {before after : List (List Char)} {part : List Char} {error error' : TemplateError}

theorem Braced.ne_nil {name : String} (braced : Braced name part) : part ≠ [] := by
  rw [braced.2.2]
  exact List.cons_ne_nil _ _

theorem Braced.not_plain {name : String} (braced : Braced name part) : ¬ Plain part := by
  rw [braced.2.2]
  exact fun plain => plain.1 List.mem_cons_self

/-- A part has one flaw at most. -/
theorem Flaw.unique (flaw : Flaw before part error) (flaw' : Flaw before part error') :
    error = error' := by
  cases flaw with
  | empty none =>
    cases flaw' with
    | empty _ => rfl
    | malformed nonempty _ _ => exact absurd none nonempty
    | duplicate braced _ => exact absurd none braced.ne_nil
  | malformed nonempty _ unnamed =>
    cases flaw' with
    | empty none => exact absurd none nonempty
    | malformed _ _ _ => rfl
    | duplicate braced _ => exact absurd braced (unnamed _)
  | duplicate braced _ =>
    cases flaw' with
    | empty none => exact absurd none braced.ne_nil
    | malformed _ _ unnamed => exact absurd braced (unnamed _)
    | duplicate braced' _ => rw [braced.unique braced']

theorem grammatical_nil : Grammatical [] :=
  ⟨by simp, List.Pairwise.nil⟩

/-- Grammatical parts have no flaw, each behind those before it. -/
theorem Grammatical.not_flaw (grammatical : Grammatical (before ++ part :: after)) :
    ¬ Flaw before part error := by
  obtain ⟨nonempty, formed⟩ := grammatical.formed part (by simp)
  intro flaw
  cases flaw with
  | empty none => exact nonempty none
  | malformed _ unplain unnamed =>
    exact formed.elim unplain fun ⟨name, braced⟩ => unnamed name braced
  | duplicate braced earlier =>
    have apart := (List.pairwise_append.mp grammatical.distinct).2.2
    exact apart part earlier part (by simp) _ braced braced

/-- A further part is in order if it is well formed and its name, if it has one, is new. -/
theorem Grammatical.concat (grammatical : Grammatical before) (nonempty : part ≠ [])
    (formed : Plain part ∨ ∃ name, Braced name part)
    (fresh : ∀ name, Braced name part → part ∉ before) : Grammatical (before ++ [part]) where
  formed := by
    intro other member
    rcases List.mem_append.mp member with old | new
    · exact grammatical.formed other old
    · rw [List.mem_singleton.mp new]
      exact ⟨nonempty, formed⟩
  distinct := by
    refine List.pairwise_append.mpr ⟨grammatical.distinct, List.pairwise_singleton _ _, ?_⟩
    intro other member last same name braced braced'
    rw [List.mem_singleton.mp same] at braced'
    have equal : other = part := braced.2.2.trans braced'.2.2.symm
    exact fresh name braced' (equal ▸ member)

/-- There is one first flaw: what is grammatical before one does not reach beyond another. -/
theorem first_flaw_unique {before' after' : List (List Char)} {part' : List Char}
    (same : before ++ part :: after = before' ++ part' :: after')
    (grammatical : Grammatical before) (flaw : Flaw before part error)
    (grammatical' : Grammatical before') (flaw' : Flaw before' part' error') :
    before = before' ∧ part = part' := by
  rcases List.append_eq_append_iff.mp same with ⟨mid, rfl, rest⟩ | ⟨mid, rfl, rest⟩
  · cases mid with
    | nil => exact ⟨(List.append_nil _).symm, (List.cons.inj rest).1⟩
    | cons first mid =>
      obtain ⟨rfl, -⟩ := List.cons.inj rest
      exact absurd flaw grammatical'.not_flaw
  · cases mid with
    | nil => exact ⟨List.append_nil _, (List.cons.inj rest).1.symm⟩
    | cons first mid =>
      obtain ⟨rfl, -⟩ := List.cons.inj rest
      exact absurd flaw' grammatical.not_flaw

end Flaws

/-! ## Reading -/

/-- What reading the parts behind others comes to: all are in order, or there is a first flaw. -/
inductive Outcome (before rest : List (List Char)) : Except TemplateError (List Segment) → Prop
  | whole {segments : List Segment} (grammatical : Grammatical (before ++ rest)) :
    Outcome before rest (.ok segments)
  | flawed {mid after : List (List Char)} {part : List Char} {error : TemplateError}
    (split : rest = mid ++ part :: after) (grammatical : Grammatical (before ++ mid))
    (flaw : Flaw (before ++ mid) part error) : Outcome before rest (.error error)

section Outcomes

variable {before rest after : List (List Char)} {part : List Char} {error : TemplateError}
  {result : Except TemplateError (List Segment)}

/-- A flaw right behind grammatical parts is the first one. -/
theorem outcome_of_flaw (grammatical : Grammatical before) (flaw : Flaw before part error) :
    Outcome before (part :: rest) (.error error) :=
  .flawed (List.nil_append _).symm (by rwa [List.append_nil]) (by rwa [List.append_nil])

/-- What the parts behind one more come to, they come to with that one in front. -/
theorem Outcome.cons (later : Outcome (before ++ [part]) rest result) (segment : Segment) :
    Outcome before (part :: rest) (result.map (segment :: ·)) := by
  cases later with
  | whole grammatical => exact .whole (by rwa [List.append_cons])
  | @flawed mid after part' error split grammatical flaw =>
    have split' : part :: rest = (part :: mid) ++ part' :: after := by
      rw [split, List.cons_append]
    refine .flawed split' ?_ ?_
    · rwa [List.append_cons]
    · rwa [List.append_cons]

/-- **Reading goes up to the first flaw.** The names that were seen are those of the parts before,
and each part that is in order is added to these. -/
theorem outcome_readSegments (seen : List String) (grammatical : Grammatical before)
    (mirrored : ∀ name, name ∈ seen ↔ ∃ part ∈ before, Braced name part) :
    Outcome before rest (readSegments before.length seen rest) := by
  induction rest generalizing before seen with
  | nil => exact .whole (by rwa [List.append_nil])
  | cons part rest ih =>
    have reading := reading_readSegment before.length part
    rw [readSegments]
    generalize readSegment before.length part = read at reading
    cases reading with
    | empty none => exact outcome_of_flaw grammatical (.empty none)
    | malformed nonempty unplain unnamed =>
      exact outcome_of_flaw grammatical (.malformed nonempty unplain unnamed)
    | literal nonempty plain =>
      have unnamed (name : String) : ¬ Braced name part := fun braced => braced.not_plain plain
      have next := grammatical.concat nonempty (Or.inl plain) fun name braced =>
        absurd braced (unnamed name)
      have later := ih seen next (by simp [mirrored, unnamed, or_and_right, exists_or])
      rw [List.length_append] at later
      exact later.cons _
    | @param name braced =>
      have known : name ∈ seen ↔ part ∈ before := by
        rw [mirrored]
        constructor
        · rintro ⟨other, member, braced'⟩
          rwa [braced.2.2, ← braced'.2.2]
        · exact fun member => ⟨part, member, braced⟩
      change Outcome before (part :: rest) (if seen.contains name then _ else _)
      split
      · next again =>
        exact outcome_of_flaw grammatical (.duplicate braced (known.mp (by simpa using again)))
      · next new =>
        have fresh : part ∉ before := mt known.mpr (by simpa using new)
        have next := grammatical.concat braced.ne_nil (Or.inr ⟨name, braced⟩) fun _ _ => fresh
        have own (other : String) : other = name ↔ Braced other part :=
          ⟨fun same => same ▸ braced, fun braced' => braced'.unique braced⟩
        have later := ih (name :: seen) next
          (by simp [mirrored, own, or_and_right, exists_or, or_comm])
        rw [List.length_append] at later
        exact later.cons _

theorem Outcome.exists_ok_iff (outcome : Outcome [] rest result) :
    (∃ segments, result = .ok segments) ↔ Grammatical rest := by
  cases outcome with
  | whole grammatical => exact iff_of_true ⟨_, rfl⟩ grammatical
  | flawed split grammatical flaw =>
    refine iff_of_false (fun ⟨_, same⟩ => nomatch same) fun whole => ?_
    rw [split] at whole
    exact whole.not_flaw flaw

theorem Outcome.eq_error_iff (outcome : Outcome [] rest result) :
    result = .error error ↔ ∃ before part after,
      rest = before ++ part :: after ∧ Grammatical before ∧ Flaw before part error := by
  cases outcome with
  | whole grammatical =>
    refine iff_of_false (fun same => nomatch same) ?_
    rintro ⟨before, part, after, rfl, -, flaw⟩
    exact grammatical.not_flaw flaw
  | flawed split grammatical flaw =>
    constructor
    · rintro ⟨⟩
      exact ⟨_, _, _, split, grammatical, flaw⟩
    · rintro ⟨before', part', after', split', grammatical', flaw'⟩
      obtain ⟨rfl, rfl⟩ :=
        first_flaw_unique (split'.symm.trans split) grammatical' flaw' grammatical flaw
      rw [flaw'.unique flaw]

end Outcomes

/-! ## Texts -/

/-- The text is a slash and behind it the parts, with slashes between them and none within. -/
structure Joins (parts : List (List Char)) (text : String) : Prop where
  joined : text.toList = '/' :: ['/'].intercalate parts
  clean : ∀ part ∈ parts, '/' ∉ part

section Texts

variable {text : String} {parts : List (List Char)} {template : PathTemplate}

theorem exists_joins (rooted : text.toList.head? = some '/') :
    ∃ parts, parts ≠ [] ∧ Joins parts text := by
  obtain ⟨rest, whole⟩ := List.head?_eq_some_iff.mp rooted
  refine ⟨Text.pieces '/' rest, Text.pieces_ne_nil '/' rest, ?_, ?_⟩
  · rw [whole, Text.intercalate_pieces]
  · exact fun part => Text.not_mem_of_mem_pieces

theorem parse_of_joins (joins : Joins parts text) (notRoot : text ≠ "/") :
    parse text = (readSegments 0 [] parts).map PathTemplate.mk := by
  unfold parse
  split
  · next root => exact absurd (String.toList_inj.mp root) notRoot
  · next rest _ whole =>
    have nonempty : parts ≠ [] := by
      rintro rfl
      exact notRoot (String.toList_inj.mp joins.joined)
    rw [joins.joined] at whole
    rw [← (List.cons.inj whole).2, Text.pieces_intercalate nonempty joins.clean]
  · next noSlash => exact absurd joins.joined (noSlash _)

theorem parse_of_unrooted (unrooted : text.toList.head? ≠ some '/') :
    parse text = .error .missingLeadingSlash := by
  unfold parse
  split
  · next root => exact absurd (congrArg List.head? root) unrooted
  · next rest _ whole => exact absurd (congrArg List.head? whole) unrooted
  · rfl

/-- Behind its slash a text other than the root is read exactly if its parts are grammatical. -/
theorem exists_parse_eq_ok_iff (joins : Joins parts text) (notRoot : text ≠ "/") :
    (∃ template, parse text = .ok template) ↔ Grammatical parts := by
  rw [← (outcome_readSegments [] grammatical_nil (by simp)).exists_ok_iff,
    parse_of_joins joins notRoot]
  cases readSegments 0 [] parts with
  | error reason => simp [Except.map]
  | ok segments => simp [Except.map]

/-- It fails exactly with the first flaw of its parts. -/
theorem parse_eq_error_iff (joins : Joins parts text) (notRoot : text ≠ "/")
    {error : TemplateError} :
    parse text = .error error ↔ ∃ before part after,
      parts = before ++ part :: after ∧ Grammatical before ∧ Flaw before part error := by
  rw [← (outcome_readSegments [] grammatical_nil (by simp)).eq_error_iff,
    parse_of_joins joins notRoot]
  cases readSegments 0 [] parts with
  | error reason => simp [Except.map]
  | ok segments => simp [Except.map]

/-- A template is written as its segments, joined. -/
theorem joins_text (wellFormed : template.WellFormed) :
    Joins (template.segments.map (·.text.toList)) template.text :=
  ⟨toList_text template, (parts?_eq_some (parts?_text wellFormed)).2⟩

/-- Of segments as they are written, those with a brace are the parameters. -/
theorem filter_brace {segments : List Segment}
    (wellFormed : ∀ segment ∈ segments, segment.WellFormed) :
    (segments.map (·.text.toList)).filter ('{' ∈ ·) =
      (segments.filterMap Segment.paramName?).map braces := by
  induction segments with
  | nil => rfl
  | cons segment segments ih =>
    rw [List.forall_mem_cons] at wellFormed
    rw [List.map_cons]
    cases segment with
    | literal text =>
      have unbraced : ¬ '{' ∈ (Segment.literal text).text.toList :=
        fun brace => (wellFormed.1.2 _ brace).2.1 rfl
      rw [List.filter_cons_of_neg (by simpa using unbraced), ih wellFormed.2]
      rfl
    | param name =>
      have written : (Segment.param name).text.toList = braces name := String.toList_ofList
      rw [written, List.filter_cons_of_pos (by simp [braces]), ih wellFormed.2]
      rfl

/-- A text that is read has a slash in front, and behind it grammatical parts, if any. -/
theorem parse_isOk_iff :
    (∃ template, parse text = .ok template) ↔
      text = "/" ∨ ∃ parts, parts ≠ [] ∧ Joins parts text ∧ Grammatical parts := by
  by_cases root : text = "/"
  · rw [root]
    exact iff_of_true ⟨⟨[]⟩, rfl⟩ (Or.inl rfl)
  · constructor
    · rintro ⟨template, read⟩
      have rooted : text.toList.head? = some '/' := by
        by_contra unrooted
        rw [parse_of_unrooted unrooted] at read
        cases read
      obtain ⟨parts, nonempty, joins⟩ := exists_joins rooted
      exact Or.inr
        ⟨parts, nonempty, joins, (exists_parse_eq_ok_iff joins root).mp ⟨template, read⟩⟩
    · rintro (isRoot | ⟨parts, -, joins, grammatical⟩)
      · exact absurd isRoot root
      · exact (exists_parse_eq_ok_iff joins root).mpr grammatical

/-- A text fails for want of a slash in front, or else with the first flaw of what is behind it. -/
theorem parse_isError_iff {error : TemplateError} :
    parse text = .error error ↔
      text.toList.head? ≠ some '/' ∧ error = .missingLeadingSlash ∨
      text ≠ "/" ∧ ∃ before part after, Joins (before ++ part :: after) text ∧
        Grammatical before ∧ Flaw before part error := by
  constructor
  · intro failed
    by_cases rooted : text.toList.head? = some '/'
    · have notRoot : text ≠ "/" := by
        rintro rfl
        cases failed
      obtain ⟨parts, -, joins⟩ := exists_joins rooted
      obtain ⟨before, part, after, rfl, grammatical, flaw⟩ :=
        (parse_eq_error_iff joins notRoot).mp failed
      exact Or.inr ⟨notRoot, before, part, after, joins, grammatical, flaw⟩
    · rw [parse_of_unrooted rooted] at failed
      exact Or.inl ⟨rooted, (Except.error.inj failed).symm⟩
  · rintro (⟨unrooted, rfl⟩ | ⟨notRoot, before, part, after, joins, grammatical, flaw⟩)
    · exact parse_of_unrooted unrooted
    · exact (parse_eq_error_iff joins notRoot).mpr ⟨before, part, after, rfl, grammatical, flaw⟩

end Texts

/-- **What is read, and what is wrong with the rest.** A text is read exactly if it is the root, or
a slash and behind it grammatical parts. What it is read as is written as that text, and its
parameters are the parts in braces, left to right and each once. A text that is not read lacks the
slash in front, or else the error is that of its leftmost flaw: all parts before that one are
grammatical. -/
theorem parse_exact (text : String) :
    ((∃ template, parse text = .ok template) ↔
      text = "/" ∨ ∃ parts, parts ≠ [] ∧ Joins parts text ∧ Grammatical parts) ∧
    (∀ template, parse text = .ok template →
      "/" ++ Text.join "/" (template.segments.map Segment.text) = text ∧
      template.paramNames.Nodup ∧
      ∃ parts, Joins parts text ∧ parts.filter ('{' ∈ ·) = template.paramNames.map braces) ∧
    ∀ error, parse text = .error error ↔
      text.toList.head? ≠ some '/' ∧ error = .missingLeadingSlash ∨
      text ≠ "/" ∧ ∃ before part after, Joins (before ++ part :: after) text ∧
        Grammatical before ∧ Flaw before part error := by
  refine ⟨parse_isOk_iff, fun template read => ?_, fun error => parse_isError_iff⟩
  obtain ⟨wellFormed, written⟩ := parse_eq_ok read
  refine ⟨written, wellFormed.names, _, written ▸ joins_text wellFormed, ?_⟩
  exact filter_brace wellFormed.segments

/-- An empty part comes before a name that is used again. -/
example : parse "/pet/\x7bid\x7d//\x7bid\x7d" = .error (.emptySegment 2) := by decide

end Petstore.PathTemplate
