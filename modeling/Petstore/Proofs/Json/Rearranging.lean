import Mathlib.Logic.Relation
import Petstore.Proofs.Json.Objects

/-!
# Objects with their members rearranged

A record does not tell objects apart that differ in the order of their members, in members that no
field is named for, or in an explicit `null` for a field that may be absent (`Rearranges`), at the
top or in the objects within. Since the members of an object act on a record independently of each
other (`Record.step_comm`), their order does not matter; the others leave it as it is.
-/

namespace Petstore.Json

open Phrase Reader

/-! ## Changes -/

/-- Where the value of a field is expected: the name of the field, whether it may be `null`, and
which changes of a list or an object do not matter there. -/
structure Slot where
  name : String
  optional : Bool
  Harmless : Phrase → Phrase → Prop

/-- A single change of an object that is read by fields with the given slots. -/
inductive Rearranges (slots : List Slot) : Phrase → Phrase → Prop
  /-- The members come in another order. -/
  | permuted {members others : List (Letters × Phrase)} :
    members.Perm others → Rearranges slots (.object members) (.object others)
  /-- A member is put in front whose name is not that of a field. -/
  | unknown {letters : Letters} {name : String} {members : List (Letters × Phrase)}
      (value : Phrase) :
    letters.text? = some name → (∀ slot ∈ slots, slot.name ≠ name) →
      Rearranges slots (.object members) (.object ((letters, value) :: members))
  /-- A field that may be `null` and is absent is given in front, as `null`. -/
  | absent {slot : Slot} {letters : Letters} {members : List (Letters × Phrase)} :
    slot ∈ slots → slot.optional = true → letters.text? = some slot.name →
      (∀ member ∈ members, member.1.text? ≠ some slot.name) →
      Rearranges slots (.object members) (.object ((letters, .null) :: members))
  /-- A list or an object that is the value of a field is changed in a way that does not matter. -/
  | within {slot : Slot} {letters : Letters} {value value' : Phrase}
      {before after : List (Letters × Phrase)} :
    slot ∈ slots → letters.text? = some slot.name → value.isCompound = true →
      value'.isCompound = true → slot.Harmless value value' →
      Rearranges slots (.object (before ++ (letters, value) :: after))
        (.object (before ++ (letters, value') :: after))
  /-- So is one in a list that gives the values of the fields in their order. Items that are no
  longer values of fields may change in any way. -/
  | listed {value value' : Phrase} {before after : List Phrase} :
    value.isCompound = true → value'.isCompound = true →
      (∀ slot ∈ slots[before.length]?, slot.Harmless value value') →
      Rearranges slots (.array (before ++ value :: after)) (.array (before ++ value' :: after))

theorem Rearranges.isCompound {slots : List Slot} {value value' : Phrase}
    (changes : Rearranges slots value value') :
    value.isCompound = true ∧ value'.isCompound = true := by
  cases changes <;> exact ⟨rfl, rfl⟩

/-- The phrase is the object form of a variant of one of the given names: its only member has that
name and the value `null`. -/
def Phrase.isVariantForm (names : List String) : Phrase → Bool
  | .object [(letters, .null)] => letters.text?.any names.contains
  | _ => false

/-- A change within an item of a list that does not matter there. Objects are no lists. -/
inductive ChangesItem (Harmless : Phrase → Phrase → Prop) : Phrase → Phrase → Prop
  | item {value value' : Phrase} {before after : List Phrase} :
    value.isCompound = true → value'.isCompound = true → Harmless value value' →
      ChangesItem Harmless (.array (before ++ value :: after)) (.array (before ++ value' :: after))
  | object (members others : List (Letters × Phrase)) :
    ChangesItem Harmless (.object members) (.object others)

theorem ChangesItem.isCompound {Harmless : Phrase → Phrase → Prop} {value value' : Phrase}
    (changes : ChangesItem Harmless value value') :
    value.isCompound = true ∧ value'.isCompound = true := by
  cases changes <;> exact ⟨rfl, rfl⟩

namespace Slot

/-- A text, a number or a truth value is expected, which no list or object is. -/
def scalar (name : String) (optional : Bool) : Slot :=
  ⟨name, optional, fun _ _ => True⟩

/-- A variant of one of the given names is expected. Lists and objects are none, but for the object
forms of these variants. -/
def variant (name : String) (optional : Bool) (variants : List String) : Slot :=
  ⟨name, optional, fun value value' =>
    value.isVariantForm variants = false ∧ value'.isVariantForm variants = false⟩

/-- A record is expected, with the slots of its fields. -/
def record (name : String) (optional : Bool) (slots : List Slot) : Slot :=
  ⟨name, optional, Rearranges slots⟩

/-- A list is expected. -/
def list (name : String) (Harmless : Phrase → Phrase → Prop) : Slot :=
  ⟨name, false, ChangesItem Harmless⟩

end Slot

/-! ## Readers -/

namespace Reader

variable {α β : Type} {reader : Reader α} {Harmless : Phrase → Phrase → Prop}
  {value value' : Phrase}

/-- The changes do not matter to the reader, which means the same wherever a phrase is spelled. -/
structure Ignores (reader : Reader α) (Harmless : Phrase → Phrase → Prop) : Prop where
  steady : reader.Steady
  same ⦃value value' : Phrase⦄ : value.isCompound = true → value'.isCompound = true →
    Harmless value value' → reader.value value = reader.value value'

/-- A reader for which no list and no object has a meaning ignores every change of them. -/
theorem ignores_of_scalar {meaning : Phrase → Option α} (means : reader.Means meaning)
    (scalar : ∀ value, value.isCompound = true → meaning value = none) :
    reader.Ignores fun _ _ => True where
  steady := means.steady
  same value value' compound compound' _ := by
    rw [means.value_eq, scalar value compound, scalar value' compound']

theorem ignores_string : string.Ignores fun _ _ => True := by
  refine ignores_of_scalar means_string fun value compound => ?_
  cases value with
  | array | object => rfl
  | _ => cases compound

theorem ignores_boolean : boolean.Ignores fun _ _ => True := by
  refine ignores_of_scalar means_boolean fun value compound => ?_
  cases value with
  | array | object => rfl
  | _ => cases compound

theorem ignores_integer (expected : String) (range : Text.IntRange) :
    (integer expected range).Ignores fun _ _ => True := by
  refine ignores_of_scalar (means_integer expected range) fun value compound => ?_
  cases value with
  | array | object => rfl
  | _ => cases compound

theorem variantOf?_eq_none {variants : List (String × α)} {letters : Letters}
    (unknown : letters.text?.any (variants.map (·.1)).contains = false) :
    variantOf? variants letters = none := by
  unfold variantOf?
  cases named : letters.text? with
  | none => rfl
  | some name =>
    rw [named, Option.any_some, List.contains_eq_mem, decide_eq_false_iff_not] at unknown
    refine List.lookup_eq_none_iff.mpr fun variant inside => ?_
    rw [bne_iff_ne]
    rintro rfl
    exact unknown (List.mem_map_of_mem inside)

theorem variantValue_of_compound {variants : List (String × α)} (compound : value.isCompound = true)
    (other : value.isVariantForm (variants.map (·.1)) = false) :
    variantValue variants value = none := by
  match value with
  | .array _ => rfl
  | .object members =>
    by_cases form : ∃ letters, members = [(letters, .null)]
    · obtain ⟨letters, rfl⟩ := form
      exact variantOf?_eq_none other
    · exact variantValue_of_other fun letters same => form ⟨letters, same⟩

theorem ignores_choice (variants : List (String × α)) :
    (choice variants).Ignores fun value value' =>
      value.isVariantForm (variants.map (·.1)) = false ∧
        value'.isVariantForm (variants.map (·.1)) = false where
  steady := (means_choice variants).steady
  same value value' compound compound' harmless := by
    obtain ⟨other, other'⟩ := harmless
    rw [(means_choice variants).value_eq, variantValue_of_compound compound other,
      variantValue_of_compound compound' other']

theorem Ignores.map (ignores : reader.Ignores Harmless) (f : α → β) :
    (reader.map f).Ignores Harmless where
  steady := (Means.map ignores.steady f).steady
  same value value' compound compound' harmless := by
    rw [(Means.map ignores.steady f).value_eq]
    exact congrArg (Option.map f) (ignores.same compound compound' harmless)

theorem ne_null_of_isCompound (compound : value.isCompound = true) : value ≠ .null := by
  rintro rfl
  cases compound

theorem Ignores.optional (ignores : reader.Ignores Harmless) :
    (Reader.optional reader).Ignores Harmless where
  steady := (Means.optional ignores.steady).steady
  same value value' compound compound' harmless := by
    rw [(Means.optional ignores.steady).value_eq,
      optionalValue_of_present (ne_null_of_isCompound compound),
      optionalValue_of_present (ne_null_of_isCompound compound'),
      ignores.same compound compound' harmless]

theorem Ignores.list (ignores : reader.Ignores Harmless) :
    (Reader.list reader).Ignores (ChangesItem Harmless) where
  steady := (Means.list ignores.steady).steady
  same value value' _ _ changes := by
    rw [(Means.list ignores.steady).value_eq]
    cases changes with
    | item compound compound' harmless =>
      simp only [listValue, List.mapM_append, List.mapM_cons,
        ignores.same compound compound' harmless]
    | object => rfl

/-- Any number of changes, back and forth, are ignored where each of them is. -/
theorem Ignores.value_eq (ignores : reader.Ignores Harmless)
    (compound : ∀ value value', Harmless value value' →
      value.isCompound = true ∧ value'.isCompound = true)
    (changed : Relation.EqvGen Harmless value value') :
    reader.value value = reader.value value' := by
  induction changed with
  | rel value value' harmless =>
    obtain ⟨compound, compound'⟩ := compound value value' harmless
    exact ignores.same compound compound' harmless
  | refl value => rfl
  | symm value value' _ ih => exact ih.symm
  | trans value between value' _ _ ih ih' => exact ih.trans ih'

end Reader

/-! ## Records -/

/-- The slot describes the field of a record with the given blank value. -/
structure Slot.Describes {α : Type} (blank : α) (slot : Slot) (field : Field α) : Prop where
  name : field.name = slot.name
  ignores : field.reader.Ignores slot.Harmless
  absent : slot.optional = true → field.required = false ∧
    ∃ change, field.reader.value .null = some change ∧ change blank = blank

namespace Slot

variable {α β : Type} {blank : α} {name : String} {Harmless : Phrase → Phrase → Prop}
  {reader : Reader β}

/-- A field that may not be `null`. -/
theorem describes_plain {required : Bool} {set : β → α → α} (ignores : reader.Ignores Harmless) :
    Describes blank ⟨name, false, Harmless⟩ ⟨name, required, reader.map set⟩ where
  name := rfl
  ignores := ignores.map set
  absent optional := nomatch optional

/-- A field that may be `null`, which is what it is in the blank record. -/
theorem describes_optional {set : Option β → α → α} (ignores : reader.Ignores Harmless)
    (absent : set none blank = blank := by rfl) :
    Describes blank ⟨name, true, Harmless⟩ ⟨name, false, (Reader.optional reader).map set⟩ where
  name := rfl
  ignores := ignores.optional.map set
  absent _ := by
    have means := (Means.optional ignores.steady).map set
    refine ⟨rfl, set none, ?_, absent⟩
    rw [means.value_eq]
    rfl

end Slot

namespace Record

variable {α : Type} {record : Record α} {slots : List Slot}

/-- The slots describe the fields of the record, which set different parts of it. -/
structure Fits (record : Record α) (slots : List Slot) : Prop where
  described : List.Forall₂ (Slot.Describes record.blank) slots record.fields
  distinct : (record.fields.map (·.name)).Nodup
  independent : record.Independent

/-! ### The order of members -/

section Order

variable {progress : Progress α} {letters : Letters} {name : String} {value : Phrase}
  {field : Field α} {change : α → α}

/-- A member makes the record fail, or is skipped, or gives a field that was not given before. -/
theorem advance_cases (record : Record α) (member : Letters × Phrase) :
    (∀ progress, record.advance progress member = none) ∨
    (∀ progress, record.advance progress member = some progress) ∨
    ∃ name field change, member.1.text? = some name ∧
      record.fields.find? (·.name == name) = some field ∧
      field.reader.value member.2 = some change ∧
      ∀ progress, record.advance progress member =
        if name ∈ progress.given then none
        else some ⟨insert name progress.given, change progress.value⟩ := by
  cases named : member.1.text? with
  | none =>
    refine Or.inl fun progress => ?_
    simp only [advance, named]
  | some name =>
    cases known : record.fields.find? (·.name == name) with
    | none =>
      refine Or.inr (Or.inl fun progress => ?_)
      simp only [advance, named, known]
    | some field =>
      cases read : field.reader.value member.2 with
      | none =>
        refine Or.inl fun progress => ?_
        simp only [advance, named, known, read, Option.map_none, ite_self]
      | some change =>
        refine Or.inr (Or.inr ⟨name, field, change, rfl, known, read, fun progress => ?_⟩)
        simp only [advance, named, known, read, Option.map_some]

theorem makes_of_value (meant : field.reader.value value = some change) : field.Makes change := by
  obtain ⟨found, read, rfl⟩ := Option.map_eq_some_iff.mp meant
  exact ⟨_, found.2, toOption_eq_some_iff.mp read⟩

/-- It does not matter which of two members comes first. -/
theorem step_comm (independent : record.Independent) (progress : Option (Progress α))
    (member other : Letters × Phrase) :
    record.step (record.step progress member) other =
      record.step (record.step progress other) member := by
  cases progress with
  | none => rfl
  | some progress =>
    simp only [step, Option.bind_some]
    rcases record.advance_cases member with
      fails | skips | ⟨name, field, change, _, known, read, gives⟩
    · simp [fails]
    · simp [skips]
    rcases record.advance_cases other with
      fails | skips | ⟨name', field', change', _, known', read', gives'⟩
    · simp [fails]
    · simp [skips]
    simp only [gives, gives']
    by_cases same : name = name'
    · -- The second one repeats the field.
      subst same
      by_cases given : name ∈ progress.given
      · simp [given]
      · simp [given]
    · have swapped := independent.commutes known known' same (makes_of_value read)
        (makes_of_value read') progress.value
      by_cases given : name ∈ progress.given
      · by_cases given' : name' ∈ progress.given
        · simp [given, given']
        · simp [given, given']
      · by_cases given' : name' ∈ progress.given
        · simp [given, given']
        · simp [given, given', same, Ne.symm same, swapped, Finset.insert_comm]

theorem outcome_perm (independent : record.Independent) {members others : List (Letters × Phrase)}
    (moved : members.Perm others) (progress : Option (Progress α)) :
    record.outcome progress members = record.outcome progress others := by
  rw [outcome, outcome, moved.foldl_eq' fun member _ other _ progress =>
    step_comm independent progress member other]

end Order

/-! ### The members themselves -/

section Members

variable {name : String} {slot : Slot} {letters : Letters} {value value' : Phrase}
  {before after members : List (Letters × Phrase)}

theorem Fits.names_eq (fits : record.Fits slots) :
    slots.map (·.name) = record.fields.map (·.name) := by
  rw [← List.forall₂_eq_eq_eq, List.forall₂_map_left_iff, List.forall₂_map_right_iff]
  exact fits.described.imp fun slot field describes => describes.name.symm

theorem Fits.find?_eq_none (fits : record.Fits slots) (unknown : ∀ slot ∈ slots, slot.name ≠ name) :
    record.fields.find? (·.name == name) = none := by
  rw [List.find?_eq_none]
  intro field inside named
  have listed : field.name ∈ slots.map (·.name) := by
    rw [fits.names_eq]
    exact List.mem_map_of_mem inside
  obtain ⟨slot, member, same⟩ := List.mem_map.mp listed
  exact unknown slot member (same.trans (eq_of_beq named))

theorem exists_of_forall₂ {β γ : Type*} {R : β → γ → Prop} {xs : List β} {ys : List γ}
    (each : List.Forall₂ R xs ys) {x : β} (member : x ∈ xs) : ∃ y ∈ ys, R x y := by
  induction each with
  | nil => cases member
  | cons related _ ih =>
    rcases List.mem_cons.mp member with rfl | later
    · exact ⟨_, List.mem_cons_self, related⟩
    · obtain ⟨y, inside, related⟩ := ih later
      exact ⟨y, List.mem_cons_of_mem _ inside, related⟩

/-- The field of a slot is found by its name, and no other field has that name. -/
theorem Fits.exists_find? (fits : record.Fits slots) (member : slot ∈ slots) :
    ∃ field, slot.Describes record.blank field ∧
      record.fields.find? (·.name == slot.name) = some field ∧
      ∀ other ∈ record.fields, other.name = slot.name → other = field := by
  obtain ⟨field, inside, describes⟩ := exists_of_forall₂ fits.described member
  have only : ∀ other ∈ record.fields, other.name = slot.name → other = field :=
    fun other inside' named =>
      List.inj_on_of_nodup_map fits.distinct inside' inside (named.trans describes.name.symm)
  refine ⟨field, describes, ?_, only⟩
  cases found : record.fields.find? (·.name == slot.name) with
  | none => exact absurd (beq_iff_eq.mpr describes.name) (List.find?_eq_none.mp found field inside)
  | some other =>
    have named : other.name = slot.name := by simpa using List.find?_some found
    rw [only other (List.mem_of_find?_eq_some found) named]

/-- Members that do not name a field do not depend on whether it was given. -/
theorem foldl_step_insert (record : Record α)
    (absent : ∀ member ∈ members, member.1.text? ≠ some name)
    (progress : Option (Progress α)) :
    members.foldl record.step (progress.map fun progress =>
        ⟨insert name progress.given, progress.value⟩) =
      (members.foldl record.step progress).map fun progress =>
        ⟨insert name progress.given, progress.value⟩ := by
  induction members generalizing progress with
  | nil => rfl
  | cons member members ih =>
    rw [List.forall_mem_cons] at absent
    rw [List.foldl_cons, List.foldl_cons, ← ih absent.2]
    congr 1
    cases progress with
    | none => rfl
    | some progress =>
      simp only [step, Option.bind_some, Option.map_some]
      rcases record.advance_cases member with
        fails | skips | ⟨other, field, change, named, _, _, gives⟩
      · simp [fails]
      · simp [skips]
      · have apart : other ≠ name := fun same => absent.1 (named.trans (congrArg some same))
        rw [gives, gives]
        by_cases given : other ∈ progress.given
        · simp [given]
        · simp [given, apart, Finset.insert_comm]

/-- An explicit `null` in front gives its field the value that it has anyway. -/
theorem Fits.outcome_absent (fits : record.Fits slots) (member : slot ∈ slots)
    (optional : slot.optional = true) (named : letters.text? = some slot.name)
    (absent : ∀ member ∈ members, member.1.text? ≠ some slot.name) :
    record.outcome (some ⟨∅, record.blank⟩) ((letters, .null) :: members) =
      record.outcome (some ⟨∅, record.blank⟩) members := by
  obtain ⟨field, describes, known, only⟩ := fits.exists_find? member
  obtain ⟨notRequired, change, read, same⟩ := describes.absent optional
  have stepped : record.step (some ⟨∅, record.blank⟩) (letters, .null) =
      some ⟨insert slot.name ∅, record.blank⟩ := by
    simp [step, advance, named, known, read, same]
  have inserted := foldl_step_insert record absent (some ⟨∅, record.blank⟩)
  have finished (progress : Progress α) :
      record.finish ⟨insert slot.name progress.given, progress.value⟩ =
        record.finish progress := by
    have complete : (∀ other ∈ record.fields, other.required = true →
          other.name ∈ insert slot.name progress.given) ↔
        ∀ other ∈ record.fields, other.required = true → other.name ∈ progress.given := by
      refine forall₂_congr fun other inside => forall_congr' fun required => ?_
      have apart : other.name ≠ slot.name := fun same => by
        rw [only other inside same, notRequired] at required
        cases required
      simp [apart]
    simp only [finish, complete]
  rw [outcome, List.foldl_cons, stepped, outcome]
  refine (congrArg (Option.bind · record.finish) inserted).trans ?_
  cases members.foldl record.step (some ⟨∅, record.blank⟩) with
  | none => rfl
  | some progress => exact finished progress

/-- An item of a list is read by the field at its place. -/
theorem arrayValue_item {blank : α} {fields : List (Field α)}
    (described : List.Forall₂ (Slot.Describes blank) slots fields)
    (compound : value.isCompound = true) (compound' : value'.isCompound = true)
    {items others : List Phrase}
    (harmless : ∀ slot ∈ slots[items.length]?, slot.Harmless value value') (start : α) :
    arrayValue fields start (items ++ value :: others) =
      arrayValue fields start (items ++ value' :: others) := by
  induction items generalizing slots fields start with
  | nil =>
    cases described with
    | nil => rfl
    | cons describes _ =>
      have same := describes.ignores.same compound compound' (harmless _ rfl)
      simp only [List.nil_append, arrayValue, same]
  | cons item items ih =>
    cases described with
    | nil => rfl
    | cons _ described =>
      simp only [List.cons_append, arrayValue]
      exact congrArg _ (funext fun change => ih described harmless (change start))

theorem Fits.steady (fits : record.Fits slots) : ∀ field ∈ record.fields, field.reader.Steady := by
  intro field inside
  obtain ⟨slot, -, describes⟩ := exists_of_forall₂ fits.described.flip inside
  exact describes.ignores.steady

theorem Fits.meaning_eq (fits : record.Fits slots) (changes : Rearranges slots value value') :
    record.meaning value = record.meaning value' := by
  cases changes with
  | permuted moved => exact outcome_perm fits.independent moved _
  | @unknown letters name members value named unknown =>
    have skipped : record.step (some ⟨∅, record.blank⟩) (letters, value) =
        some ⟨∅, record.blank⟩ := by
      simp only [step, Option.bind_some, advance, named, fits.find?_eq_none unknown]
    simp only [meaning, outcome, List.foldl_cons, skipped]
  | absent member optional named absent =>
    exact (fits.outcome_absent member optional named absent).symm
  | @within slot letters value value' before after member named compound compound' harmless =>
    obtain ⟨field, describes, known, -⟩ := fits.exists_find? member
    have same (progress : Option (Progress α)) :
        record.step progress (letters, value) = record.step progress (letters, value') := by
      cases progress with
      | none => rfl
      | some progress =>
        simp only [step, Option.bind_some, advance, named, known,
          describes.ignores.same compound compound' harmless]
    simp only [meaning, outcome, List.foldl_append, List.foldl_cons, same]
  | listed compound compound' harmless =>
    exact arrayValue_item fits.described compound compound' harmless record.blank

/-- **Rearranged objects.** A record does not tell an object from one in which it is rearranged. -/
theorem Fits.ignores (fits : record.Fits slots) : record.reader.Ignores (Rearranges slots) where
  steady := (Record.means fits.steady).steady
  same value value' _ _ changes := by
    rw [(Record.means fits.steady).value_eq, fits.meaning_eq changes]

end Members

end Record

end Petstore.Json
