import Mathlib.Data.Finset.Insert
import Petstore.Proofs.Json.Meanings

/-!
# What objects mean to records

A record goes through the members of an object from the first to the last. Each member either makes
the record fail, or is skipped, or gives one field (`Record.advance`), and in the end the required
fields have to be given (`Record.finish`). This is what a record means by an object
(`Record.means`), wherever the object is spelled.
-/

namespace Petstore.Json

open Scan Phrase Reader

variable {α : Type} {text rest s after start next : Bytes} {first : Bool}
  {parts : List (List Bytes)} {letters : Letters} {name : String}

/-! ## Members -/

/-- A name is scanned, or it cannot be scanned, whatever follows it. -/
theorem Letters.string_closed (letters : Letters) (rest : Bytes) :
    (letters.text? = none ∧ ∃ fault, Scan.string (letters.closed ++ rest) = .error fault) ∨
      ∃ name, letters.text? = some name ∧
        Scan.string (letters.closed ++ rest) = .ok (name, rest) := by
  have read := letters.toOption_string rest
  cases named : letters.text? with
  | none =>
    rw [named] at read
    cases scanned : Scan.string (letters.closed ++ rest) with
    | error fault => exact Or.inl ⟨rfl, fault, rfl⟩
    | ok found =>
      rw [scanned] at read
      cases read
  | some name =>
    rw [named, Option.map_some, toOption_eq_some_iff] at read
    exact Or.inr ⟨name, rfl, read⟩

namespace Record

theorem nextMember_closed (spaced : Spaced (separated Ascii.closeBrace first []) text)
    (rest : Bytes) : nextMember first (text ++ rest) = .ok (.close rest) := by
  obtain ⟨more, nothing, found⟩ := spaced.exists_skipBlanks (b := Ascii.closeBrace) rfl
  obtain rfl := nothing.eq_nil
  simp only [nextMember, found, if_true]
  rfl

/-- The name of the next member is found behind its quote, and its value behind the colon. -/
theorem exists_nextMember {tokens : List Bytes}
    (spaced : Spaced (separated Ascii.closeBrace first
      ((letters.bytes :: [Ascii.colon] :: tokens) :: parts)) text) :
    ∃ behind start, Spaced (tokens ++ separated Ascii.closeBrace false parts) start ∧
      ∀ rest, nextMember first (text ++ rest) = .ok (.item (letters.closed ++ (behind ++ rest))) ∧
        Skip.colon (behind ++ rest) = .ok (start ++ rest) := by
  have notClose : Ascii.quote ≠ Ascii.closeBrace := by decide
  have commaNotClose : Ascii.comma ≠ Ascii.closeBrace := by decide
  cases first with
  | true =>
    obtain ⟨behind, spaced, found⟩ := spaced.exists_skipBlanks (b := Ascii.quote) rfl
    obtain ⟨start, spaced, coloned⟩ := spaced.exists_colon
    refine ⟨behind, start, spaced, fun rest => ⟨?_, coloned rest⟩⟩
    simp only [nextMember, found, if_neg notClose, if_true]
  | false =>
    obtain ⟨more, spaced, comma⟩ := spaced.exists_skipBlanks (b := Ascii.comma) rfl
    obtain ⟨behind, spaced, found⟩ := spaced.exists_skipBlanks (b := Ascii.quote) rfl
    obtain ⟨start, spaced, coloned⟩ := spaced.exists_colon
    refine ⟨behind, start, spaced, fun rest => ⟨?_, coloned rest⟩⟩
    simp only [nextMember, comma, if_neg commaNotClose, Bool.false_eq_true, if_false, if_true,
      List.nil_append, found]

end Record

/-! ## Variants -/

namespace Reader

/-- The variant that the letters name. -/
def variantOf? (variants : List (String × α)) (letters : Letters) : Option α :=
  letters.text?.bind fun name => variants.lookup name

/-- A variant is given by its name, or by an object whose one member has that name and the value
`null`. -/
def variantValue (variants : List (String × α)) : Phrase → Option α
  | .string letters => variantOf? variants letters
  | .object [(letters, .null)] => variantOf? variants letters
  | _ => none

theorem toOption_variantNamed (variants : List (String × α)) (name : String) (rest : Bytes) :
    (variantNamed variants name rest).toOption = (variants.lookup name).map (·, rest) := by
  rw [variantNamed]
  cases variants.lookup name with
  | none => rfl
  | some a => rfl

/-- Only `null`, and no further member, stands for a variant. -/
theorem unitMember_null {members : List (Letters × Phrase)}
    (spaced : Spaced (Phrase.null.tokens ++ separated Ascii.closeBrace false
      (memberTokens members)) text) (rest : Bytes) :
    (unitMember (text ++ rest)).toOption = if members = [] then some rest else none := by
  rw [Phrase.tokens] at spaced
  obtain ⟨more, spaced, found⟩ := spaced.exists_skipBlanks rfl
  simp only [unitMember, found, if_true, literal_append]
  cases members with
  | nil =>
    obtain ⟨last, nothing, closed⟩ := spaced.exists_skipBlanks (b := Ascii.closeBrace) rfl
    obtain rfl := nothing.eq_nil
    simp only [closed, if_true]
    rfl
  | cons member members =>
    have notClose : Ascii.comma ≠ Ascii.closeBrace := by decide
    obtain ⟨last, others, comma⟩ := spaced.exists_skipBlanks (b := Ascii.comma) rfl
    simp only [comma, if_neg notClose, reduceCtorEq, if_false]
    rfl

theorem unitMember_present {phrase : Phrase} {tokens : List Bytes} (present : phrase ≠ .null)
    (spaced : Spaced (phrase.tokens ++ tokens) text) (rest : Bytes) :
    (unitMember (text ++ rest)).toOption = none := by
  obtain ⟨b, token, others, split, begun⟩ := phrase.exists_tokens_eq_cons
  rw [split, List.cons_append] at spaced
  obtain ⟨more, spaced, found⟩ := spaced.exists_skipBlanks (of_begins begun).1
  simp only [unitMember, found, if_neg (ne_letterN_of_tokens split present)]
  rfl

theorem variantValue_of_other {variants : List (String × α)} {members : List (Letters × Phrase)}
    (other : ∀ letters, members ≠ [(letters, .null)]) :
    variantValue variants (.object members) = none := by
  unfold variantValue
  split
  · next same => cases same
  · next letters same =>
    cases same
    exact absurd rfl (other letters)
  · rfl

theorem toOption_variantObject (variants : List (String × α))
    (members : List (Letters × Phrase))
    (spaced : Spaced (separated Ascii.closeBrace true (memberTokens members)) text)
    (rest : Bytes) :
    (variantObject variants (text ++ rest)).toOption =
      (variantValue variants (.object members)).map (·, rest) := by
  cases members with
  | nil =>
    obtain ⟨more, nothing, found⟩ := spaced.exists_skipBlanks (b := Ascii.closeBrace) rfl
    simp only [variantObject, found]
    rfl
  | cons member members =>
    obtain ⟨letters, phrase⟩ := member
    rw [memberTokens, separated] at spaced
    obtain ⟨behind, spaced, found⟩ := spaced.exists_skipBlanks (b := Ascii.quote) rfl
    obtain ⟨start, spaced, coloned⟩ := spaced.exists_colon
    have read : (variantObject variants (text ++ rest)).toOption =
        (variantOf? variants letters).bind fun a =>
          (unitMember (start ++ rest)).toOption.map (a, ·) := by
      simp only [variantObject, found, if_true]
      rcases letters.string_closed (behind ++ rest) with
        ⟨unnamed, fault, failed⟩ | ⟨name, named, scanned⟩
      · rw [failed, variantOf?, unnamed]
        rfl
      · simp only [scanned, variantOf?, named, Option.bind_some, variantNamed]
        cases variants.lookup name with
        | none => rfl
        | some a =>
          simp only [coloned]
          cases unitMember (start ++ rest) with
          | error fault => rfl
          | ok after => rfl
    by_cases absent : phrase = .null
    · subst absent
      rw [read, unitMember_null spaced]
      cases members with
      | nil =>
        simp only [if_true, Option.map_some]
        exact Option.map_eq_bind.symm
      | cons member members =>
        rw [variantValue_of_other (by simp)]
        simp
    · rw [read, unitMember_present absent spaced, variantValue_of_other]
      · simp
      · rintro name same
        cases same
        exact absent rfl

theorem means_choice (variants : List (String × α)) :
    (choice variants).Means (variantValue variants) := by
  refine means_of_byFirst rfl fun phrase b token tokens split more spaced rest ended => ?_
  cases phrase with
  | string letters =>
    rw [Phrase.tokens, Letters.bytes] at split
    cases split
    obtain rfl := spaced.eq_nil
    rw [if_pos rfl, List.nil_append]
    rcases letters.string_closed rest with ⟨unnamed, fault, failed⟩ | ⟨name, named, scanned⟩
    · rw [failed, variantValue, variantOf?, unnamed]
      rfl
    · rw [scanned, variantValue, variantOf?, named]
      exact toOption_variantNamed variants name rest
  | object members =>
    rw [Phrase.tokens] at split
    cases split
    exact toOption_variantObject variants members spaced rest
  | number numeral =>
    obtain ⟨-, -, notQuote, -, notBrace⟩ := numeral_first split
    rw [if_neg notQuote, if_neg notBrace]
    rfl
  | boolean truth =>
    cases truth <;> (rw [Phrase.tokens] at split; cases split; rfl)
  | null | array =>
    rw [Phrase.tokens] at split
    cases split
    rfl

end Reader

/-! ## Records -/

namespace Record

/-- What the members of an object made of a record so far: the names of the fields that they gave,
and the value. -/
structure Progress (α : Type) where
  given : Finset String
  value : α

variable (record : Record α)

/-- One more member. It makes the record fail if its name is no text, if the field of its name was
given before, or if that field cannot read it. It is skipped if no field has its name. -/
def advance (progress : Progress α) (member : Letters × Phrase) : Option (Progress α) :=
  match member.1.text? with
  | none => none
  | some name =>
    match record.fields.find? (·.name == name) with
    | none => some progress
    | some field =>
      if name ∈ progress.given then none
      else (field.reader.value member.2).map fun change =>
        ⟨insert name progress.given, change progress.value⟩

/-- One more member, unless the record failed before. -/
def step (progress : Option (Progress α)) (member : Letters × Phrase) : Option (Progress α) :=
  progress.bind (record.advance · member)

/-- The value in the end, if all required fields were given. -/
def finish (progress : Progress α) : Option α :=
  if ∀ field ∈ record.fields, field.required = true → field.name ∈ progress.given then
    some progress.value
  else none

/-- What the record makes of the members from one of its turns on. -/
def outcome (progress : Option (Progress α)) (members : List (Letters × Phrase)) : Option α :=
  (members.foldl record.step progress).bind record.finish

/-- The values of the remaining fields, in order. The list may end where no required field is
left. -/
def arrayValue : List (Field α) → α → List Phrase → Option α
  | [], value, [] => some value
  | [], _, _ :: _ => none
  | field :: fields, value, [] =>
    if (field :: fields).any (·.required) then none else some value
  | field :: fields, value, item :: items =>
    (field.reader.value item).bind fun change => arrayValue fields (change value) items

/-- What a phrase means to the record. -/
def meaning : Phrase → Option α
  | .array items => arrayValue record.fields record.blank items
  | .object members => record.outcome (some ⟨∅, record.blank⟩) members
  | _ => none

/-! ## From an object -/

section Members

variable {record} {seen : List String} {value : α} {field : Field α} {fault : Fault}

theorem outcome_none (members : List (Letters × Phrase)) : record.outcome none members = none := by
  have failed : members.foldl record.step none = none := by
    induction members with
    | nil => rfl
    | cons member members ih => exact ih
  rw [outcome, failed]
  rfl

theorem missing?_eq_none_iff : record.missing? seen = none ↔
    ∀ field ∈ record.fields, field.required = true → field.name ∈ seen.toFinset := by
  simp [missing?, List.find?_eq_none]

theorem toOption_members_of_close (found : nextMember first s = .ok (.close rest)) :
    (record.members first seen value s).toOption =
      (record.finish ⟨seen.toFinset, value⟩).map (·, rest) := by
  rw [finish]
  cases missing : record.missing? seen with
  | none =>
    rw [members_of_close found missing, if_pos (missing?_eq_none_iff.mp missing)]
    rfl
  | some name =>
    have incomplete := mt missing?_eq_none_iff.mpr (by rw [missing]; exact Option.some_ne_none name)
    rw [if_neg incomplete, Record.members]
    split
    · rfl
    · next found' =>
      cases found.symm.trans found'
      simp only [missing]
      rfl
    · next found' => cases found.symm.trans found'

theorem members_of_unnamed (found : nextMember first s = .ok (.item rest))
    (failed : Scan.string rest = .error fault) :
    (record.members first seen value s).toOption = none := by
  rw [Record.members]
  split
  · rfl
  · next found' => cases found.symm.trans found'
  · next found' =>
    cases found.symm.trans found'
    split
    · rfl
    · next scanned => cases failed.symm.trans scanned

theorem members_of_unknown (found : nextMember first s = .ok (.item rest))
    (scanned : Scan.string rest = .ok (name, after))
    (unknown : record.fields.find? (·.name == name) = none)
    (coloned : Skip.colon after = .ok start) (skipped : Skip.value start = .ok next) :
    record.members first seen value s = record.members false seen value next := by
  rw [Record.members]
  split
  · next failed => cases found.symm.trans failed
  · next found' => cases found.symm.trans found'
  · next found' =>
    cases found.symm.trans found'
    split
    · next failed => cases scanned.symm.trans failed
    · next scanned' =>
      cases scanned.symm.trans scanned'
      split
      · split
        · next failed => cases coloned.symm.trans failed
        · next coloned' =>
          cases coloned.symm.trans coloned'
          split
          · next failed => cases skipped.symm.trans failed
          · next skipped' => cases skipped.symm.trans skipped'; rfl
      · next known => cases unknown.symm.trans known

theorem members_of_unread (found : nextMember first s = .ok (.item rest))
    (scanned : Scan.string rest = .ok (name, after))
    (known : record.fields.find? (·.name == name) = some field)
    (coloned : Skip.colon after = .ok start)
    (failed : name ∈ seen ∨ (field.reader.read start).toOption = none) :
    (record.members first seen value s).toOption = none := by
  rw [Record.members]
  split
  · rfl
  · next found' => cases found.symm.trans found'
  · next found' =>
    cases found.symm.trans found'
    split
    · rfl
    · next scanned' =>
      cases scanned.symm.trans scanned'
      split
      · next unknown => cases known.symm.trans unknown
      · next known' =>
        cases known.symm.trans known'
        split
        · rfl
        · next fresh =>
          have failed := failed.resolve_left fun taken => fresh (List.contains_iff_mem.mpr taken)
          split
          · rfl
          · next coloned' =>
            cases coloned.symm.trans coloned'
            split
            · rfl
            · next read =>
              rw [read] at failed
              cases failed

/-- The members of an object are gone through as they are spelled. -/
theorem toOption_members (steady : ∀ field ∈ record.fields, field.reader.Steady)
    (members : List (Letters × Phrase)) (first : Bool) (seen : List String) (value : α)
    (spaced : Spaced (separated Ascii.closeBrace first (memberTokens members)) text)
    (rest : Bytes) :
    (record.members first seen value (text ++ rest)).toOption =
      (record.outcome (some ⟨seen.toFinset, value⟩) members).map (·, rest) := by
  induction members generalizing first seen value text with
  | nil => exact toOption_members_of_close (nextMember_closed spaced rest)
  | cons member members ih =>
    obtain ⟨letters, phrase⟩ := member
    rw [memberTokens] at spaced
    obtain ⟨behind, start, spaced, member⟩ := exists_nextMember spaced
    obtain ⟨found, coloned⟩ := member rest
    obtain ⟨front, back, rfl, spelled, others⟩ := spaced.exists_of_append
    have ended := others.ended_separated (Or.inr rfl) rest
    rw [List.append_assoc] at coloned
    have advanced : record.outcome (some ⟨seen.toFinset, value⟩) ((letters, phrase) :: members) =
        record.outcome (record.advance ⟨seen.toFinset, value⟩ (letters, phrase)) members := rfl
    rw [advanced, advance]
    dsimp only
    rcases letters.string_closed (behind ++ rest) with
      ⟨unnamed, fault, failed⟩ | ⟨name, named, scanned⟩
    · rw [members_of_unnamed found failed, unnamed, outcome_none]
      rfl
    rw [named]
    dsimp only
    cases known : record.fields.find? (·.name == name) with
    | none =>
      rw [members_of_unknown found scanned known coloned (phrase.skip_value spelled ended)]
      exact ih false seen value others
    | some field =>
      have read := steady field (List.mem_of_find?_eq_some known) phrase spelled ended
      dsimp only
      by_cases repeated : name ∈ seen
      · rw [members_of_unread found scanned known coloned (Or.inl repeated),
          if_pos (List.mem_toFinset.mpr repeated), outcome_none]
        rfl
      rw [if_neg (mt List.mem_toFinset.mp repeated)]
      cases meant : field.reader.value phrase with
      | none =>
        rw [meant] at read
        rw [members_of_unread found scanned known coloned (Or.inr read), Option.map_none,
          outcome_none]
        rfl
      | some change =>
        rw [meant, Option.map_some, toOption_eq_some_iff] at read
        rw [members_of_item found scanned known repeated coloned read, ih false _ _ others,
          List.toFinset_cons]
        rfl

end Members

/-! ## From a list -/

section Values

variable {record}

theorem listEnd_spaced (items : List Phrase)
    (spaced : Spaced (separated Ascii.closeBracket first (itemTokens items)) text)
    (rest : Bytes) :
    (listEnd (text ++ rest)).toOption = if items = [] then some rest else none := by
  cases items with
  | nil =>
    obtain ⟨more, nothing, found⟩ := spaced.exists_skipBlanks (b := Ascii.closeBracket) rfl
    obtain rfl := nothing.eq_nil
    simp only [listEnd, found, if_true]
    rfl
  | cons item items =>
    have failed {b : UInt8} {behind : Bytes} (found : skipBlanks (text ++ rest) = b :: behind)
        (notClose : b ≠ Ascii.closeBracket) : (listEnd (text ++ rest)).toOption = none := by
      simp only [listEnd, found, if_neg notClose]
      split
      · split
        · rfl
        · rfl
      · rfl
    rw [if_neg (List.cons_ne_nil item items)]
    cases first with
    | true =>
      obtain ⟨b, token, tokens, split, begun⟩ := item.exists_tokens_eq_cons
      obtain ⟨visible, notClose⟩ := of_begins begun
      rw [itemTokens, separated, split, List.cons_append] at spaced
      obtain ⟨more, others, found⟩ := spaced.exists_skipBlanks visible
      exact failed (found rest) notClose
    | false =>
      obtain ⟨more, others, found⟩ := spaced.exists_skipBlanks (b := Ascii.comma) rfl
      exact failed (found rest) (by decide)

/-- The items of a list are gone through as they are spelled. -/
theorem toOption_values {fields : List (Field α)}
    (steady : ∀ field ∈ fields, field.reader.Steady) (items : List Phrase) (index : Nat)
    (value : α)
    (spaced : Spaced (separated Ascii.closeBracket (index == 0) (itemTokens items)) text)
    (rest : Bytes) :
    (record.values fields index value (text ++ rest)).toOption =
      (arrayValue fields value items).map (·, rest) := by
  induction fields generalizing index value items text with
  | nil =>
    have ended := listEnd_spaced items spaced rest
    rw [values]
    cases items with
    | nil =>
      rw [if_pos rfl, toOption_eq_some_iff] at ended
      rw [ended]
      rfl
    | cons item items =>
      rw [if_neg (List.cons_ne_nil item items)] at ended
      cases found : listEnd (text ++ rest) with
      | error fault => rfl
      | ok after =>
        rw [found] at ended
        cases ended
  | cons field fields ih =>
    rw [List.forall_mem_cons] at steady
    cases items with
    | nil =>
      rw [values, nextElement_closed spaced rest, arrayValue]
      dsimp only
      cases least : (field :: fields).findIdx? (·.required) with
      | none =>
        have optional : (field :: fields).any (·.required) = false := by
          simpa using List.findIdx?_eq_none_iff.mp least
        simp only [optional, Bool.false_eq_true, if_false]
        rfl
      | some i =>
        have needed : (field :: fields).any (·.required) = true := by
          rw [← List.findIdx?_isSome, least]
          rfl
        simp only [needed, if_true]
        rfl
    | cons item items =>
      rw [itemTokens] at spaced
      obtain ⟨more, spaced, found⟩ := exists_nextElement spaced
      obtain ⟨front, back, rfl, spelled, others⟩ := spaced.exists_of_append
      have read := steady.1 item spelled (others.ended_separated (Or.inl rfl) rest)
      rw [← List.append_assoc] at read
      rw [values, found rest, arrayValue]
      dsimp only
      cases meant : field.reader.value item with
      | none =>
        rw [meant] at read
        cases scanned : field.reader.read (front ++ back ++ rest) with
        | error fault => rfl
        | ok result =>
          rw [scanned] at read
          cases read
      | some change =>
        rw [meant, Option.map_some, toOption_eq_some_iff] at read
        rw [read]
        exact ih steady.2 items (index + 1) (change value) others

end Values

/-! ## Either way -/

/-- **Records.** A record means the same by a phrase wherever it is spelled, if each of its fields
does. -/
theorem means {record : Record α} (steady : ∀ field ∈ record.fields, field.reader.Steady) :
    record.reader.Means record.meaning := by
  have notBracket : Ascii.openBrace ≠ Ascii.openBracket := by decide
  refine means_of_byFirst rfl fun phrase b token tokens split more spaced rest ended => ?_
  cases phrase with
  | array items =>
    rw [Phrase.tokens] at split
    cases split
    rw [if_pos rfl]
    exact toOption_values steady items 0 record.blank spaced rest
  | object members =>
    rw [Phrase.tokens] at split
    cases split
    rw [if_neg notBracket, if_pos rfl]
    exact toOption_members steady members true [] record.blank spaced rest
  | number numeral =>
    obtain ⟨-, -, -, notBracket, notBrace⟩ := numeral_first split
    rw [if_neg notBracket, if_neg notBrace]
    rfl
  | boolean truth =>
    cases truth <;> (rw [Phrase.tokens] at split; cases split; rfl)
  | null | string =>
    rw [Phrase.tokens] at split
    cases split
    rfl

end Record

end Petstore.Json
