import Petstore.Json.Reader

/-!
# Records

A record is described by its fields in declaration order. It is read from an object, whose members
may come in any order, or from a list of the field values in declaration order. Unknown members are
skipped; a known member may not be repeated; absent fields keep the value they have in `blank`,
unless they are required.
-/

namespace Petstore.Json

open Scan

/-- One field of a record: its name, whether it has to be given, and a reader that yields the change
it makes. -/
structure Field (α : Type) where
  name : String
  required : Bool
  reader : Reader (α → α)

/-- A record type: its name, its fields in declaration order, and the value with no field given. -/
structure Record (α : Type) where
  name : String
  fields : List (Field α)
  blank : α

namespace Field

/-- A field whose absence leaves the blank value. -/
def plain (name : String) (reader : Reader β) (set : β → α → α) : Field α :=
  ⟨name, false, reader.map set⟩

/-- A field that has to be given. -/
def mandatory (name : String) (reader : Reader β) (set : β → α → α) : Field α :=
  ⟨name, true, reader.map set⟩

end Field

namespace Record

/-- How faults name the record. -/
def title (record : Record α) : String :=
  s!"struct {record.name}"

/-! ## From an object -/

open Reader (Next)

/-- The next member of an object; the rest begins after the opening quote of its name. -/
def nextMember (first : Bool) (s : Bytes) : Except Fault Next :=
  match skipBlanks s with
  | [] => .error (.here .unfinishedObject [])
  | b :: rest =>
    if b = Ascii.closeBrace then .ok (.close rest)
    else if first then
      if b = Ascii.quote then .ok (.item rest) else .error (.past .keyNotString (b :: rest))
    else if b = Ascii.comma then
      match skipBlanks rest with
      | [] => .error (.here .unfinishedValue [])
      | c :: more =>
        if c = Ascii.quote then .ok (.item more)
        else if c = Ascii.closeBrace then .error (.past .trailingComma (c :: more))
        else .error (.past .keyNotString (c :: more))
    else .error (.past .expectedObjectEnd (b :: rest))

theorem length_nextMember_lt {first : Bool} {s : Bytes} {next : Next}
    (h : nextMember first s = .ok next) : next.rest.length < s.length := by
  simp only [nextMember] at h
  split at h
  · simp at h
  · next b rest blanks =>
    have shorter := length_lt_of_skipBlanks_eq_cons blanks
    repeat' split at h
    all_goals simp only [reduceCtorEq, Except.ok.injEq] at h
    · exact h ▸ shorter
    · exact h ▸ shorter
    · next c more blanks' _ =>
      have := length_lt_of_skipBlanks_eq_cons blanks'
      subst h
      simp only [Next.rest]
      omega

/-- Where a fault that concerns the whole object is noticed: after its closing brace if that comes
next. -/
def closing (s : Bytes) : Bytes :=
  match skipBlanks s with
  | [] => []
  | b :: rest => if b = Ascii.closeBrace then rest else b :: rest

/-- The first required field whose name is not among `seen`. -/
def missing? (record : Record α) (seen : List String) : Option String :=
  (record.fields.find? fun field => field.required && !seen.contains field.name).map (·.name)

/-- The members of an object from one of its turns on; `seen` holds the names of the fields given
so far, and `value` what they made of the record. -/
def members (record : Record α) (first : Bool) (seen : List String) (value : α) (s : Bytes) :
    Scanned α :=
  match _h : nextMember first s with
  | .error fault => .error fault
  | .ok (.close rest) =>
    match record.missing? seen with
    | some name => .error (.here (.missingField name) rest)
    | none => .ok (value, rest)
  | .ok (.item rest) =>
    match _hn : Scan.string rest with
    | .error fault => .error fault
    | .ok (name, after) =>
      match record.fields.find? (·.name == name) with
      | none =>
        match _hc : Skip.colon after with
        | .error fault => .error fault
        | .ok start =>
          match _hv : Skip.value start with
          | .error fault => .error fault
          | .ok next => members record false seen value next
      | some field =>
        if seen.contains name then .error (.here (.duplicateField name) (closing after))
        else
          match _hc : Skip.colon after with
          | .error fault => .error fault
          | .ok start =>
            match _hv : field.reader.read start with
            | .error fault => .error fault
            | .ok (change, next) => members record false (name :: seen) (change value) next
termination_by s.length
decreasing_by
  · have found := length_nextMember_lt _h
    have := length_string_lt _hn
    have := Skip.length_colon_lt _hc
    have := Skip.length_value_lt _hv
    simp only [Next.rest] at found
    omega
  · have found := length_nextMember_lt _h
    have := length_string_lt _hn
    have := Skip.length_colon_lt _hc
    have := field.reader.shrinks _hv
    simp only [Next.rest] at found
    omega

theorem length_members_le {record : Record α} {first : Bool} {seen : List String} {value a : α}
    {s r : Bytes} (h : members record first seen value s = .ok (a, r)) : r.length ≤ s.length := by
  fun_induction members record first seen value s with
  | case3 first seen value s rest found _ =>
    have := length_nextMember_lt found
    simp only [Except.ok.injEq, Prod.mk.injEq] at h
    simp only [Next.rest, ← h.2] at *
    omega
  | case7 first seen value s rest found name after scanned _ start coloned next skipped ih =>
    have := length_nextMember_lt found
    have := length_string_lt scanned
    have := Skip.length_colon_lt coloned
    have := Skip.length_value_lt skipped
    have := ih h
    simp only [Next.rest] at *
    omega
  | case11 first seen value s rest found name after scanned field _ _ start coloned change next
      valued ih =>
    have := length_nextMember_lt found
    have := length_string_lt scanned
    have := Skip.length_colon_lt coloned
    have := field.reader.shrinks valued
    have := ih h
    simp only [Next.rest] at *
    omega
  | _ => simp at h

/-! ## From a list -/

/-- The end of a list after all fields were given. -/
def listEnd (s : Bytes) : Except Fault Bytes :=
  match skipBlanks s with
  | [] => .error (.here .unfinishedList [])
  | b :: rest =>
    if b = Ascii.closeBracket then .ok rest
    else if b = Ascii.comma then
      let more := skipBlanks rest
      if more.head? = some Ascii.closeBracket then .error (.past .trailingComma more)
      else .error (.past .trailingCharacters more)
    else .error (.past .trailingCharacters (b :: rest))

theorem length_listEnd_le {s r : Bytes} (h : listEnd s = .ok r) : r.length ≤ s.length := by
  simp only [listEnd] at h
  repeat' split at h
  all_goals try simp at h
  next b rest blanks _ =>
    exact Nat.le_of_lt (h ▸ length_lt_of_skipBlanks_eq_cons blanks)

/-- The values of the remaining fields, in order. A list that ends early has the length of the
fields before the first required one that is left, as far as the fault tells. -/
def values (record : Record α) : List (Field α) → Nat → α → Bytes → Scanned α
  | [], _, value, s =>
    match listEnd s with
    | .error fault => .error fault
    | .ok rest => .ok (value, rest)
  | field :: fields, index, value, s =>
    match Reader.nextElement (index == 0) s with
    | .error fault => .error fault
    | .ok (.close rest) =>
      match (field :: fields).findIdx? (·.required) with
      | none => .ok (value, rest)
      | some i =>
        let expected := s!"{record.title} with {record.fields.length} elements"
        .error (.here (.invalidLength (index + i) expected) rest)
    | .ok (.item rest) =>
      match field.reader.read rest with
      | .error fault => .error fault
      | .ok (change, next) => values record fields (index + 1) (change value) next

theorem length_values_le {record : Record α} {fields : List (Field α)} {index : Nat} {value a : α}
    {s r : Bytes} (h : values record fields index value s = .ok (a, r)) :
    r.length ≤ s.length := by
  induction fields generalizing index value s with
  | nil =>
    simp only [values] at h
    split at h
    · simp at h
    · next ended =>
      simp only [Except.ok.injEq, Prod.mk.injEq] at h
      exact h.2 ▸ length_listEnd_le ended
  | cons field fields ih =>
    simp only [values] at h
    split at h
    · simp at h
    · next rest found =>
      have := Reader.length_nextElement_le found
      split at h
      · simp_all [Next.rest]
      · simp at h
    · next rest found =>
      have := Reader.length_nextElement_le found
      split at h
      · simp at h
      · next change next scanned =>
        have := field.reader.shrinks scanned
        have := ih h
        simp only [Next.rest] at *
        omega

/-! ## Either way -/

/-- A record, from an object or from a list. -/
def reader (record : Record α) : Reader α :=
  Reader.byFirst
    (fun b rest =>
      if b = Ascii.openBracket then record.values record.fields 0 record.blank rest
      else if b = Ascii.openBrace then record.members true [] record.blank rest
      else .error (Reader.mismatch record.title b rest))
    (by
      intro b rest r a h
      repeat' split at h
      · exact length_values_le h
      · exact length_members_le h
      · simp at h)

end Record

end Petstore.Json
