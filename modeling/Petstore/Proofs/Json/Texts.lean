import Petstore.Json.Scan
import Petstore.Proofs.Text.Utf8

/-!
# Texts of JSON values

The bytes of a JSON value by its kind: a string between quotes, a number as its digits, and the
parts of a list or an object between commas (`Json.bytes_array`, `Json.bytes_object`). What stands
first in the text tells what comes (`Json.Opens`).
-/

namespace Petstore

namespace Json

/-! ## Parts between commas -/

/-- The parts of a list or an object from one of its turns on, between commas, and the byte that
closes it. At the first turn no comma comes before them. -/
def enclosed (close : UInt8) : Bool → List Bytes → Bytes
  | _, [] => [close]
  | true, part :: parts => part ++ enclosed close false parts
  | false, part :: parts => Ascii.comma :: (part ++ enclosed close false parts)

theorem encodeChars_intercalate {close : Char} (ascii : close.toNat < 128)
    (parts : List (List Char)) :
    Utf8.encodeChars ([','].intercalate parts ++ [close]) =
      enclosed (UInt8.ofNat close.toNat) true (parts.map Utf8.encodeChars) := by
  have closing : Utf8.encodeChars [close] = [UInt8.ofNat close.toNat] :=
    Utf8.encodeChars_of_ascii (List.forall_mem_singleton.mpr ascii)
  have comma : Utf8.encodeChars [','] = [Ascii.comma] := rfl
  cases parts with
  | nil => exact closing
  | cons part parts =>
    rw [List.map_cons, enclosed]
    induction parts generalizing part with
    | nil =>
      rw [List.intercalate_singleton, Utf8.encodeChars_append, closing]
      rfl
    | cons next parts ih =>
      rw [List.intercalate_cons_cons, List.append_assoc, List.append_assoc,
        Utf8.encodeChars_append, Utf8.encodeChars_append, comma, ih, List.map_cons, enclosed]
      rfl

/-! ## Values by their kind -/

/-- A string behind its opening quote. -/
def quotedTail (text : String) : Bytes :=
  Utf8.encodeChars (text.toList.flatMap escapeChar) ++ [Ascii.quote]

theorem encodeChars_stringChars (text : String) :
    Utf8.encodeChars (stringChars text) = Ascii.quote :: quotedTail text := by
  have quote : Utf8.encodeChars ['"'] = [Ascii.quote] := rfl
  rw [stringChars, Utf8.encodeChars_cons, Utf8.encodeChars_append, quote]
  rfl

theorem bytes_string (text : String) : (string text).bytes = Ascii.quote :: quotedTail text :=
  encodeChars_stringChars text

/-- The text of a member of an object. -/
def memberBytes (member : String × Json) : Bytes :=
  Ascii.quote :: (quotedTail member.1 ++ Ascii.colon :: member.2.bytes)

theorem itemChars_eq_map (items : List Json) : itemChars items = items.map chars := by
  induction items with
  | nil => rfl
  | cons item items ih => rw [itemChars, ih, List.map_cons]

theorem bytes_array (items : List Json) :
    (array items).bytes =
      Ascii.openBracket :: enclosed Ascii.closeBracket true (items.map bytes) := by
  have inner := encodeChars_intercalate (by decide : ']'.toNat < 128) (items.map chars)
  rw [bytes, chars, itemChars_eq_map, Utf8.encodeChars_cons, inner, List.map_map]
  rfl

theorem map_memberChars (members : List (String × Json)) :
    (memberChars members).map Utf8.encodeChars = members.map memberBytes := by
  induction members with
  | nil => rfl
  | cons member members ih =>
    have colon : String.utf8EncodeChar ':' = [Ascii.colon] := rfl
    rw [memberChars, List.map_cons, ih, List.map_cons, Utf8.encodeChars_append,
      Utf8.encodeChars_cons, encodeChars_stringChars, colon]
    rfl

theorem bytes_object (members : List (String × Json)) :
    (object members).bytes =
      Ascii.openBrace :: enclosed Ascii.closeBrace true (members.map memberBytes) := by
  have inner := encodeChars_intercalate (by decide : '}'.toNat < 128) (memberChars members)
  rw [bytes, chars, Utf8.encodeChars_cons, inner, map_memberChars]
  rfl

/-! ## The first byte -/

/-- The byte begins a value, and not `null`. -/
def isOpening (b : UInt8) : Bool :=
  b == Ascii.quote || b == Ascii.minus || Ascii.isDigit b || b == Ascii.openBracket ||
    b == Ascii.openBrace || b == Ascii.letterT || b == Ascii.letterF

/-- The text of the value begins the way values other than `null` do. -/
def Opens (json : Json) : Prop :=
  ∃ b rest, json.bytes = b :: rest ∧ isOpening b = true

theorem opens_string (text : String) : (string text).Opens :=
  ⟨_, _, bytes_string text, rfl⟩

theorem opens_array (items : List Json) : (array items).Opens :=
  ⟨_, _, bytes_array items, rfl⟩

theorem opens_object (members : List (String × Json)) : (object members).Opens :=
  ⟨_, _, bytes_object members, rfl⟩

theorem opens_boolean (b : Bool) : (boolean b).Opens := by
  cases b with
  | true => exact ⟨_, _, rfl, rfl⟩
  | false => exact ⟨_, _, rfl, rfl⟩

end Json

end Petstore
