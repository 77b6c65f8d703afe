import Mathlib.Data.List.Forall2
import Petstore.Proofs.Text.Percent
import Petstore.Text.Ascii
import Petstore.Text.Blank
import Petstore.Text.Urlencoded

/-!
# Form-urlencoded texts

Pairs are decoded fragment by fragment (`pairs_join`), and a comma stands for itself whatever is
around it, even next to a broken escape or within an unfinished character, so decoding can be done
on either side of it (`decodePart_append_comma`). Decoding undoes encoding: the pairs of an encoded
list are the list itself, in its order (`pairs_of_encodesPairs`). Of the pairs of one name the first
one counts, or all of them do, each with the values that it lists (`values`).
-/

namespace Petstore

/-! ## Escapes around other bytes -/

namespace Percent

theorem hexPair?_eq_none {high low : UInt8}
    (neither : hexValue? high = none ∨ hexValue? low = none) : hexPair? high low = none := by
  unfold hexPair?
  rcases neither with none | none
  · rw [none]
    rfl
  · rw [none]
    cases hexValue? high <;> rfl

/-- A percent sign without two digits behind it stands for itself. -/
theorem decodeBytes_percent {bytes : Bytes}
    (lone : ∀ high low rest, bytes = high :: low :: rest → hexPair? high low = none) :
    decodeBytes (0x25 :: bytes) = 0x25 :: decodeBytes bytes := by
  match bytes with
  | [] => rfl
  | [b] => rfl
  | high :: low :: rest => rw [decodeBytes, lone high low rest rfl]

/-- A byte that no escape can have stands for itself, and ends what came before it. -/
theorem decodeBytes_append_cons {b : UInt8} (plain : b ≠ 0x25) (noDigit : hexValue? b = none)
    (front back : Bytes) :
    decodeBytes (front ++ b :: back) = decodeBytes front ++ b :: decodeBytes back := by
  fun_induction decodeBytes front with
  | case1 high low rest c pair ih =>
    simp only [List.cons_append, decodeBytes, pair, ih]
  | case2 high low rest none ih =>
    have lone : decodeBytes (0x25 :: (high :: low :: rest ++ b :: back)) =
        0x25 :: decodeBytes (high :: low :: rest ++ b :: back) := by
      refine decodeBytes_percent fun high' low' rest' same => ?_
      cases same
      exact none
    exact lone.trans (congrArg (0x25 :: ·) ih)
  | case3 c front other ih =>
    rw [List.cons_append, List.cons_append, ← ih]
    by_cases percent : c = 0x25
    · -- There are less than two bytes between the percent sign and the byte that ends it.
      subst percent
      refine decodeBytes_percent fun high low rest same => ?_
      rcases front with - | ⟨d, - | ⟨low, rest⟩⟩
      · obtain ⟨rfl, -⟩ := List.cons.inj same
        exact hexPair?_eq_none (Or.inl noDigit)
      · obtain ⟨-, same⟩ := List.cons.inj same
        obtain ⟨rfl, -⟩ := List.cons.inj same
        exact hexPair?_eq_none (Or.inr noDigit)
      · exact absurd rfl (other d low rest rfl)
    · exact decodeBytes_cons percent _
  | case4 => exact decodeBytes_cons plain back

end Percent

namespace Text

variable {α : Type} [DecidableEq α] {sep : α} {xs : List α}

theorem pieces_of_not_mem (absent : sep ∉ xs) : pieces sep xs = [xs] := by
  have joined := pieces_intercalate (List.cons_ne_nil xs []) (List.forall_mem_singleton.mpr absent)
  rwa [List.intercalate_singleton] at joined

theorem cut_append_cons (absent : sep ∉ xs) (ys : List α) :
    cut sep (xs ++ sep :: ys) = (xs, ys) := by
  have apart : ∀ x ∈ xs, decide (x ≠ sep) = true := fun x inside =>
    decide_eq_true (ne_of_mem_of_not_mem inside absent)
  rw [cut, List.takeWhile_append_of_pos apart, List.dropWhile_append_of_pos apart]
  simp

end Text

namespace Urlencoded

open Utf8 (encode encodeChars)

/-! ## Names and values -/

/-- The bytes with a space for each plus sign. -/
def spaced (bytes : Bytes) : Bytes :=
  bytes.map fun b => if b = 0x2B then 0x20 else b

theorem decodePart_eq (part : Bytes) :
    decodePart part = Utf8.decodeLossy (Percent.decodeBytes (spaced part)) := rfl

theorem spaced_append (front back : Bytes) : spaced (front ++ back) = spaced front ++ spaced back :=
  List.map_append

theorem spaced_of_not_mem {bytes : Bytes} (plain : 0x2B ∉ bytes) : spaced bytes = bytes := by
  have same : ∀ b ∈ bytes, (if b = 0x2B then 0x20 else b) = b := fun b inside =>
    if_neg (ne_of_mem_of_not_mem inside plain)
  rw [spaced, List.map_congr_left same, List.map_id']

/-- A comma is decoded by itself, whatever is around it. -/
theorem decodePart_append_comma (front back : Bytes) :
    decodePart (front ++ Ascii.comma :: back) = decodePart front ++ "," ++ decodePart back := by
  have cut : spaced (front ++ Ascii.comma :: back) =
      spaced front ++ Ascii.comma :: spaced back := spaced_append front _
  rw [decodePart_eq, cut, Percent.decodeBytes_append_cons (by decide) (by decide),
    ← String.toList_inj, Utf8.toList_decodeLossy_append_cons (by decide)]
  simp [decodePart_eq, show Char.ofNat Ascii.comma.toNat = ',' from rfl]

/-! ## Fragments -/

theorem encode_append (front back : String) :
    encode (front ++ back) = encode front ++ encode back := by
  rw [encode, String.toList_append, Utf8.encodeChars_append]
  rfl

theorem pairs_append (front back : String) :
    pairs (encode (front ++ "&" ++ back)) = pairs (encode front) ++ pairs (encode back) := by
  have cut : encode (front ++ "&" ++ back) = encode front ++ 0x26 :: encode back := by
    rw [encode_append, encode_append, List.append_assoc]
    rfl
  simp only [cut, pairs, Text.pieces_append_cons, List.filter_append, List.map_append]

/-- The pairs of a text are those of its fragments, one after the other. -/
theorem pairs_join (fragments : List String) :
    pairs (encode (Text.join "&" fragments)) =
      fragments.flatMap fun fragment => pairs (encode fragment) := by
  induction fragments with
  | nil => rfl
  | cons fragment fragments ih =>
    cases fragments with
    | nil => simp [Text.join]
    | cons next fragments =>
      rw [Text.join, String.intercalate_cons_cons, pairs_append, List.flatMap_cons]
      exact congrArg (_ ++ ·) ih

/-- A fragment is cut at its first equals sign. -/
theorem pairs_fragment {name value : String} (named : '=' ∉ name.toList)
    (single : '&' ∉ (name ++ "=" ++ value).toList) :
    pairs (encode (name ++ "=" ++ value)) =
      [(decodePart (encode name), decodePart (encode value))] := by
  have split : encode (name ++ "=" ++ value) = encode name ++ 0x3D :: encode value := by
    rw [encode_append, encode_append, List.append_assoc]
    rfl
  have whole : Text.pieces 0x26 (encode (name ++ "=" ++ value)) =
      [encode (name ++ "=" ++ value)] :=
    Text.pieces_of_not_mem (mt (Utf8.byte_mem_encodeChars_iff (d := '&') (by decide)).mp single)
  have unequal : 0x3D ∉ encode name :=
    mt (Utf8.byte_mem_encodeChars_iff (d := '=') (by decide)).mp named
  rw [pairs, whole, split]
  simp [pairOf, Text.cut_append_cons unequal]

/-! ## Encoding -/

/-- The character stands for itself: it begins no escape, separates nothing and is no sign for a
space. -/
def isPlain (c : Char) : Bool :=
  c != '%' && c != '+' && c != '&' && c != '='

/-- Every character is written as itself, if it is plain, or as the escapes of its bytes. A space
may also be written as a plus sign. -/
inductive Encodes : List Char → List Char → Prop
  | nil : Encodes [] []
  | plain {c : Char} {cs written : List Char} :
    isPlain c = true → Encodes cs written → Encodes (c :: cs) (c :: written)
  | space {cs written : List Char} : Encodes cs written → Encodes (' ' :: cs) ('+' :: written)
  | escaped {c : Char} {cs escapes written : List Char} :
    Percent.Escapes (String.utf8EncodeChar c) escapes → Encodes cs written →
      Encodes (c :: cs) (escapes ++ written)

/-- The fragment is a name and a value, both encoded, with an equals sign between them. -/
def EncodesPair (pair : String × String) (fragment : String) : Prop :=
  ∃ name value : String, Encodes pair.1.toList name.toList ∧ Encodes pair.2.toList value.toList ∧
    fragment = name ++ "=" ++ value

/-- The text is made of a fragment for each pair, in order. -/
def EncodesPairs (pairs : List (String × String)) (text : String) : Prop :=
  ∃ fragments, List.Forall₂ EncodesPair pairs fragments ∧ text = Text.join "&" fragments

theorem not_mem_of_encodes {c : Char} (special : isPlain c = false) (noPlus : c ≠ '+')
    (noPercent : c ≠ '%') (noDigit : ∀ n < 16, ¬ Percent.WritesDigit c n) {cs written : List Char}
    (encodes : Encodes cs written) : c ∉ written := by
  induction encodes with
  | nil => exact List.not_mem_nil
  | plain isPlain _ ih =>
    rw [List.mem_cons, not_or]
    refine ⟨?_, ih⟩
    rintro rfl
    exact absurd isPlain (by simp [special])
  | space _ ih =>
    rw [List.mem_cons, not_or]
    exact ⟨noPlus, ih⟩
  | escaped escapes _ ih =>
    rw [List.mem_append, not_or]
    exact ⟨Percent.not_mem_of_escapes noPercent noDigit escapes, ih⟩

theorem equals_not_mem_of_encodes {cs written : List Char} (encodes : Encodes cs written) :
    '=' ∉ written :=
  not_mem_of_encodes rfl (by decide) (by decide) (by decide) encodes

theorem ampersand_not_mem_of_encodes {cs written : List Char} (encodes : Encodes cs written) :
    '&' ∉ written :=
  not_mem_of_encodes rfl (by decide) (by decide) (by decide) encodes

theorem plus_not_mem_of_escapes {bytes : Bytes} {escapes : List Char}
    (written : Percent.Escapes bytes escapes) : 0x2B ∉ encodeChars escapes :=
  mt (Utf8.byte_mem_encodeChars_iff (d := '+') (by decide)).mp
    (Percent.not_mem_of_escapes (by decide) (by decide) written)

/-! ## Decoding undoes encoding -/

theorem decodeBytes_of_encodes {cs written : List Char} (encodes : Encodes cs written) :
    Percent.decodeBytes (spaced (encodeChars written)) = encodeChars cs := by
  induction encodes with
  | nil => rfl
  | @plain c cs written isPlain _ ih =>
    simp only [Urlencoded.isPlain, Bool.and_eq_true, bne_iff_ne] at isPlain
    obtain ⟨⟨⟨noPercent, noPlus⟩, -⟩, -⟩ := isPlain
    have unspaced : 0x2B ∉ String.utf8EncodeChar c :=
      Utf8.byte_not_mem_encodeChar (d := '+') (by decide) noPlus
    rw [Utf8.encodeChars_cons, spaced_append, spaced_of_not_mem unspaced,
      Percent.decodeBytes_append (Percent.percent_not_mem_encodeChar noPercent), ih,
      Utf8.encodeChars_cons]
  | @space cs written _ ih =>
    have sign : spaced (encodeChars ('+' :: written)) = 0x20 :: spaced (encodeChars written) := rfl
    rw [sign, Percent.decodeBytes_cons (by decide), ih]
    rfl
  | escaped escapes _ ih =>
    rw [Utf8.encodeChars_append, spaced_append,
      spaced_of_not_mem (plus_not_mem_of_escapes escapes), Percent.decodeBytes_of_escapes escapes,
      ih, Utf8.encodeChars_cons]

theorem decodePart_of_encodes {text written : String}
    (encodes : Encodes text.toList written.toList) : decodePart (encode written) = text := by
  rw [decodePart_eq, encode, decodeBytes_of_encodes encodes]
  exact Utf8.decodeLossy_encode text

theorem pairs_of_encodesPair {pair : String × String} {fragment : String}
    (encodes : EncodesPair pair fragment) : pairs (encode fragment) = [pair] := by
  obtain ⟨name, value, writesName, writesValue, rfl⟩ := encodes
  have single : '&' ∉ (name ++ "=" ++ value).toList := by
    simp [ampersand_not_mem_of_encodes writesName, ampersand_not_mem_of_encodes writesValue]
  rw [pairs_fragment (equals_not_mem_of_encodes writesName) single,
    decodePart_of_encodes writesName, decodePart_of_encodes writesValue]

/-- **Decoding undoes encoding**, in whatever way the characters were written. -/
theorem pairs_of_encodesPairs {given : List (String × String)} {text : String}
    (encodes : EncodesPairs given text) : pairs (encode text) = given := by
  obtain ⟨fragments, each, rfl⟩ := encodes
  rw [pairs_join]
  induction each with
  | nil => rfl
  | cons encodes _ ih =>
    rw [List.flatMap_cons, pairs_of_encodesPair encodes, ih]
    rfl

/-! ## The usual encoding -/

/-- The escapes of bytes, with digits in upper case. -/
def escaped (bytes : Bytes) : List Char :=
  bytes.flatMap fun b =>
    ['%', (Text.hexDigit (b.toNat / 16)).toUpper, (Text.hexDigit (b.toNat % 16)).toUpper]

theorem escapes_escaped (bytes : Bytes) : Percent.Escapes bytes (escaped bytes) := by
  induction bytes with
  | nil => exact .nil
  | cons b bytes ih => exact .cons (Or.inr rfl) (Or.inr rfl) ih

/-- The character as forms write it: letters, digits and the signs `*-._` stand for themselves, a
plus sign stands for a space, and everything else is escaped. -/
def formChars (c : Char) : List Char :=
  if c.isAlphanum || ['*', '-', '.', '_'].contains c then [c]
  else if c = ' ' then ['+']
  else escaped (String.utf8EncodeChar c)

/-- The text as forms write it. -/
def formText (text : String) : String :=
  String.ofList (text.toList.flatMap formChars)

/-- The pairs as forms write them. -/
def formPairs (pairs : List (String × String)) : String :=
  Text.join "&" (pairs.map fun pair => formText pair.1 ++ "=" ++ formText pair.2)

theorem isPlain_of_unreserved {c : Char}
    (unreserved : (c.isAlphanum || ['*', '-', '.', '_'].contains c) = true) : isPlain c = true := by
  simp only [isPlain, Bool.and_eq_true, bne_iff_ne]
  refine ⟨⟨⟨?_, ?_⟩, ?_⟩, ?_⟩ <;> rintro rfl <;> exact absurd unreserved (by decide)

theorem encodes_formText (text : String) : Encodes text.toList (formText text).toList := by
  rw [formText, String.toList_ofList]
  induction text.toList with
  | nil => exact .nil
  | cons c cs ih =>
    rw [List.flatMap_cons, formChars]
    split
    · next unreserved => exact .plain (isPlain_of_unreserved unreserved) ih
    split
    · next blank =>
      subst blank
      exact .space ih
    · exact .escaped (escapes_escaped _) ih

/-- Every list of pairs can be written. -/
theorem encodesPairs_formPairs (pairs : List (String × String)) :
    EncodesPairs pairs (formPairs pairs) := by
  refine ⟨_, ?_, rfl⟩
  rw [List.forall₂_map_right_iff, List.forall₂_same]
  exact fun pair _ => ⟨_, _, encodes_formText pair.1, encodes_formText pair.2, rfl⟩

/-! ## Values of a name -/

/-- The first pair of a name is the one that looking it up finds. -/
theorem map_find?_eq_lookup {α : Type} (name : String) (pairs : List (String × α)) :
    (pairs.find? (·.1 == name)).map (·.2) = pairs.lookup name := by
  induction pairs with
  | nil => rfl
  | cons pair pairs ih =>
    rw [List.find?_cons, List.lookup_cons, Bool.beq_comm]
    cases name == pair.1 with
    | true => rfl
    | false => exact ih

theorem lookup?_eq_lookup (name : String) (pairs : List (String × String)) :
    lookup? name pairs = pairs.lookup name :=
  map_find?_eq_lookup name pairs

/-- The values that pairs list under a name. -/
def values (name : String) (pairs : List (String × String)) : List String :=
  ((pairs.filter (·.1 == name)).flatMap fun pair => Text.split ',' pair.2)
    |>.map Text.trim |>.filter (· ≠ "")

theorem values_append (name : String) (pairs others : List (String × String)) :
    values name (pairs ++ others) = values name pairs ++ values name others := by
  simp only [values, List.filter_append, List.flatMap_append, List.map_append]

end Urlencoded

end Petstore
