import Petstore.Proofs.Text.Utf8
import Petstore.Text.Hex
import Petstore.Text.Percent

/-!
# Percent-encoded texts

A text may be percent-encoded in many ways. Each character may stand for itself, but for slashes and
percent signs, or be written as the escapes of its UTF-8 bytes, with digits in either case. Since a
percent sign always begins an escape, and the bytes of characters that stand for themselves hold
none, decoding reads the bytes of the text whatever was chosen (`decode_of_encodes`).
-/

namespace Petstore.Percent

/-! ## Encodings -/

/-- The character is a hexadecimal digit of this value, in lower or upper case. -/
def WritesDigit (c : Char) (n : Nat) : Prop :=
  c = Text.hexDigit n ∨ c = (Text.hexDigit n).toUpper

instance (c : Char) (n : Nat) : Decidable (WritesDigit c n) :=
  inferInstanceAs (Decidable (c = Text.hexDigit n ∨ c = (Text.hexDigit n).toUpper))

/-- Every byte is written as a percent sign and two hexadecimal digits. -/
inductive Escapes : Bytes → List Char → Prop
  | nil : Escapes [] []
  | cons {b : UInt8} {bytes : Bytes} {high low : Char} {written : List Char} :
    WritesDigit high (b.toNat / 16) → WritesDigit low (b.toNat % 16) → Escapes bytes written →
      Escapes (b :: bytes) ('%' :: high :: low :: written)

/-- Every character is written as itself, if it is neither a slash nor a percent sign, or as the
escapes of its bytes. -/
inductive Encodes : List Char → List Char → Prop
  | nil : Encodes [] []
  | plain {c : Char} {cs written : List Char} :
    c ≠ '/' → c ≠ '%' → Encodes cs written → Encodes (c :: cs) (c :: written)
  | escaped {c : Char} {cs escapes written : List Char} :
    Escapes (String.utf8EncodeChar c) escapes → Encodes cs written →
      Encodes (c :: cs) (escapes ++ written)

/-! ## Decoding -/

theorem decodeBytes_cons {b : UInt8} (plain : b ≠ 0x25) (bytes : Bytes) :
    decodeBytes (b :: bytes) = b :: decodeBytes bytes := by
  rw [decodeBytes]
  rintro high low rest rfl
  exact absurd rfl plain

/-- Only percent signs are decoded. -/
theorem decodeBytes_append {front : Bytes} (plain : 0x25 ∉ front) (rest : Bytes) :
    decodeBytes (front ++ rest) = front ++ decodeBytes rest := by
  induction front with
  | nil => rfl
  | cons b front ih =>
    rw [List.mem_cons, not_or] at plain
    rw [List.cons_append, decodeBytes_cons (Ne.symm plain.1), ih plain.2]
    rfl

/-- A hexadecimal digit is an ASCII character that is read as its value. -/
theorem writesDigit_spec {c : Char} {n : Nat} (small : n < 16) (digit : WritesDigit c n) :
    c.toNat < 128 ∧ hexValue? (UInt8.ofNat c.toNat) = some (UInt8.ofNat n) := by
  have lower : ∀ n < 16, (Text.hexDigit n).toNat < 128 ∧
      hexValue? (UInt8.ofNat (Text.hexDigit n).toNat) = some (UInt8.ofNat n) := by
    decide
  have upper : ∀ n < 16, (Text.hexDigit n).toUpper.toNat < 128 ∧
      hexValue? (UInt8.ofNat (Text.hexDigit n).toUpper.toNat) = some (UInt8.ofNat n) := by
    decide
  rcases digit with rfl | rfl
  · exact lower n small
  · exact upper n small

theorem hexPair?_of_writesDigit {b : UInt8} {high low : Char}
    (writesHigh : WritesDigit high (b.toNat / 16)) (writesLow : WritesDigit low (b.toNat % 16)) :
    hexPair? (UInt8.ofNat high.toNat) (UInt8.ofNat low.toNat) = some b := by
  have fits : b.toNat < 256 := b.toNat_lt
  have whole : UInt8.ofNat (b.toNat / 16) * 16 + UInt8.ofNat (b.toNat % 16) = b := by
    rw [← UInt8.toNat_inj, UInt8.toNat_add, UInt8.toNat_mul, UInt8.toNat_ofNat',
      UInt8.toNat_ofNat', show (16 : UInt8).toNat = 16 from rfl]
    omega
  unfold hexPair?
  rw [(writesDigit_spec (by omega) writesHigh).2, (writesDigit_spec (by omega) writesLow).2]
  exact congrArg some whole

/-- Escapes are read as the bytes that they stand for. -/
theorem decodeBytes_of_escapes {bytes : Bytes} {written : List Char}
    (escapes : Escapes bytes written) (rest : Bytes) :
    decodeBytes (Utf8.encodeChars written ++ rest) = bytes ++ decodeBytes rest := by
  induction escapes with
  | nil => rfl
  | @cons b bytes high low written writesHigh writesLow _ ih =>
    have fits : b.toNat < 256 := b.toNat_lt
    have asciiHigh := (writesDigit_spec (by omega) writesHigh).1
    have asciiLow := (writesDigit_spec (by omega) writesLow).1
    have percent : String.utf8EncodeChar '%' = [0x25] := rfl
    rw [Utf8.encodeChars_cons, Utf8.encodeChars_cons, Utf8.encodeChars_cons, percent,
      Utf8.encodeChar_of_ascii asciiHigh, Utf8.encodeChar_of_ascii asciiLow]
    simp only [List.cons_append, List.nil_append]
    rw [decodeBytes, hexPair?_of_writesDigit writesHigh writesLow, ih]

/-- No other character has the byte of a percent sign. -/
theorem percent_not_mem_encodeChar {c : Char} (plain : c ≠ '%') :
    0x25 ∉ String.utf8EncodeChar c :=
  Utf8.byte_not_mem_encodeChar (d := '%') (by decide) plain

theorem decodeBytes_of_encodes {cs written : List Char} (encodes : Encodes cs written) :
    decodeBytes (Utf8.encodeChars written) = Utf8.encodeChars cs := by
  -- What one character is written as never ends within an escape, so it is decoded by itself.
  induction encodes with
  | nil => rfl
  | plain _ noPercent _ ih =>
    rw [Utf8.encodeChars_cons, decodeBytes_append (percent_not_mem_encodeChar noPercent), ih,
      Utf8.encodeChars_cons]
  | escaped escapes _ ih =>
    rw [Utf8.encodeChars_append, decodeBytes_of_escapes escapes, ih, Utf8.encodeChars_cons]

/-- A text without percent signs stands for itself. -/
theorem decode_of_not_mem {text : String} (plain : '%' ∉ text.toList) : decode text = text := by
  have unescaped : 0x25 ∉ Utf8.encode text := by
    intro member
    obtain ⟨c, inside, byte⟩ := List.mem_flatMap.mp member
    exact percent_not_mem_encodeChar (ne_of_mem_of_not_mem inside plain) byte
  have kept := decodeBytes_append unescaped []
  rw [List.append_nil] at kept
  rw [decode, kept]
  exact (congrArg Utf8.decodeLossy (List.append_nil _)).trans (Utf8.decodeLossy_encode text)

/-- **Decoding undoes encoding**, in whatever way the characters were written. -/
theorem decode_of_encodes {text written : String} (encodes : Encodes text.toList written.toList) :
    decode written = text := by
  rw [decode, Utf8.encode, decodeBytes_of_encodes encodes]
  exact Utf8.decodeLossy_encode text

/-! ## What is written -/

/-- Escapes have no characters but percent signs and hexadecimal digits. -/
theorem not_mem_of_escapes {c : Char} (noPercent : c ≠ '%') (noDigit : ∀ n < 16, ¬ WritesDigit c n)
    {bytes : Bytes} {written : List Char} (escapes : Escapes bytes written) : c ∉ written := by
  induction escapes with
  | nil => exact List.not_mem_nil
  | @cons b _ _ _ _ writesHigh writesLow _ ih =>
    have fits : b.toNat < 256 := b.toNat_lt
    simp only [List.mem_cons, not_or]
    refine ⟨noPercent, ?_, ?_, ih⟩
    · rintro rfl
      exact noDigit _ (by omega) writesHigh
    · rintro rfl
      exact noDigit _ (by omega) writesLow

/-- An encoded text has no slashes, so it can stand between slashes. -/
theorem slash_not_mem_of_encodes {cs written : List Char} (encodes : Encodes cs written) :
    '/' ∉ written := by
  induction encodes with
  | nil => exact List.not_mem_nil
  | plain noSlash _ _ ih =>
    rw [List.mem_cons, not_or]
    exact ⟨Ne.symm noSlash, ih⟩
  | escaped escapes _ ih =>
    rw [List.mem_append, not_or]
    exact ⟨not_mem_of_escapes (by decide) (by decide) escapes, ih⟩

theorem ne_empty_of_encodes {text written : String}
    (encodes : Encodes text.toList written.toList) (nonempty : text ≠ "") : written ≠ "" := by
  rintro rfl
  have nothing : decode "" = "" := rfl
  exact nonempty ((decode_of_encodes encodes).symm.trans nothing)

end Petstore.Percent
