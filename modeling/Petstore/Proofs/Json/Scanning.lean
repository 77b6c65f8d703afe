import Mathlib.Algebra.Ring.Nat
import Mathlib.Data.List.Basic
import Petstore.Proofs.Json.Texts
import Petstore.Proofs.Text.Decimals

/-!
# Scanning what was written

A string is scanned back from between its quotes, whatever characters it has
(`Scan.string_quotedTail`), and an integer from its digits, as long as nothing follows that could
belong to a number (`Scan.number_of_nonneg`, `Scan.number_of_neg`).
-/

namespace Petstore

/-- **UTF-8.** Strict decoding reads back what encoding writes. -/
theorem Utf8.decode?_encode (text : String) : decode? (encode text) = .ok text := by
  have found : marks (encode text) = text.toList.map some := by
    have read := marks_encodeChars_append text.toList []
    rw [List.append_nil] at read
    rw [encode, read]
    exact List.append_nil _
  have sound : (text.toList.map some).all Option.isSome = true := by simp
  have whole : (text.toList.map some).filterMap id = text.toList := by simp
  rw [decode?, found]
  simp only [if_pos sound, whole, String.ofList_toList]

namespace Json.Scan

/-! ## Strings -/

/-- The byte stands for itself in a string. -/
def isPlainByte (b : UInt8) : Bool :=
  b != Ascii.quote && b != Ascii.backslash && 0x20 ≤ b

theorem stringBytes_of_plain {bytes : Bytes} (plain : ∀ b ∈ bytes, isPlainByte b = true)
    (done rest : Bytes) :
    stringBytes done (bytes ++ rest) = stringBytes (bytes.reverse ++ done) rest := by
  induction bytes generalizing done with
  | nil => rfl
  | cons b bytes ih =>
    rw [List.forall_mem_cons] at plain
    simp only [isPlainByte, Bool.and_eq_true, bne_iff_ne, decide_eq_true_eq] at plain
    obtain ⟨⟨⟨notQuote, notBackslash⟩, printable⟩, later⟩ := plain
    rw [List.cons_append, stringBytes, if_neg notQuote, if_neg notBackslash,
      if_neg (UInt8.not_lt.mpr printable), ih, List.reverse_cons, List.append_assoc]
    · rfl
    · intro b member
      simpa [isPlainByte] using later b member

theorem stringBytes_of_escape {s bytes after : Bytes} (escaped : escape s = .ok (bytes, after))
    (done : Bytes) :
    stringBytes done (Ascii.backslash :: s) = stringBytes (bytes.reverse ++ done) after := by
  rw [stringBytes, if_neg (by decide), if_pos rfl]
  split
  · next fault failed => cases escaped.symm.trans failed
  · next found => cases escaped.symm.trans found; rfl

theorem isPlainByte_ofNat {n : Nat} (fits : n < 256) (notQuote : n ≠ 34) (notBackslash : n ≠ 92)
    (visible : 32 ≤ n) : isPlainByte (UInt8.ofNat n) = true := by
  have value : (UInt8.ofNat n).toNat = n := by
    rw [UInt8.toNat_ofNat']
    exact Nat.mod_eq_of_lt fits
  simp only [isPlainByte, Bool.and_eq_true, bne_iff_ne, ne_eq, decide_eq_true_eq,
    ← UInt8.toNat_inj, UInt8.le_iff_toNat_le, value]
  exact ⟨⟨notQuote, notBackslash⟩, visible⟩

/-- The bytes of a character that is not escaped stand for themselves. -/
theorem isPlainByte_of_mem_encodeChar {c : Char} (notQuote : c ≠ '"') (notBackslash : c ≠ '\\')
    (printable : 32 ≤ c.toNat) {b : UInt8} (member : b ∈ String.utf8EncodeChar c) :
    isPlainByte b = true := by
  by_cases ascii : c.toNat < 128
  · have noQuote : c.toNat ≠ 34 := fun same => notQuote (Char.toNat_inj.mp same)
    have noBackslash : c.toNat ≠ 92 := fun same => notBackslash (Char.toNat_inj.mp same)
    rw [Utf8.encodeChar_of_ascii ascii, List.mem_singleton] at member
    rw [member]
    exact isPlainByte_ofNat (by omega) noQuote noBackslash printable
  -- Every byte of other characters has its high bit set, which no byte to be escaped has.
  · have set : 128 ≤ b.toNat := UInt8.le_iff_toNat_le.mp (Utf8.le_of_mem_encodeChar ascii member)
    have plain : isPlainByte (UInt8.ofNat b.toNat) = true :=
      isPlainByte_ofNat b.toNat_lt (by omega) (by omega) (by omega)
    rwa [UInt8.ofNat_toNat] at plain

/-- The byte of a hexadecimal digit. -/
def hexByte (n : Nat) : UInt8 :=
  UInt8.ofNat (Text.hexDigit n).toNat

theorem hexPair?_hexByte : ∀ n < 32,
    Percent.hexPair? (hexByte (n / 16)) (hexByte (n % 16)) = some (UInt8.ofNat n) := by
  decide

theorem escape_control {n : Nat} (control : n < 32) (rest : Bytes) :
    escape (Ascii.letterU :: 0x30 :: 0x30 :: hexByte (n / 16) :: hexByte (n % 16) :: rest) =
      .ok (String.utf8EncodeChar (Char.ofNat n), rest) := by
  have high : Percent.hexPair? 0x30 0x30 = some 0 := by decide
  have value : (UInt8.ofNat n).toNat = n := by
    rw [UInt8.toNat_ofNat']
    omega
  have four : hexFour (0x30 :: 0x30 :: hexByte (n / 16) :: hexByte (n % 16) :: rest) =
      .ok (n, rest) := by
    simp only [hexFour, high, hexPair?_hexByte n control, value]
    rw [show (0 : UInt8).toNat = 0 from rfl, Nat.zero_mul, Nat.zero_add]
  have notLow : ¬ (0xDC00 ≤ n && n ≤ 0xDFFF) = true := by simp; omega
  have notHigh : (n < 0xD800 || 0xDBFF < n) = true := by simp; omega
  have short : shortEscape? Ascii.letterU = none := by decide
  rw [escape, short]
  simp only [if_true, unicodeEscape, four, if_neg notLow, if_pos notHigh]

/-- The two bytes of a short escape stand for the byte of its character. -/
theorem stringBytes_of_short {letter byte : UInt8} (short : shortEscape? letter = some byte)
    (done rest : Bytes) :
    stringBytes done (Ascii.backslash :: letter :: rest) = stringBytes (byte :: done) rest := by
  have escaped : escape (letter :: rest) = .ok ([byte], rest) := by
    simp only [escape, short]
  exact stringBytes_of_escape escaped done

/-- A character is scanned back, escaped or not. -/
theorem stringBytes_escapeChar (c : Char) (done rest : Bytes) :
    stringBytes done (Utf8.encodeChars (escapeChar c) ++ rest) =
      stringBytes ((String.utf8EncodeChar c).reverse ++ done) rest := by
  have named {n : Nat} (code : c.toNat = n) : c = Char.ofNat n := by
    rw [← code, Char.ofNat_toNat]
  unfold escapeChar
  split
  · next quote =>
    rw [quote]
    exact stringBytes_of_short (by decide) done rest
  split
  · next backslash =>
    rw [backslash]
    exact stringBytes_of_short (by decide) done rest
  split
  · next code =>
    rw [named code]
    exact stringBytes_of_short (by decide) done rest
  split
  · next code =>
    rw [named code]
    exact stringBytes_of_short (by decide) done rest
  split
  · next code =>
    rw [named code]
    exact stringBytes_of_short (by decide) done rest
  split
  · next code =>
    rw [named code]
    exact stringBytes_of_short (by decide) done rest
  split
  · next code =>
    rw [named code]
    exact stringBytes_of_short (by decide) done rest
  split
  · next control =>
    have digit : ∀ n < 16, (Text.hexDigit n).toNat < 128 := by decide
    have ascii : ∀ d ∈ ['\\', 'u', '0', '0', Text.hexDigit (c.toNat / 16),
        Text.hexDigit (c.toNat % 16)], d.toNat < 128 := by
      simp only [List.forall_mem_cons]
      exact ⟨by decide, by decide, by decide, by decide, digit _ (by omega), digit _ (by omega),
        fun _ inside => nomatch inside⟩
    rw [Utf8.encodeChars_of_ascii ascii]
    have escaped := stringBytes_of_escape (escape_control control rest) done
    rw [Char.ofNat_toNat] at escaped
    exact escaped
  · next notQuote notBackslash _ _ _ _ _ visible =>
    have single : Utf8.encodeChars [c] = String.utf8EncodeChar c := by
      rw [Utf8.encodeChars_cons]
      exact List.append_nil _
    rw [single]
    exact stringBytes_of_plain (fun b member =>
      isPlainByte_of_mem_encodeChar notQuote notBackslash (Nat.le_of_not_lt visible) member)
      done rest

theorem stringBytes_flatMap_escapeChar (cs : List Char) (done rest : Bytes) :
    stringBytes done (Utf8.encodeChars (cs.flatMap escapeChar) ++ Ascii.quote :: rest) =
      .ok (done.reverse ++ Utf8.encodeChars cs, rest) := by
  induction cs generalizing done with
  | nil =>
    rw [List.flatMap_nil, Utf8.encodeChars, List.flatMap_nil, List.nil_append, stringBytes,
      if_pos rfl, List.append_nil]
  | cons c cs ih =>
    rw [List.flatMap_cons, Utf8.encodeChars_append, List.append_assoc, stringBytes_escapeChar, ih,
      List.reverse_append, List.reverse_reverse, List.append_assoc, Utf8.encodeChars_cons]

/-- **Strings.** A string is scanned back from what was written behind its opening quote. -/
theorem string_quotedTail (text : String) (rest : Bytes) :
    string (quotedTail text ++ rest) = .ok (text, rest) := by
  have scanned := stringBytes_flatMap_escapeChar text.toList [] rest
  rw [List.reverse_nil, List.nil_append] at scanned
  rw [quotedTail, List.append_assoc, List.singleton_append, string, scanned]
  have decoded : Utf8.decode? (Utf8.encodeChars text.toList) = .ok text := Utf8.decode?_encode text
  simp only [decoded]

/-! ## Numbers -/

/-- What follows a number cannot belong to it. -/
def Ended (rest : Bytes) : Prop :=
  ∀ b, rest.head? = some b →
    Ascii.isDigit b = false ∧ b ≠ Ascii.point ∧ Ascii.isExponent b = false

theorem ended_nil : Ended [] := fun _ first => nomatch first

theorem ended_cons {b : UInt8}
    (other : Ascii.isDigit b = false ∧ b ≠ Ascii.point ∧ Ascii.isExponent b = false)
    (rest : Bytes) : Ended (b :: rest) :=
  fun _ first => Option.some_inj.mp first ▸ other

/-- The decimal digits of a number as bytes. -/
def digitBytes (n : Nat) : Bytes :=
  (Nat.toDigits 10 n).map fun c => UInt8.ofNat c.toNat

theorem isDigit_iff_toNat {c : Char} : c.isDigit = true ↔ 48 ≤ c.toNat ∧ c.toNat ≤ 57 := by
  simp [Char.isDigit, UInt32.le_iff_toNat_le]

theorem isDigit_ofNat {c : Char} (digit : c.isDigit = true) :
    Ascii.isDigit (UInt8.ofNat c.toNat) = true ∧
      Ascii.digitValue (UInt8.ofNat c.toNat) = c.toNat - '0'.toNat := by
  have range := isDigit_iff_toNat.mp digit
  have value : (UInt8.ofNat c.toNat).toNat = c.toNat := by
    rw [UInt8.toNat_ofNat']
    omega
  refine ⟨?_, ?_⟩
  · simpa [Ascii.isDigit, UInt8.le_iff_toNat_le, value] using range
  · rw [Ascii.digitValue, value]
    rfl

theorem isDigit_of_mem_digitBytes {n : Nat} {b : UInt8} (member : b ∈ digitBytes n) :
    Ascii.isDigit b = true := by
  obtain ⟨c, inside, rfl⟩ := List.mem_map.mp member
  exact (isDigit_ofNat (Nat.isDigit_of_mem_toDigits (by decide) (by decide) inside)).1

/-- The value of digits behind a value. -/
def valueAfter (value : Nat) (digits : Bytes) : Nat :=
  digits.foldl (fun n b => n * 10 + Ascii.digitValue b) value

theorem le_valueAfter (value : Nat) (digits : Bytes) : value ≤ valueAfter value digits := by
  induction digits generalizing value with
  | nil => exact Nat.le_refl value
  | cons b digits ih =>
    have later := ih (value * 10 + Ascii.digitValue b)
    exact Nat.le_trans (by omega) later

theorem valueAfter_digitBytes (n : Nat) : valueAfter 0 (digitBytes n) = n := by
  rw [valueAfter, digitBytes, List.foldl_map]
  refine Eq.trans ?_ ((Text.digitsValue_eq _).trans Nat.ofDigitChars_ten_toDigits)
  refine List.foldl_ext _ _ _ fun value c inside => ?_
  have digit := Nat.isDigit_of_mem_toDigits (by decide) (by decide) inside
  rw [(isDigit_ofNat digit).2]

/-- As long as the value fits into a word, no digit is dropped. -/
theorem collect_of_fits {value : Nat} {digits : Bytes}
    (fits : valueAfter value digits ≤ wordMax) :
    Significand.collect value digits = ⟨valueAfter value digits, 0⟩ := by
  unfold Significand.collect
  induction digits generalizing value with
  | nil => rfl
  | cons b digits ih =>
    have grown : value * 10 + Ascii.digitValue b ≤ wordMax :=
      Nat.le_trans (le_valueAfter _ _) fits
    have pushed : Significand.push ⟨value, 0⟩ b = ⟨value * 10 + Ascii.digitValue b, 0⟩ := by
      simp [Significand.push, grown]
    rw [List.foldl_cons, pushed, ih fits]
    rfl

theorem head_toDigits_ne_zero {n : Nat} (positive : 0 < n) {d : Char} {ds : List Char}
    (whole : Nat.toDigits 10 n = d :: ds) : d ≠ '0' := by
  induction n using Nat.strongRecOn generalizing ds with
  | ind n ih =>
    by_cases small : n < 10
    · have nonzero : ∀ k < 10, 0 < k → Nat.digitChar k ≠ '0' := by decide
      rw [Nat.toDigits_of_lt_base small] at whole
      rw [← (List.cons.inj whole).1]
      exact nonzero n small positive
    · rw [Nat.toDigits_of_base_le (by decide) (Nat.le_of_not_lt small)] at whole
      cases front : Nat.toDigits 10 (n / 10) with
      | nil => exact absurd front Nat.toDigits_ne_nil
      | cons d' ds' =>
        rw [front, List.cons_append] at whole
        exact ih (n / 10) (by omega) (by omega) (front.trans (by rw [(List.cons.inj whole).1]))

/-- The digits of a positive number begin with one that is not zero. -/
theorem digitBytes_of_pos {n : Nat} (positive : 0 < n) :
    ∃ b bs, digitBytes n = b :: bs ∧ b ≠ Ascii.zero ∧
      valueAfter (Ascii.digitValue b) bs = n := by
  cases whole : Nat.toDigits 10 n with
  | nil => exact absurd whole Nat.toDigits_ne_nil
  | cons d ds =>
    have split : digitBytes n = UInt8.ofNat d.toNat :: ds.map fun c => UInt8.ofNat c.toNat := by
      rw [digitBytes, whole, List.map_cons]
    have digit : d.isDigit = true :=
      Nat.isDigit_of_mem_toDigits (by decide) (by decide) (whole ▸ List.mem_cons_self)
    refine ⟨_, _, split, fun same => ?_, ?_⟩
    · have code := (isDigit_ofNat digit).2
      rw [same] at code
      have least := (isDigit_iff_toNat.mp digit).1
      have equal : d.toNat = '0'.toNat :=
        Nat.le_antisymm (Nat.sub_eq_zero_iff_le.mp code.symm) least
      exact head_toDigits_ne_zero positive whole (Char.toNat_inj.mp equal)
    · have value := valueAfter_digitBytes n
      rw [split, valueAfter, List.foldl_cons, Nat.zero_mul, Nat.zero_add] at value
      exact value

theorem spanDigits_append {digits rest : Bytes}
    (all : ∀ b ∈ digits, Ascii.isDigit b = true)
    (stops : ∀ b, rest.head? = some b → Ascii.isDigit b = false) :
    spanDigits (digits ++ rest) = (digits, rest) := by
  have none : rest.takeWhile Ascii.isDigit = [] ∧ rest.dropWhile Ascii.isDigit = rest := by
    cases rest with
    | nil => exact ⟨rfl, rfl⟩
    | cons b rest =>
      have other := stops b rfl
      exact ⟨List.takeWhile_cons_of_neg (by simp [other]),
        List.dropWhile_cons_of_neg (by simp [other])⟩
  rw [spanDigits, List.takeWhile_append_of_pos all, List.dropWhile_append_of_pos all, none.1,
    none.2, List.append_nil]

theorem afterWhole_of_ended {rest : Bytes} (ended : Ended rest) (negative : Bool)
    (whole : Significand) : afterWhole negative whole rest = wholeNumber negative whole rest := by
  cases rest with
  | nil => rfl
  | cons b rest =>
    obtain ⟨-, notPoint, notExponent⟩ := ended b rfl
    rw [afterWhole, if_neg notPoint, if_neg (by simp [notExponent])]

/-- The digits of a number are scanned to its value. -/
theorem number_digitBytes {n : Nat} (fits : n ≤ wordMax) {rest : Bytes} (ended : Ended rest)
    (negative : Bool) :
    number negative (digitBytes n ++ rest) = wholeNumber negative ⟨n, 0⟩ rest := by
  rcases Nat.eq_zero_or_pos n with rfl | positive
  · have digits : digitBytes 0 = [Ascii.zero] := rfl
    rw [digits, List.singleton_append, ← afterWhole_of_ended ended]
    cases rest with
    | nil => rfl
    | cons b rest =>
      have other := (ended b rfl).1
      simp only [number, if_true, other, Bool.false_eq_true, if_false]
  · obtain ⟨b, bs, split, notZero, value⟩ := digitBytes_of_pos positive
    have all : ∀ x ∈ b :: bs, Ascii.isDigit x = true :=
      fun x member => isDigit_of_mem_digitBytes (split ▸ member)
    rw [List.forall_mem_cons] at all
    have collected : Significand.collect (Ascii.digitValue b) bs = ⟨n, 0⟩ := by
      rw [collect_of_fits (by rwa [value]), value]
    simp only [split, List.cons_append, number, if_neg notZero, if_pos all.1,
      spanDigits_append all.2 fun b first => (ended b first).1, collected,
      afterWhole_of_ended ended]

/-- **Numbers.** A number that fits into a word is scanned back from its digits. -/
theorem number_of_nonneg {n : Nat} (fits : n ≤ wordMax) {rest : Bytes} (ended : Ended rest) :
    number false (digitBytes n ++ rest) = .ok (.integer n, rest) := by
  rw [number_digitBytes fits ended]
  rfl

/-- So is one below zero from behind its sign, down to the least signed word. -/
theorem number_of_neg {n : Nat} (positive : 0 < n) (fits : n ≤ 2 ^ 63) {rest : Bytes}
    (ended : Ended rest) : number true (digitBytes n ++ rest) = .ok (.integer (-n), rest) := by
  have word : n ≤ wordMax := Nat.le_trans fits (by decide)
  have within : ¬ (n = 0 || Nat.pow 2 63 < n) = true := by
    have power : Nat.pow 2 63 = 2 ^ 63 := rfl
    simp only [Bool.or_eq_true, decide_eq_true_eq, not_or, power]
    omega
  rw [number_digitBytes word ended]
  simp only [wholeNumber, ne_eq, not_true_eq_false, if_false, Bool.not_true, Bool.false_eq_true,
    if_neg within]

end Json.Scan

end Petstore
