import Petstore.Proofs.Json.Phrases
import Petstore.Proofs.Json.Reading

/-!
# Scanning tokens

What a numeral or a string is scanned to does not depend on what follows it
(`Numeral.toOption_number`, `Letters.toOption_string`), also where scanning it fails because the
number is too large or an escape stands for no character. Skipping fails for neither of them.
-/

namespace Petstore.Json

open Scan

/-! ## Numerals -/

section Numerals

variable {α : Type} {scan scan' : Bytes → Scanned α} {token token' rest : Bytes}

/-- Scanning the token comes to one result, whatever follows that cannot belong to a number. -/
def Settles (scan : Bytes → Scanned α) (token : Bytes) : Prop :=
  ∃ result : Option α, ∀ ⦃rest : Bytes⦄, Ended rest →
    (scan (token ++ rest)).toOption = result.map (·, rest)

theorem Settles.of_eq (settles : Settles scan' token')
    (same : ∀ ⦃rest : Bytes⦄, Ended rest → scan (token ++ rest) = scan' (token' ++ rest)) :
    Settles scan token := by
  obtain ⟨result, settled⟩ := settles
  exact ⟨result, fun rest ended => (congrArg Except.toOption (same ended)).trans (settled ended)⟩

theorem stops_of_ended (ended : Ended rest) :
    ∀ b, rest.head? = some b → Ascii.isDigit b = false :=
  fun b first => (ended b first).1

variable {negative down : Bool} {significand size : Nat} {start : Int} {whole : Significand}

theorem settles_scannedDouble : Settles (scannedDouble negative significand start) [] := by
  refine ⟨(double? significand start).map fun x => .float (if negative then -x else x),
    fun rest _ => ?_⟩
  rw [List.nil_append, scannedDouble]
  cases double? significand start with
  | none => rfl
  | some x => rfl

theorem settles_exponentDigits {digits : Bytes} (all : ∀ b ∈ digits, Ascii.isDigit b = true) :
    Settles (exponentDigits negative significand start down size) digits := by
  induction digits generalizing size with
  | nil =>
    have same ⦃rest : Bytes⦄ (ended : Ended rest) :
        exponentDigits negative significand start down size ([] ++ rest) =
          scannedDouble negative significand (if down then start - size else start + size)
            ([] ++ rest) := by
      cases rest with
      | nil => rfl
      | cons b rest =>
        have other := stops_of_ended ended b rfl
        simp only [List.nil_append, exponentDigits, other, Bool.false_eq_true, if_false]
    exact settles_scannedDouble.of_eq same
  | cons d digits ih =>
    rw [List.forall_mem_cons] at all
    by_cases fits : size * 10 + Ascii.digitValue d ≤ 2147483647
    · have same ⦃rest : Bytes⦄ (_ : Ended rest) :
          exponentDigits negative significand start down size (d :: digits ++ rest) =
            exponentDigits negative significand start down (size * 10 + Ascii.digitValue d)
              (digits ++ rest) := by
        rw [List.cons_append, exponentDigits, if_pos all.1, if_pos fits]
      exact (ih all.2).of_eq same
    by_cases large : (significand ≠ 0 && !down) = true
    · refine ⟨none, fun rest _ => ?_⟩
      simp only [List.cons_append, exponentDigits, if_pos all.1, if_neg fits, if_pos large]
      rfl
    · refine ⟨some (.float (if negative then -0.0 else 0.0)), fun rest ended => ?_⟩
      have dropped : (digits ++ rest).dropWhile Ascii.isDigit = rest :=
        congrArg Prod.snd (spanDigits_append all.2 (stops_of_ended ended))
      simp only [List.cons_append, exponentDigits, if_pos all.1, if_neg fits, if_neg large, dropped]
      rfl

theorem Digits.first_ne (digits : Digits) {b : UInt8} (other : Ascii.isDigit b = false) :
    digits.first ≠ b := by
  intro same
  have digit := digits.digit digits.first List.mem_cons_self
  rw [same, other] at digit
  cases digit

/-- An exponent has its sign before its digits, or none. -/
theorem exponentSign_bytes (exponent : Exponent) (rest : Bytes) :
    exponentSign (exponent.sign.toList ++ exponent.digits.bytes ++ rest) =
      (decide (exponent.sign = some Ascii.minus), exponent.digits.bytes ++ rest) := by
  cases signed : exponent.sign with
  | none =>
    have notMinus := exponent.digits.first_ne (b := Ascii.minus) (by decide)
    have notPlus := exponent.digits.first_ne (b := Ascii.plus) (by decide)
    simp [exponentSign, Digits.bytes, notMinus, notPlus]
  | some b =>
    rcases exponent.isSign b signed with rfl | rfl
    · rfl
    · rfl

theorem settles_exponent (exponent : Exponent) :
    Settles (Scan.exponent negative significand start)
      (exponent.sign.toList ++ exponent.digits.bytes) := by
  have digits := exponent.digits.digit
  rw [List.forall_mem_cons] at digits
  have same ⦃rest : Bytes⦄ (_ : Ended rest) :
      Scan.exponent negative significand start
          (exponent.sign.toList ++ exponent.digits.bytes ++ rest) =
        exponentDigits negative significand start (decide (exponent.sign = some Ascii.minus))
          (Ascii.digitValue exponent.digits.first) (exponent.digits.more ++ rest) := by
    rw [Scan.exponent, exponentSign_bytes, Digits.bytes, List.cons_append]
    simp only [exponentSize, if_pos digits.1]
  exact (settles_exponentDigits digits.2).of_eq same

/-- After digits comes no digit, whether an exponent comes or not. -/
theorem stops_exponentBytes (exponent : Option Exponent) (ended : Ended rest) :
    ∀ b, (Numeral.exponentBytes exponent ++ rest).head? = some b → Ascii.isDigit b = false := by
  cases exponent with
  | none => exact stops_of_ended ended
  | some exponent =>
    intro b first
    obtain rfl := Option.some_inj.mp first
    have letter := exponent.isLetter
    simp only [Ascii.isExponent, Bool.or_eq_true, beq_iff_eq] at letter
    rcases letter with same | same
    · rw [same]; rfl
    · rw [same]; rfl

theorem settles_exponentOrEnd (exponent : Option Exponent) :
    Settles (exponentOrEnd negative significand start) (Numeral.exponentBytes exponent) := by
  cases exponent with
  | none =>
    have same ⦃rest : Bytes⦄ (ended : Ended rest) :
        exponentOrEnd negative significand start ([] ++ rest) =
          scannedDouble negative significand start ([] ++ rest) := by
      cases rest with
      | nil => rfl
      | cons b rest =>
        have other := (ended b rfl).2.2
        simp only [List.nil_append, exponentOrEnd, other, Bool.false_eq_true, if_false]
    exact settles_scannedDouble.of_eq same
  | some exponent =>
    have same ⦃rest : Bytes⦄ (_ : Ended rest) :
        exponentOrEnd negative significand start (exponent.bytes ++ rest) =
          Scan.exponent negative significand start
            (exponent.sign.toList ++ exponent.digits.bytes ++ rest) := by
      simp only [Exponent.bytes, List.cons_append, exponentOrEnd, if_pos exponent.isLetter]
    exact (settles_exponent exponent).of_eq same

theorem spanDigits_bytes (digits : Digits) (exponent : Option Exponent) (ended : Ended rest) :
    spanDigits (digits.bytes ++ Numeral.exponentBytes exponent ++ rest) =
      (digits.bytes, Numeral.exponentBytes exponent ++ rest) := by
  rw [List.append_assoc]
  exact spanDigits_append digits.digit (stops_exponentBytes exponent ended)

theorem settles_fraction (digits : Digits) (exponent : Option Exponent) :
    Settles (fraction negative whole) (digits.bytes ++ Numeral.exponentBytes exponent) := by
  let all := Significand.collect whole.value digits.bytes
  have same ⦃rest : Bytes⦄ (ended : Ended rest) :
      fraction negative whole (digits.bytes ++ Numeral.exponentBytes exponent ++ rest) =
        exponentOrEnd negative all.value
          (whole.dropped - ((digits.bytes.length : Int) - all.dropped))
          (Numeral.exponentBytes exponent ++ rest) := by
    rw [fraction, spanDigits_bytes digits exponent ended]
    rfl
  exact (settles_exponentOrEnd exponent).of_eq same

theorem settles_wholeNumber : Settles (wholeNumber negative whole) [] := by
  by_cases dropped : whole.dropped ≠ 0
  · have same ⦃rest : Bytes⦄ (_ : Ended rest) :
        wholeNumber negative whole ([] ++ rest) =
          scannedDouble negative whole.value whole.dropped ([] ++ rest) := by
      rw [wholeNumber, if_pos dropped]
    exact settles_scannedDouble.of_eq same
  by_cases positive : (!negative) = true
  · refine ⟨some (.integer whole.value), fun rest _ => ?_⟩
    rw [wholeNumber, if_neg dropped, if_pos positive]
    rfl
  by_cases large : (whole.value = 0 || Nat.pow 2 63 < whole.value) = true
  · refine ⟨some (.float (-whole.value.toUInt64.toFloat)), fun rest _ => ?_⟩
    rw [wholeNumber, if_neg dropped, if_neg positive, if_pos large]
    rfl
  · refine ⟨some (.integer (-whole.value)), fun rest _ => ?_⟩
    rw [wholeNumber, if_neg dropped, if_neg positive, if_neg large]
    rfl

theorem ne_point_of_isExponent {b : UInt8} (letter : Ascii.isExponent b = true) :
    b ≠ Ascii.point := by
  rintro rfl
  cases letter

theorem settles_afterWhole (digits : Option Digits) (exponent : Option Exponent) :
    Settles (afterWhole negative whole)
      (Numeral.fractionBytes digits ++ Numeral.exponentBytes exponent) := by
  cases digits with
  | some digits => exact (settles_fraction digits exponent).of_eq fun rest _ => rfl
  | none =>
    cases exponent with
    | none => exact settles_wholeNumber.of_eq fun rest ended => afterWhole_of_ended ended _ _
    | some exponent =>
      have same ⦃rest : Bytes⦄ (_ : Ended rest) :
          afterWhole negative whole (exponent.bytes ++ rest) =
            Scan.exponent negative whole.value whole.dropped
              (exponent.sign.toList ++ exponent.digits.bytes ++ rest) := by
        simp only [Exponent.bytes, List.cons_append, afterWhole,
          if_neg (ne_point_of_isExponent exponent.isLetter), if_pos exponent.isLetter]
      exact (settles_exponent exponent).of_eq same

theorem stops_fractionBytes (digits : Option Digits) (exponent : Option Exponent)
    (ended : Ended rest) :
    ∀ b, (Numeral.fractionBytes digits ++ Numeral.exponentBytes exponent ++ rest).head? = some b →
      Ascii.isDigit b = false := by
  cases digits with
  | none => exact stops_exponentBytes exponent ended
  | some digits =>
    intro b first
    obtain rfl := Option.some_inj.mp first
    rfl

/-! ## Skipping numerals -/

theorem skip_exponent (exponent : Exponent) (ended : Ended rest) :
    Skip.exponent (exponent.sign.toList ++ exponent.digits.bytes ++ rest) = .ok rest := by
  have digits := exponent.digits.digit
  rw [List.forall_mem_cons] at digits
  have dropped := congrArg Prod.snd (spanDigits_append digits.2 (stops_of_ended ended))
  simp only [spanDigits] at dropped
  rw [Skip.exponent, exponentSign_bytes, Digits.bytes, List.cons_append]
  simp only [if_pos digits.1, dropped]

theorem skip_exponentOrEnd (exponent : Option Exponent) (ended : Ended rest) :
    Skip.exponentOrEnd (Numeral.exponentBytes exponent ++ rest) = .ok rest := by
  cases exponent with
  | none =>
    cases rest with
    | nil => rfl
    | cons b rest =>
      have other := (ended b rfl).2.2
      simp only [Numeral.exponentBytes, List.nil_append, Skip.exponentOrEnd, other,
        Bool.false_eq_true, if_false]
  | some exponent =>
    rw [Numeral.exponentBytes, Exponent.bytes, List.cons_append, Skip.exponentOrEnd,
      if_pos exponent.isLetter, skip_exponent exponent ended]

theorem skip_fraction (digits : Digits) (exponent : Option Exponent) (ended : Ended rest) :
    Skip.fraction (digits.bytes ++ Numeral.exponentBytes exponent ++ rest) = .ok rest := by
  rw [Skip.fraction, spanDigits_bytes digits exponent ended]
  exact skip_exponentOrEnd exponent ended

theorem skip_afterWhole (digits : Option Digits) (exponent : Option Exponent)
    (ended : Ended rest) :
    Skip.afterWhole (Numeral.fractionBytes digits ++ Numeral.exponentBytes exponent ++ rest) =
      .ok rest := by
  cases digits with
  | some digits => exact skip_fraction digits exponent ended
  | none =>
    cases exponent with
    | some exponent =>
      have notPoint := ne_point_of_isExponent exponent.isLetter
      have skipped := skip_exponentOrEnd (some exponent) ended
      simp only [Numeral.fractionBytes, Numeral.exponentBytes, Exponent.bytes, List.nil_append,
        List.cons_append] at skipped ⊢
      rw [Skip.afterWhole, if_neg notPoint, skipped]
    | none =>
      cases rest with
      | nil => rfl
      | cons b rest =>
        have notPoint := (ended b rfl).2.1
        have skipped := skip_exponentOrEnd none ended
        simp only [Numeral.fractionBytes, Numeral.exponentBytes, List.nil_append] at skipped ⊢
        rw [Skip.afterWhole, if_neg notPoint, skipped]

end Numerals

namespace Numeral

variable (numeral : Numeral)

theorem settles_number (negative : Bool) : Settles (Scan.number negative) numeral.unsigned := by
  have digits := numeral.whole.digit
  rw [List.forall_mem_cons] at digits
  by_cases zero : numeral.whole.first = Ascii.zero
  · have same ⦃rest : Bytes⦄ (ended : Ended rest) :
        Scan.number negative (numeral.unsigned ++ rest) =
          afterWhole negative ⟨0, 0⟩
            (fractionBytes numeral.fraction ++ exponentBytes numeral.exponent ++ rest) := by
      have stops := stops_fractionBytes numeral.fraction numeral.exponent ended
      rw [unsigned, Digits.bytes, zero, numeral.noLeadingZero zero, List.cons_append,
        List.nil_append, List.cons_append]
      cases tail : fractionBytes numeral.fraction ++ exponentBytes numeral.exponent ++ rest with
      | nil => rfl
      | cons b more =>
        have other := stops b (by rw [tail]; rfl)
        simp only [Scan.number, if_true, other, Bool.false_eq_true, if_false]
    exact (settles_afterWhole _ _).of_eq same
  · have same ⦃rest : Bytes⦄ (ended : Ended rest) :
        Scan.number negative (numeral.unsigned ++ rest) =
          afterWhole negative
            (.collect (Ascii.digitValue numeral.whole.first) numeral.whole.more)
            (fractionBytes numeral.fraction ++ exponentBytes numeral.exponent ++ rest) := by
      have stops := stops_fractionBytes numeral.fraction numeral.exponent ended
      rw [unsigned, Digits.bytes, List.cons_append, List.cons_append, List.append_assoc]
      simp only [Scan.number, if_neg zero, if_pos digits.1, spanDigits_append digits.2 stops]
    exact (settles_afterWhole _ _).of_eq same

/-- The number that is read of the numeral. There is none if it is too large. -/
def number? : Option Number :=
  (Scan.number numeral.negative numeral.unsigned).toOption.map (·.1)

theorem toOption_number {rest : Bytes} (ended : Ended rest) :
    (Scan.number numeral.negative (numeral.unsigned ++ rest)).toOption =
      numeral.number?.map (·, rest) := by
  obtain ⟨result, settled⟩ := numeral.settles_number numeral.negative
  have alone := settled ended_nil
  rw [List.append_nil] at alone
  rw [settled ended, number?, alone, Option.map_map]
  simp [Function.comp_def]

/-- Skipping takes a numeral of any size. -/
theorem skip_number {rest : Bytes} (ended : Ended rest) :
    Skip.number (numeral.unsigned ++ rest) = .ok rest := by
  have digits := numeral.whole.digit
  rw [List.forall_mem_cons] at digits
  have stops := stops_fractionBytes numeral.fraction numeral.exponent ended
  have tail := skip_afterWhole numeral.fraction numeral.exponent ended
  rw [unsigned, Digits.bytes, List.cons_append, List.cons_append, List.append_assoc]
  by_cases zero : numeral.whole.first = Ascii.zero
  · rw [zero, numeral.noLeadingZero zero, List.nil_append]
    cases follows : fractionBytes numeral.fraction ++ exponentBytes numeral.exponent ++ rest with
    | nil =>
      rw [follows] at tail
      exact tail
    | cons b more =>
      have other := stops b (by rw [follows]; rfl)
      rw [follows] at tail
      simp only [Skip.number, if_true, other, Bool.false_eq_true, if_false, tail]
  · have dropped := congrArg Prod.snd (spanDigits_append digits.2 stops)
    simp only [spanDigits] at dropped
    simp only [Skip.number, if_neg zero, if_pos digits.1, dropped, tail]

end Numeral

/-! ## Strings -/

theorem toOption_stringBytes_of_escape {s : Bytes} (failed : (escape s).toOption = none)
    (done : Bytes) : (stringBytes done (Ascii.backslash :: s)).toOption = none := by
  rw [stringBytes, if_neg (by decide), if_pos rfl]
  split
  · rfl
  · next escaped =>
    rw [escaped] at failed
    cases failed

theorem skip_string_of_escape {s after : Bytes} (escaped : Skip.escape s = .ok after) :
    Skip.string (Ascii.backslash :: s) = Skip.string after := by
  rw [Skip.string, if_neg (by decide), if_pos rfl]
  split
  · next fault failed => cases escaped.symm.trans failed
  · next found => cases escaped.symm.trans found; rfl

namespace Letters

theorem exists_hexFour {a b c d : UInt8} (high : (Percent.hexPair? a b).isSome = true)
    (low : (Percent.hexPair? c d).isSome = true) :
    ∃ n, ∀ rest, hexFour (a :: b :: c :: d :: rest) = .ok (n, rest) := by
  obtain ⟨first, high⟩ := Option.isSome_iff_exists.mp high
  obtain ⟨second, low⟩ := Option.isSome_iff_exists.mp low
  refine ⟨first.toNat * 256 + second.toNat, fun rest => ?_⟩
  simp only [hexFour, high, low]

theorem closed_cons (letter : Letter) (letters : Letters) (rest : Bytes) :
    closed (letter :: letters) ++ rest = letter.bytes ++ (closed letters ++ rest) := by
  simp only [closed, List.flatMap_cons, List.append_assoc]

/-- The second half of a character is in the next letter, or it is missing whatever follows. -/
theorem lowSurrogate_closed (high : Nat) (letters : Letters) :
    (∀ rest, (lowSurrogate high (letters.closed ++ rest)).toOption = none) ∨
      ∃ letter more bytes, letters = letter :: more ∧
        ∀ rest, lowSurrogate high (letters.closed ++ rest) = .ok (bytes, closed more ++ rest) := by
  cases letters with
  | nil => exact Or.inl fun rest => rfl
  | cons letter more =>
    cases letter with
    | plain b plain =>
      refine Or.inl fun rest => ?_
      have notBackslash : b ≠ Ascii.backslash := by
        rintro rfl
        cases plain
      simp only [closed_cons, Letter.bytes, List.singleton_append, lowSurrogate,
        if_pos notBackslash]
      rfl
    | short b known =>
      refine Or.inl fun rest => ?_
      have notUnicode : b ≠ Ascii.letterU := by
        rintro rfl
        cases known
      simp only [closed_cons, Letter.bytes, List.cons_append, lowSurrogate, ne_eq,
        not_true_eq_false, if_false, if_pos notUnicode]
      rfl
    | unicode a b c d first second =>
      obtain ⟨low, four⟩ := exists_hexFour first second
      let point := 0x10000 + (high - 0xD800) * 0x400 + (low - 0xDC00)
      have found (rest : Bytes) :
          lowSurrogate high (closed (.unicode a b c d first second :: more) ++ rest) =
            if low < 0xDC00 || 0xDFFF < low then
              .error (.here .loneSurrogate (closed more ++ rest))
            else .ok (String.utf8EncodeChar (Char.ofNat point), closed more ++ rest) := by
        simp only [closed_cons, Letter.bytes, List.cons_append, List.nil_append, lowSurrogate,
          ne_eq, not_true_eq_false, if_false, four, point]
      by_cases lone : (low < 0xDC00 || 0xDFFF < low) = true
      · refine Or.inl fun rest => ?_
        rw [found, if_pos lone]
        rfl
      · have whole (rest : Bytes) := (found rest).trans (if_neg lone)
        exact Or.inr ⟨_, more, _, rfl, whole⟩

/-- An escape is read with letters of its own, or it fails whatever follows. -/
theorem escape_unicode {a b c d : UInt8} (high : (Percent.hexPair? a b).isSome = true)
    (low : (Percent.hexPair? c d).isSome = true) (letters : Letters) :
    (∀ rest, (escape (Ascii.letterU :: a :: b :: c :: d :: (letters.closed ++ rest))).toOption =
      none) ∨
    ∃ (more : Letters) (bytes : Bytes), more.length ≤ letters.length ∧
      ∀ rest, escape (Ascii.letterU :: a :: b :: c :: d :: (letters.closed ++ rest)) =
        .ok (bytes, more.closed ++ rest) := by
  obtain ⟨n, four⟩ := exists_hexFour high low
  have unicode (rest : Bytes) : escape (Ascii.letterU :: a :: b :: c :: d :: rest) =
      if 0xDC00 ≤ n && n ≤ 0xDFFF then .error (.here .loneSurrogate rest)
      else if n < 0xD800 || 0xDBFF < n then .ok (String.utf8EncodeChar (Char.ofNat n), rest)
      else lowSurrogate n rest := by
    have notShort : shortEscape? Ascii.letterU = none := rfl
    simp only [escape, notShort, if_true, unicodeEscape, four]
  by_cases lone : (0xDC00 ≤ n && n ≤ 0xDFFF) = true
  · refine Or.inl fun rest => ?_
    rw [unicode, if_pos lone]
    rfl
  by_cases whole : (n < 0xD800 || 0xDBFF < n) = true
  · refine Or.inr ⟨letters, String.utf8EncodeChar (Char.ofNat n), Nat.le_refl _, fun rest => ?_⟩
    rw [unicode, if_neg lone, if_pos whole]
  · simp only [unicode, if_neg lone, if_neg whole]
    rcases lowSurrogate_closed n letters with missing | ⟨letter, more, bytes, rfl, found⟩
    · exact Or.inl missing
    · exact Or.inr ⟨more, bytes, Nat.le_succ _, found⟩

theorem exists_stringBytes (letters : Letters) (done : Bytes) :
    ∃ result : Option Bytes, ∀ rest,
      (stringBytes done (letters.closed ++ rest)).toOption = result.map (·, rest) := by
  -- Two letters are read at once where they are the halves of one character.
  induction size : letters.length using Nat.strong_induction_on generalizing letters done with
  | h size ih =>
    cases letters with
    | nil =>
      refine ⟨some done.reverse, fun rest => ?_⟩
      have closing : Letters.closed [] ++ rest = Ascii.quote :: rest := rfl
      rw [closing, stringBytes, if_pos rfl]
      rfl
    | cons letter letters =>
      rw [List.length_cons] at size
      cases letter with
      | plain b plain =>
        obtain ⟨result, read⟩ := ih letters.length (by omega) letters (b :: done) rfl
        refine ⟨result, fun rest => ?_⟩
        rw [closed_cons, Letter.bytes, stringBytes_of_plain (List.forall_mem_singleton.mpr plain)]
        exact read rest
      | short b known =>
        obtain ⟨byte, short⟩ := Option.isSome_iff_exists.mp known
        obtain ⟨result, read⟩ := ih letters.length (by omega) letters (byte :: done) rfl
        refine ⟨result, fun rest => ?_⟩
        rw [closed_cons, Letter.bytes, List.cons_append, List.singleton_append,
          stringBytes_of_short short]
        exact read rest
      | unicode a b c d high low =>
        have split (rest : Bytes) : closed (.unicode a b c d high low :: letters) ++ rest =
            Ascii.backslash :: Ascii.letterU :: a :: b :: c :: d :: (closed letters ++ rest) :=
          closed_cons _ letters rest
        rcases escape_unicode high low letters with failed | ⟨more, bytes, shorter, escaped⟩
        · refine ⟨none, fun rest => ?_⟩
          rw [split, toOption_stringBytes_of_escape (failed rest)]
          rfl
        · obtain ⟨result, read⟩ := ih more.length (by omega) more (bytes.reverse ++ done) rfl
          refine ⟨result, fun rest => ?_⟩
          rw [split, stringBytes_of_escape (escaped rest)]
          exact read rest

/-- **Strings.** What a string is scanned to depends on its letters alone. -/
theorem toOption_string (letters : Letters) (rest : Bytes) :
    (Scan.string (letters.closed ++ rest)).toOption = letters.text?.map (·, rest) := by
  obtain ⟨result, read⟩ := letters.exists_stringBytes []
  have decoded (rest : Bytes) : (Scan.string (letters.closed ++ rest)).toOption =
      (result.bind fun bytes => (Utf8.decode? bytes).toOption).map (·, rest) := by
    have scanned := read rest
    rw [Scan.string]
    cases bytes : stringBytes [] (letters.closed ++ rest) with
    | error fault =>
      rw [bytes] at scanned
      cases result with
      | none => rfl
      | some bytes => cases scanned
    | ok found =>
      rw [bytes] at scanned
      cases result with
      | none => cases scanned
      | some bytes =>
        obtain ⟨rfl, rfl⟩ := Prod.mk.inj (Option.some_inj.mp scanned)
        dsimp only [Option.bind_some]
        cases Utf8.decode? found.1 with
        | error broken => rfl
        | ok text => rfl
  have alone := decoded []
  rw [List.append_nil] at alone
  rw [decoded rest, text?, alone, Option.map_map]
  simp [Function.comp_def]

/-- Skipping takes any letters. -/
theorem skip_string (letters : Letters) (rest : Bytes) :
    Skip.string (letters.closed ++ rest) = .ok rest := by
  induction letters with
  | nil =>
    have closing : Letters.closed [] ++ rest = Ascii.quote :: rest := rfl
    rw [closing, Skip.string, if_pos rfl]
  | cons letter letters ih =>
    rw [closed_cons]
    cases letter with
    | plain b plain =>
      simp only [isPlainByte, Bool.and_eq_true, bne_iff_ne, decide_eq_true_eq] at plain
      obtain ⟨⟨notQuote, notBackslash⟩, printable⟩ := plain
      rw [Letter.bytes, List.singleton_append, Skip.string, if_neg notQuote, if_neg notBackslash,
        if_neg (UInt8.not_lt.mpr printable), ih]
    | short b known =>
      have escaped :
          Skip.escape (b :: (closed letters ++ rest)) = .ok (closed letters ++ rest) := by
        rw [Skip.escape, if_pos known]
      rw [Letter.bytes, List.cons_append, List.singleton_append, skip_string_of_escape escaped, ih]
    | unicode a b c d high low =>
      obtain ⟨n, four⟩ := exists_hexFour high low
      have escaped : Skip.escape (Ascii.letterU :: a :: b :: c :: d :: (closed letters ++ rest)) =
          .ok (closed letters ++ rest) := by
        rw [Skip.escape, if_neg (by decide), if_pos rfl, four]
        rfl
      exact (skip_string_of_escape escaped).trans ih

end Letters

end Petstore.Json
