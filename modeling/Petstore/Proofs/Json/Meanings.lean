import Mathlib.Data.List.TakeWhile
import Petstore.Proofs.Json.Spellings
import Petstore.Proofs.Outcomes

/-!
# What phrases mean to readers

A reader means the same by a phrase wherever it is spelled, and takes nothing of what follows it
(`Reader.Means`): it gives a value of its type, or it fails, whatever blanks there are. So its
meaning is a function on phrases, and that of a reader which is built of others comes from theirs.
-/

namespace Petstore.Json

open Scan Phrase

namespace Reader

variable {α β : Type} {reader : Reader α} {meaning : Phrase → Option α} {b : UInt8}
  {token text rest : Bytes} {tokens : List Bytes} {phrase : Phrase}

/-- The reader gives the meaning of each phrase, if it has one, and what follows the phrase. -/
def Means (reader : Reader α) (meaning : Phrase → Option α) : Prop :=
  ∀ (phrase : Phrase) ⦃text : Bytes⦄, Spaced phrase.tokens text → ∀ ⦃rest : Bytes⦄, Ended rest →
    (reader.read (text ++ rest)).toOption = (meaning phrase).map (·, rest)

/-- The value that a phrase has for a reader. -/
def value (reader : Reader α) (phrase : Phrase) : Option α :=
  (reader.read phrase.compact).toOption.map (·.1)

theorem Means.value_eq (means : reader.Means meaning) : reader.value = meaning := by
  funext phrase
  have read := means phrase (.flatten phrase.tokens) ended_nil
  rw [List.append_nil] at read
  rw [Reader.value, compact, read, Option.map_map]
  simp [Function.comp_def]

/-- The reader means the same wherever a phrase is spelled. -/
def Steady (reader : Reader α) : Prop :=
  reader.Means reader.value

theorem Means.steady (means : reader.Means meaning) : reader.Steady := by
  rw [Steady, means.value_eq]
  exact means

/-- **Whole texts.** A text is read for the value of the phrase that it spells. -/
theorem Means.document (means : reader.Means meaning) (spells : phrase.Spells text) :
    (reader.document text).toOption = meaning phrase := by
  obtain ⟨front, blanks, rfl, spaced, blank⟩ := spells
  have nothing : skipBlanks blanks = [] := by
    rw [skipBlanks, List.dropWhile_eq_nil_iff]
    exact blank
  have read := means phrase spaced (ended_of_blanks blank)
  rw [Reader.document]
  cases found : reader.read (front ++ blanks) with
  | error fault =>
    rw [found] at read
    cases meant : meaning phrase with
    | none => rfl
    | some a =>
      rw [meant] at read
      cases read
  | ok result =>
    rw [found] at read
    cases meant : meaning phrase with
    | none =>
      rw [meant] at read
      cases read
    | some a =>
      rw [meant] at read
      obtain rfl := Option.some_inj.mp read
      simp only [nothing]
      rfl

theorem Means.map (means : reader.Means meaning) (f : α → β) :
    (reader.map f).Means fun phrase => (meaning phrase).map f := by
  intro phrase text spaced rest ended
  have read := means phrase spaced ended
  have mapped : ((reader.map f).read (text ++ rest)).toOption =
      (reader.read (text ++ rest)).toOption.map fun found => (f found.1, found.2) := by
    rw [Reader.map]
    dsimp only
    cases reader.read (text ++ rest) with
    | error fault => rfl
    | ok found => rfl
  rw [mapped, read, Option.map_map, Option.map_map]
  rfl

/-! ## Scalars -/

/-- A reader that goes by the first byte gets the first token of the phrase, and what spells the
others. -/
theorem means_of_byFirst {go : UInt8 → Bytes → Scanned α} (goes : reader.read = readByFirst go)
    (each : ∀ (phrase : Phrase) (b : UInt8) (token : Bytes) (tokens : List Bytes),
      phrase.tokens = (b :: token) :: tokens → ∀ more, Spaced tokens more → ∀ rest, Ended rest →
        (go b (token ++ (more ++ rest))).toOption = (meaning phrase).map (·, rest)) :
    reader.Means meaning := by
  intro phrase text spaced rest ended
  obtain ⟨b, token, tokens, split, begun⟩ := phrase.exists_tokens_eq_cons
  have spelled := spaced
  rw [split] at spelled
  obtain ⟨more, others, found⟩ := spelled.exists_skipBlanks (of_begins begun).1
  rw [← each phrase b token tokens split more others rest ended, goes]
  simp only [readByFirst, found]

/-- What the first byte of a numeral is not. -/
theorem numeral_first {numeral : Numeral}
    (split : (Phrase.number numeral).tokens = (b :: token) :: tokens) :
    b ≠ Ascii.letterT ∧ b ≠ Ascii.letterF ∧ b ≠ Ascii.quote ∧ b ≠ Ascii.openBracket ∧
      b ≠ Ascii.openBrace := by
  rw [Phrase.tokens] at split
  cases sign : numeral.negative with
  | true =>
    rw [Numeral.bytes_of_negative sign] at split
    cases split
    decide
  | false =>
    rw [Numeral.bytes_of_unsigned sign, numeral.unsigned_eq_cons] at split
    cases split
    exact ⟨numeral.whole.first_ne (by decide), numeral.whole.first_ne (by decide),
      numeral.whole.first_ne (by decide), numeral.whole.first_ne (by decide),
      numeral.whole.first_ne (by decide)⟩

def booleanValue : Phrase → Option Bool
  | .boolean b => some b
  | _ => none

theorem means_boolean : boolean.Means booleanValue := by
  refine means_of_byFirst rfl fun phrase b token tokens split more spaced rest ended => ?_
  cases phrase with
  | boolean truth =>
    cases truth with
    | true =>
      rw [Phrase.tokens] at split
      cases split
      obtain rfl := spaced.eq_nil
      simp only [if_true, List.nil_append, literal_append]
      rfl
    | false =>
      have other : Ascii.letterF ≠ Ascii.letterT := by decide
      rw [Phrase.tokens] at split
      cases split
      obtain rfl := spaced.eq_nil
      simp only [if_neg other, if_true, List.nil_append, literal_append]
      rfl
  | number numeral =>
    obtain ⟨notTrue, notFalse, -⟩ := numeral_first split
    rw [if_neg notTrue, if_neg notFalse]
    rfl
  | null | string | array | object =>
    rw [Phrase.tokens] at split
    cases split
    rfl

def stringValue : Phrase → Option String
  | .string letters => letters.text?
  | _ => none

theorem means_string : string.Means stringValue := by
  refine means_of_byFirst rfl fun phrase b token tokens split more spaced rest ended => ?_
  cases phrase with
  | string letters =>
    rw [Phrase.tokens, Letters.bytes] at split
    cases split
    obtain rfl := spaced.eq_nil
    rw [if_pos rfl]
    exact letters.toOption_string rest
  | number numeral =>
    obtain ⟨-, -, notQuote, -⟩ := numeral_first split
    rw [if_neg notQuote]
    rfl
  | boolean truth =>
    cases truth <;> (rw [Phrase.tokens] at split; cases split; rfl)
  | null | array | object =>
    rw [Phrase.tokens] at split
    cases split
    rfl

/-- The number, if it is an integer of the range. -/
def integerIn (range : Text.IntRange) : Number → Option Int
  | .integer n => if range.contains n then some n else none
  | .float _ => none

def integerValue (range : Text.IntRange) : Phrase → Option Int
  | .number numeral => numeral.number?.bind (integerIn range)
  | _ => none

theorem toOption_inRange (expected : String) (range : Text.IntRange) {scanned : Scanned Number}
    {number : Option Number} (read : scanned.toOption = number.map (·, rest)) :
    (inRange expected range scanned).toOption = (number.bind (integerIn range)).map (·, rest) := by
  cases scanned with
  | error fault =>
    cases number with
    | none => rfl
    | some number => cases read
  | ok found =>
    cases number with
    | none => cases read
    | some number =>
      obtain rfl := Option.some_inj.mp read
      cases number with
      | float x => rfl
      | integer n =>
        simp only [inRange, Option.bind_some, integerIn]
        split
        · rfl
        · rfl

theorem means_integer (expected : String) (range : Text.IntRange) :
    (integer expected range).Means (integerValue range) := by
  refine means_of_byFirst rfl fun phrase b token tokens split more spaced rest ended => ?_
  cases phrase with
  | number numeral =>
    have read := numeral.toOption_number ended
    rw [Phrase.tokens] at split
    cases sign : numeral.negative with
    | true =>
      rw [Numeral.bytes_of_negative sign] at split
      cases split
      obtain rfl := spaced.eq_nil
      rw [if_pos rfl, List.nil_append]
      rw [sign] at read
      exact toOption_inRange expected range read
    | false =>
      have digit := numeral.whole.digit numeral.whole.first List.mem_cons_self
      rw [sign, numeral.unsigned_eq_cons] at read
      rw [Numeral.bytes_of_unsigned sign, numeral.unsigned_eq_cons] at split
      cases split
      obtain rfl := spaced.eq_nil
      rw [if_neg (numeral.whole.first_ne (by decide)), if_pos digit, List.nil_append]
      exact toOption_inRange expected range read
  | boolean truth =>
    cases truth <;> (rw [Phrase.tokens] at split; cases split; rfl)
  | null | string | array | object =>
    rw [Phrase.tokens] at split
    cases split
    rfl

/-! ## Values that may be absent -/

/-- The meaning of a phrase where it may be `null`. -/
def optionalValue (meaning : Phrase → Option α) : Phrase → Option (Option α)
  | .null => some none
  | phrase => (meaning phrase).map some

theorem ne_letterN_of_tokens (split : phrase.tokens = (b :: token) :: tokens)
    (present : phrase ≠ .null) : b ≠ Ascii.letterN := by
  cases phrase with
  | null => exact absurd rfl present
  | number numeral =>
    rw [Phrase.tokens] at split
    obtain ⟨c, behind, own, opening⟩ := numeral.exists_bytes_eq_cons
    rw [own] at split
    cases split
    exact (of_isOpening opening).2.1
  | boolean truth =>
    cases truth <;> (rw [Phrase.tokens] at split; cases split; decide)
  | string | array | object =>
    rw [Phrase.tokens] at split
    cases split
    decide

theorem optionalValue_of_present (present : phrase ≠ .null) :
    optionalValue meaning phrase = (meaning phrase).map some := by
  cases phrase with
  | null => exact absurd rfl present
  | _ => rfl

theorem Means.optional (means : reader.Means meaning) :
    (Reader.optional reader).Means (optionalValue meaning) := by
  intro phrase text spaced rest ended
  obtain ⟨b, token, tokens, split, begun⟩ := phrase.exists_tokens_eq_cons
  have spelled := spaced
  rw [split] at spelled
  obtain ⟨more, others, found⟩ := spelled.exists_skipBlanks (of_begins begun).1
  by_cases absent : phrase = .null
  · subst absent
    rw [Phrase.tokens] at split
    cases split
    obtain rfl := others.eq_nil
    simp only [Reader.optional, readOptional, found, if_true, List.nil_append, literal_append]
    rfl
  · have stripped := others.cons_of_no_blanks (b :: token)
    rw [← split] at stripped
    have read := (means.map some) phrase stripped ended
    rw [List.append_assoc, List.cons_append] at read
    simp only [Reader.optional, readOptional, found, if_neg (ne_letterN_of_tokens split absent)]
    rw [optionalValue_of_present absent]
    exact read

/-! ## Lists -/

section Elements

variable {first : Bool} {done : List α} {s after : Bytes} {parts : List (List Bytes)}

theorem toOption_elements_of_item (found : nextElement first s = .ok (.item after))
    (failed : (reader.read after).toOption = none) :
    (elements reader first done s).toOption = none := by
  rw [elements]
  split
  · rfl
  · next found' => cases found.symm.trans found'
  · next found' =>
    cases found.symm.trans found'
    split
    · rfl
    · next read =>
      rw [read] at failed
      cases failed

theorem nextElement_closed (spaced : Spaced (separated Ascii.closeBracket first []) text)
    (rest : Bytes) : nextElement first (text ++ rest) = .ok (.close rest) := by
  obtain ⟨more, nothing, found⟩ := spaced.exists_skipBlanks (b := Ascii.closeBracket) rfl
  obtain rfl := nothing.eq_nil
  simp only [nextElement, found, if_true]
  rfl

/-- The next item of a list is found behind its comma, or where it begins. -/
theorem exists_nextElement
    (spaced : Spaced (separated Ascii.closeBracket first (phrase.tokens :: parts)) text) :
    ∃ more, Spaced (phrase.tokens ++ separated Ascii.closeBracket false parts) more ∧
      ∀ rest, nextElement first (text ++ rest) = .ok (.item (more ++ rest)) := by
  obtain ⟨b, token, tokens, split, begun⟩ := phrase.exists_tokens_eq_cons
  obtain ⟨visible, notClose⟩ := of_begins begun
  have item {text : Bytes}
      (spaced : Spaced (phrase.tokens ++ separated Ascii.closeBracket false parts) text) :
      ∃ more, Spaced (phrase.tokens ++ separated Ascii.closeBracket false parts)
          (b :: token ++ more) ∧
        ∀ rest, skipBlanks (text ++ rest) = b :: token ++ more ++ rest := by
    rw [split, List.cons_append] at spaced ⊢
    obtain ⟨more, others, found⟩ := spaced.exists_skipBlanks visible
    refine ⟨more, others.cons_of_no_blanks (b :: token), fun rest => ?_⟩
    rw [found, List.append_assoc, List.cons_append]
  cases first with
  | true =>
    obtain ⟨more, others, found⟩ := item spaced
    refine ⟨_, others, fun rest => ?_⟩
    have found := found rest
    rw [List.append_assoc, List.cons_append] at found ⊢
    simp only [nextElement, found, if_neg notClose, if_true]
  | false =>
    have notEnd : Ascii.comma ≠ Ascii.closeBracket := by decide
    obtain ⟨behind, spaced, comma⟩ := spaced.exists_skipBlanks (b := Ascii.comma) rfl
    obtain ⟨more, others, found⟩ := item spaced
    refine ⟨_, others, fun rest => ?_⟩
    have found := found rest
    rw [List.append_assoc, List.cons_append] at found ⊢
    simp only [nextElement, comma, if_neg notEnd, Bool.false_eq_true, if_false, if_true,
      List.nil_append, found, if_neg notClose]

theorem toOption_elements (means : reader.Means meaning) (items : List Phrase) (first : Bool)
    (done : List α)
    (spaced : Spaced (separated Ascii.closeBracket first (itemTokens items)) text)
    (rest : Bytes) :
    (elements reader first done (text ++ rest)).toOption =
      ((items.mapM meaning).map (done.reverse ++ ·)).map (·, rest) := by
  induction items generalizing first done text with
  | nil =>
    rw [elements_of_close (nextElement_closed spaced rest)]
    simp [Except.toOption]
  | cons item items ih =>
    rw [itemTokens] at spaced
    obtain ⟨more, spaced, found⟩ := exists_nextElement spaced
    obtain ⟨front, back, rfl, spelled, others⟩ := spaced.exists_of_append
    have read := means item spelled (others.ended_separated (Or.inl rfl) rest)
    rw [← List.append_assoc] at read
    cases meant : meaning item with
    | none =>
      rw [meant] at read
      rw [toOption_elements_of_item (found rest) read]
      simp [meant]
    | some a =>
      rw [meant, Option.map_some, toOption_eq_some_iff] at read
      rw [elements_of_item (found rest) read, ih false (a :: done) others]
      cases each : items.mapM meaning with
      | none => simp [meant, each]
      | some values => simp [meant, each]

end Elements

def listValue (meaning : Phrase → Option α) : Phrase → Option (List α)
  | .array items => items.mapM meaning
  | _ => none

theorem Means.list (means : reader.Means meaning) :
    (Reader.list reader).Means (listValue meaning) := by
  refine means_of_byFirst rfl fun phrase b token tokens split more spaced rest ended => ?_
  cases phrase with
  | array items =>
    rw [Phrase.tokens] at split
    cases split
    rw [if_pos rfl, List.nil_append, toOption_elements means items true [] spaced rest]
    simp [listValue]
  | number numeral =>
    obtain ⟨-, -, -, notBracket, -⟩ := numeral_first split
    rw [if_neg notBracket]
    rfl
  | boolean truth =>
    cases truth <;> (rw [Phrase.tokens] at split; cases split; rfl)
  | null | string | object =>
    rw [Phrase.tokens] at split
    cases split
    rfl

end Reader

end Petstore.Json
