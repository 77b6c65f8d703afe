import Petstore.Proofs.Json.Scanning

/-!
# Phrases

A phrase is a JSON value as it is written, down to the digits of its numbers and the escapes of its
strings: everything but the blanks. It can be no other than well-formed, since a numeral, a letter
of a string and so on carry the proofs that they are. A phrase is a sequence of tokens, and a text
spells it (`Spaced`) if blanks, or nothing, come before each of them.
-/

namespace Petstore.Json

open Scan

/-! ## Numerals -/

/-- Decimal digits, at least one. -/
structure Digits where
  first : UInt8
  more : Bytes
  digit : ∀ b ∈ first :: more, Ascii.isDigit b = true

def Digits.bytes (digits : Digits) : Bytes :=
  digits.first :: digits.more

/-- The part of a numeral that scales it by a power of ten. -/
structure Exponent where
  letter : UInt8
  sign : Option UInt8
  digits : Digits
  isLetter : Ascii.isExponent letter = true
  isSign : ∀ b ∈ sign, b = Ascii.minus ∨ b = Ascii.plus

def Exponent.bytes (exponent : Exponent) : Bytes :=
  exponent.letter :: (exponent.sign.toList ++ exponent.digits.bytes)

/-- A number as it is written. Zero is the only whole number that begins with a zero. -/
structure Numeral where
  negative : Bool
  whole : Digits
  fraction : Option Digits
  exponent : Option Exponent
  noLeadingZero : whole.first = Ascii.zero → whole.more = []

namespace Numeral

/-- An exponent, or nothing. -/
def exponentBytes : Option Exponent → Bytes
  | some exponent => exponent.bytes
  | none => []

/-- A fraction behind its point, or nothing. -/
def fractionBytes : Option Digits → Bytes
  | some digits => Ascii.point :: digits.bytes
  | none => []

/-- The numeral without its sign. -/
def unsigned (numeral : Numeral) : Bytes :=
  numeral.whole.bytes ++ (fractionBytes numeral.fraction ++ exponentBytes numeral.exponent)

def bytes (numeral : Numeral) : Bytes :=
  if numeral.negative then Ascii.minus :: numeral.unsigned else numeral.unsigned

theorem unsigned_eq_cons (numeral : Numeral) :
    numeral.unsigned = numeral.whole.first :: (numeral.whole.more ++
      (fractionBytes numeral.fraction ++ exponentBytes numeral.exponent)) := rfl

theorem bytes_of_negative {numeral : Numeral} (negative : numeral.negative = true) :
    numeral.bytes = Ascii.minus :: numeral.unsigned := by
  rw [bytes, negative, if_pos rfl]

theorem bytes_of_unsigned {numeral : Numeral} (unsigned : numeral.negative = false) :
    numeral.bytes = numeral.unsigned := by
  rw [bytes, unsigned, if_neg Bool.false_ne_true]

end Numeral

/-! ## Strings -/

/-- One byte of a string as it is written, or one escape. -/
inductive Letter where
  | plain (b : UInt8) (plain : isPlainByte b = true)
  | short (b : UInt8) (known : (shortEscape? b).isSome = true)
  | unicode (a b c d : UInt8) (high : (Percent.hexPair? a b).isSome = true)
      (low : (Percent.hexPair? c d).isSome = true)

def Letter.bytes : Letter → Bytes
  | .plain b _ => [b]
  | .short b _ => [Ascii.backslash, b]
  | .unicode a b c d _ _ => [Ascii.backslash, Ascii.letterU, a, b, c, d]

/-- A string as it is written, without its quotes. -/
abbrev Letters := List Letter

namespace Letters

/-- The letters that stand for bytes without escapes. Bytes that have to be escaped are left out. -/
def plain (bytes : Bytes) : Letters :=
  bytes.filterMap fun b => if plain : isPlainByte b = true then some (.plain b plain) else none

/-- The bytes behind the opening quote. -/
def closed (letters : Letters) : Bytes :=
  letters.flatMap Letter.bytes ++ [Ascii.quote]

def bytes (letters : Letters) : Bytes :=
  Ascii.quote :: letters.closed

/-- The text that the letters stand for. There is none if they are no UTF-8, or if one escape gives
half a character. -/
def text? (letters : Letters) : Option String :=
  (Scan.string letters.closed).toOption.map (·.1)

end Letters

/-! ## Values -/

/-- A value as it is written, without blanks. -/
inductive Phrase where
  | null
  | boolean (b : Bool)
  | number (numeral : Numeral)
  | string (letters : Letters)
  | array (items : List Phrase)
  | object (members : List (Letters × Phrase))

namespace Phrase

/-- The parts of a list or an object from one of its turns on, between commas, and the byte that
closes it. At the first turn no comma comes before them. -/
def separated (close : UInt8) : Bool → List (List Bytes) → List Bytes
  | _, [] => [[close]]
  | true, part :: parts => part ++ separated close false parts
  | false, part :: parts => [Ascii.comma] :: (part ++ separated close false parts)

theorem separated_ne_nil (close : UInt8) (first : Bool) (parts : List (List Bytes)) :
    separated close first parts ≠ [] := by
  cases parts with
  | nil => exact List.cons_ne_nil _ _
  | cons part parts =>
    cases first with
    | false => exact List.cons_ne_nil _ _
    | true => exact List.append_ne_nil_of_right_ne_nil _ (separated_ne_nil close false parts)

mutual

/-- The tokens of a phrase, in order. -/
def tokens : Phrase → List Bytes
  | .null => [Ascii.letterN :: nullTail]
  | .boolean true => [Ascii.letterT :: trueTail]
  | .boolean false => [Ascii.letterF :: falseTail]
  | .number numeral => [numeral.bytes]
  | .string letters => [letters.bytes]
  | .array items => [Ascii.openBracket] :: separated Ascii.closeBracket true (itemTokens items)
  | .object members => [Ascii.openBrace] :: separated Ascii.closeBrace true (memberTokens members)

/-- The tokens of the items. -/
def itemTokens : List Phrase → List (List Bytes)
  | [] => []
  | item :: items => tokens item :: itemTokens items

/-- The tokens of the members: a name, a colon and those of a value. -/
def memberTokens : List (Letters × Phrase) → List (List Bytes)
  | [] => []
  | (name, value) :: members =>
    (name.bytes :: [Ascii.colon] :: tokens value) :: memberTokens members

end

theorem itemTokens_eq_map (items : List Phrase) : itemTokens items = items.map tokens := by
  induction items with
  | nil => rfl
  | cons item items ih => rw [itemTokens, ih, List.map_cons]

theorem memberTokens_eq_map (members : List (Letters × Phrase)) :
    memberTokens members =
      members.map fun member => member.1.bytes :: [Ascii.colon] :: member.2.tokens := by
  induction members with
  | nil => rfl
  | cons member members ih => rw [memberTokens, ih, List.map_cons]

/-- Induction over the items of lists and the values of objects. -/
@[elab_as_elim]
theorem byParts {motive : Phrase → Prop} (null : motive .null)
    (boolean : ∀ b, motive (.boolean b)) (number : ∀ numeral, motive (.number numeral))
    (string : ∀ letters, motive (.string letters))
    (array : ∀ items, (∀ item ∈ items, motive item) → motive (.array items))
    (object : ∀ members, (∀ member ∈ members, motive member.2) → motive (.object members)) :
    ∀ phrase, motive phrase
  | .null => null
  | .boolean b => boolean b
  | .number numeral => number numeral
  | .string letters => string letters
  | .array items =>
    array items fun item _inside => byParts null boolean number string array object item
  | .object members =>
    object members fun (_, value) _inside => byParts null boolean number string array object value
decreasing_by
  · have := List.sizeOf_lt_of_mem _inside
    simp only [Phrase.array.sizeOf_spec]
    omega
  · have := List.sizeOf_lt_of_mem _inside
    simp only [Prod.mk.sizeOf_spec, Phrase.object.sizeOf_spec] at this ⊢
    omega

/-- The text without any blanks. -/
def compact (phrase : Phrase) : Bytes :=
  phrase.tokens.flatten

/-- The value is a list or an object. -/
def isCompound : Phrase → Bool
  | .array _ | .object _ => true
  | _ => false

end Phrase

/-! ## Spellings -/

/-- The text consists of the tokens, each behind any blanks. -/
inductive Spaced : List Bytes → Bytes → Prop
  | nil : Spaced [] []
  | cons {blanks token text : Bytes} {tokens : List Bytes} :
    (∀ b ∈ blanks, Ascii.isBlank b = true) → Spaced tokens text →
      Spaced (token :: tokens) (blanks ++ (token ++ text))

namespace Spaced

variable {b : UInt8} {token text : Bytes} {tokens others : List Bytes}

theorem flatten (tokens : List Bytes) : Spaced tokens tokens.flatten := by
  induction tokens with
  | nil => exact .nil
  | cons token tokens ih =>
    have none : ∀ b ∈ ([] : Bytes), Ascii.isBlank b = true := fun _ inside => nomatch inside
    exact .cons none ih

theorem eq_nil (spaced : Spaced [] text) : text = [] := by
  cases spaced with
  | nil => rfl

theorem append {text' : Bytes} (spaced : Spaced tokens text) (spaced' : Spaced others text') :
    Spaced (tokens ++ others) (text ++ text') := by
  induction spaced with
  | nil => exact spaced'
  | cons blank _ ih =>
    rw [List.append_assoc, List.append_assoc]
    exact .cons blank ih

theorem exists_of_append (spaced : Spaced (tokens ++ others) text) :
    ∃ front back, text = front ++ back ∧ Spaced tokens front ∧ Spaced others back := by
  induction tokens generalizing text with
  | nil => exact ⟨[], text, rfl, .nil, spaced⟩
  | cons token tokens ih =>
    cases spaced with
    | @cons blanks _ text _ blank spaced =>
      obtain ⟨front, back, rfl, first, second⟩ := ih spaced
      exact ⟨blanks ++ (token ++ front), back, by simp only [List.append_assoc],
        .cons blank first, second⟩

end Spaced

/-- The text spells the phrase, with or without blanks behind it. -/
def Phrase.Spells (phrase : Phrase) (text : Bytes) : Prop :=
  ∃ front blanks, text = front ++ blanks ∧ Spaced phrase.tokens front ∧
    ∀ b ∈ blanks, Ascii.isBlank b = true

theorem Phrase.spells_compact (phrase : Phrase) : phrase.Spells phrase.compact :=
  ⟨phrase.compact, [], (List.append_nil _).symm, .flatten _, fun _ inside => nomatch inside⟩

end Petstore.Json
