import Petstore.Proofs.Json.Records
import Petstore.Proofs.Json.Tokens

/-!
# Spelled phrases

The first byte of a phrase tells what comes, and behind the blanks the rest of its tokens is spelled
by the rest of the text. So the parts of a list or an object are found one after the other, and any
phrase can be skipped, however deep it is (`Phrase.skips`).
-/

namespace Petstore.Json

open Scan Phrase

variable {b : UInt8} {token text rest : Bytes} {tokens : List Bytes} {parts : List (List Bytes)}

/-! ## First bytes -/

/-- The byte begins a value. -/
def begins (b : UInt8) : Bool :=
  isOpening b || b == Ascii.letterN

theorem of_begins (begun : begins b = true) :
    Ascii.isBlank b = false ∧ b ≠ Ascii.closeBracket := by
  rw [begins, Bool.or_eq_true, beq_iff_eq] at begun
  rcases begun with opening | rfl
  · obtain ⟨visible, -, notClose⟩ := of_isOpening opening
    exact ⟨visible, notClose⟩
  · decide

theorem Numeral.exists_bytes_eq_cons (numeral : Numeral) :
    ∃ b token, numeral.bytes = b :: token ∧ isOpening b = true := by
  have digit := numeral.whole.digit numeral.whole.first List.mem_cons_self
  rw [Numeral.bytes]
  cases numeral.negative with
  | true => exact ⟨_, _, rfl, rfl⟩
  | false => exact ⟨_, _, rfl, Reader.isOpening_of_isDigit digit⟩

theorem Phrase.exists_tokens_eq_cons (phrase : Phrase) :
    ∃ b token tokens, phrase.tokens = (b :: token) :: tokens ∧ begins b = true := by
  cases phrase with
  | null => exact ⟨_, _, _, by rw [Phrase.tokens], rfl⟩
  | boolean b =>
    cases b with
    | true => exact ⟨_, _, _, by rw [Phrase.tokens], rfl⟩
    | false => exact ⟨_, _, _, by rw [Phrase.tokens], rfl⟩
  | number numeral =>
    obtain ⟨b, token, split, opening⟩ := numeral.exists_bytes_eq_cons
    exact ⟨b, token, [], by rw [Phrase.tokens, split], by rw [begins, opening, Bool.true_or]⟩
  | string letters => exact ⟨_, _, _, by rw [Phrase.tokens, Letters.bytes], rfl⟩
  | array items => exact ⟨_, _, _, by rw [Phrase.tokens], rfl⟩
  | object members => exact ⟨_, _, _, by rw [Phrase.tokens], rfl⟩

/-! ## Behind the blanks -/

/-- Blanks cannot belong to a number. -/
theorem other_of_isBlank (blank : Ascii.isBlank b = true) :
    Ascii.isDigit b = false ∧ b ≠ Ascii.point ∧ Ascii.isExponent b = false := by
  simp only [Ascii.isBlank, Bool.or_eq_true, beq_iff_eq] at blank
  rcases blank with ((rfl | rfl) | rfl) | rfl <;> decide

theorem ended_of_blanks {blanks : Bytes} (blank : ∀ b ∈ blanks, Ascii.isBlank b = true) :
    Ended blanks :=
  fun b first => other_of_isBlank (blank b (List.mem_of_mem_head? first))

namespace Spaced

theorem cons_of_no_blanks (spaced : Spaced tokens text) (token : Bytes) :
    Spaced (token :: tokens) (token ++ text) := by
  have none : ∀ b ∈ ([] : Bytes), Ascii.isBlank b = true := fun _ inside => nomatch inside
  exact .cons none spaced

theorem exists_skipBlanks (spaced : Spaced ((b :: token) :: tokens) text)
    (visible : Ascii.isBlank b = false) :
    ∃ more, Spaced tokens more ∧
      ∀ rest, skipBlanks (text ++ rest) = b :: (token ++ (more ++ rest)) := by
  cases spaced with
  | @cons blanks _ more _ blank spaced =>
    refine ⟨more, spaced, fun rest => ?_⟩
    rw [List.append_assoc, skipBlanks, List.dropWhile_append_of_pos blank, List.append_assoc]
    exact skipBlanks_cons visible _

theorem ended (spaced : Spaced ((b :: token) :: tokens) text)
    (other : Ascii.isDigit b = false ∧ b ≠ Ascii.point ∧ Ascii.isExponent b = false)
    (rest : Bytes) : Ended (text ++ rest) := by
  cases spaced with
  | @cons blanks _ more _ blank spaced =>
    cases blanks with
    | nil => exact ended_cons other _
    | cons c blanks =>
      exact ended_cons (other_of_isBlank (blank c List.mem_cons_self)) _

theorem ended_separated {close : UInt8}
    (closes : close = Ascii.closeBracket ∨ close = Ascii.closeBrace)
    (spaced : Spaced (separated close false parts) text) (rest : Bytes) :
    Ended (text ++ rest) := by
  cases parts with
  | nil =>
    rcases closes with rfl | rfl
    · exact ended spaced (by decide) rest
    · exact ended spaced (by decide) rest
  | cons part parts => exact ended spaced (by decide) rest

theorem exists_colon (spaced : Spaced ([Ascii.colon] :: tokens) text) :
    ∃ more, Spaced tokens more ∧ ∀ rest, Skip.colon (text ++ rest) = .ok (more ++ rest) := by
  obtain ⟨more, spaced, found⟩ := spaced.exists_skipBlanks rfl
  refine ⟨more, spaced, fun rest => ?_⟩
  simp only [Skip.colon, found, if_true]
  rfl

end Spaced

/-! ## Skipping -/

namespace Skip

variable {frame : Frame} {frames : List Frame} {s next : Bytes}

theorem run_scalar (found : skipBlanks s = b :: rest) (scanned : scalar? b rest = some (.ok next)) :
    run .value frames s = run .after frames next := by
  rw [run]
  split
  · next none => cases found.symm.trans none
  · next found' =>
    cases found.symm.trans found'
    split
    · next failed => cases scanned.symm.trans failed
    · next scanned' => cases scanned.symm.trans scanned'; rfl
    · next none => cases scanned.symm.trans none

theorem run_open (found : skipBlanks s = b :: rest) (noScalar : scalar? b rest = none)
    (opens : opens? b = some frame) :
    run .value frames s = run .opened (frame :: frames) rest := by
  rw [run]
  split
  · next none => cases found.symm.trans none
  · next found' =>
    cases found.symm.trans found'
    split
    · next failed => cases noScalar.symm.trans failed
    · next scanned => cases noScalar.symm.trans scanned
    · simp only [opens]

theorem run_first (found : skipBlanks s = b :: rest) (notClose : b ≠ frame.close)
    (begun : element frame (b :: rest) = .ok next) :
    run .opened (frame :: frames) s = run .value (frame :: frames) next := by
  conv_lhs => rw [run]
  split
  · next none => cases found.symm.trans none
  · next found' =>
    cases found.symm.trans found'
    rw [if_neg notClose]
    split
    · next failed => cases begun.symm.trans failed
    · next begun' => cases begun.symm.trans begun'; rfl

theorem run_next (found : skipBlanks s = Ascii.comma :: rest)
    (begun : element frame rest = .ok next) :
    run .after (frame :: frames) s = run .value (frame :: frames) next := by
  conv_lhs => rw [run]
  split
  · next none => cases found.symm.trans none
  · next found' =>
    cases found.symm.trans found'
    rw [if_pos rfl]
    split
    · next failed => cases begun.symm.trans failed
    · next begun' => cases begun.symm.trans begun'; rfl

theorem run_close (turn : Bool) (found : skipBlanks s = frame.close :: rest) :
    run (if turn then .opened else .after) (frame :: frames) s = run .after frames rest := by
  have notComma : frame.close ≠ Ascii.comma := by cases frame <;> decide
  cases turn with
  | true =>
    rw [if_pos rfl, run]
    split
    · next none => cases found.symm.trans none
    · next found' =>
      cases found.symm.trans found'
      rw [if_pos rfl]
  | false =>
    rw [if_neg Bool.false_ne_true, run]
    split
    · next none => cases found.symm.trans none
    · next found' =>
      cases found.symm.trans found'
      rw [if_neg notComma, if_pos rfl]

/-! ### Parts of lists and objects -/

/-- What stands between the brackets: items, or members. -/
abbrev Frame.Part : Frame → Type
  | .list => Phrase
  | .object => Letters × Phrase

def Frame.partTokens : (frame : Frame) → frame.Part → List Bytes
  | .list, item => Phrase.tokens item
  | .object, (name, value) => name.bytes :: [Ascii.colon] :: value.tokens

def Frame.partValue : (frame : Frame) → frame.Part → Phrase
  | .list, item => item
  | .object, (_, value) => value

/-- The phrase that consists of the parts. -/
def Frame.enclosing : (frame : Frame) → List frame.Part → Phrase
  | .list, items => .array items
  | .object, members => .object members

theorem tokens_enclosing (opens : opens? b = some frame) (parts : List frame.Part) :
    (frame.enclosing parts).tokens =
      [b] :: separated frame.close true (parts.map frame.partTokens) := by
  rw [opens?] at opens
  split at opens
  · next bracket =>
    obtain rfl := Option.some_inj.mp opens
    rw [Frame.enclosing, Phrase.tokens, itemTokens_eq_map, bracket]
    rfl
  split at opens
  · next brace =>
    obtain rfl := Option.some_inj.mp opens
    rw [Frame.enclosing, Phrase.tokens, memberTokens_eq_map, brace]
    rfl
  · cases opens

theorem exists_partTokens_eq_cons (part : frame.Part) :
    ∃ b token tokens, frame.partTokens part = (b :: token) :: tokens ∧
      Ascii.isBlank b = false ∧ b ≠ frame.close := by
  cases frame with
  | list =>
    obtain ⟨b, token, tokens, split, begun⟩ := Phrase.exists_tokens_eq_cons part
    exact ⟨b, token, tokens, split, of_begins begun⟩
  | object => exact ⟨_, _, _, by rw [Frame.partTokens, Letters.bytes], by decide⟩

/-- The value of a part is found where the part begins, in an object behind a name and a colon. -/
theorem exists_element (part : frame.Part)
    (spaced : Spaced (frame.partTokens part ++ tokens) text) :
    ∃ more, Spaced ((frame.partValue part).tokens ++ tokens) more ∧
      ∀ rest, element frame (text ++ rest) = .ok (more ++ rest) := by
  cases frame with
  | list => exact ⟨text, spaced, fun _ => rfl⟩
  | object =>
    obtain ⟨name, value⟩ := part
    obtain ⟨behind, spaced, found⟩ := spaced.exists_skipBlanks (b := Ascii.quote) rfl
    obtain ⟨more, spaced, coloned⟩ := spaced.exists_colon
    refine ⟨more, spaced, fun rest => ?_⟩
    simp only [Skip.element, found, if_true, name.skip_string, coloned]

end Skip

/-- Wherever a value is expected, the phrase is taken for one, and nothing of what follows it. -/
def Phrase.Skips (phrase : Phrase) : Prop :=
  ∀ ⦃text : Bytes⦄, Spaced phrase.tokens text → ∀ (frames : List Skip.Frame) ⦃rest : Bytes⦄,
    Ended rest → Skip.run .value frames (text ++ rest) = Skip.run .after frames rest

namespace Skip

theorem skips_of_scalar {phrase : Phrase} (single : phrase.tokens = [b :: token])
    (visible : Ascii.isBlank b = false)
    (scanned : ∀ ⦃rest : Bytes⦄, Ended rest → scalar? b (token ++ rest) = some (.ok rest)) :
    phrase.Skips := by
  intro text spaced frames rest ended
  rw [single] at spaced
  obtain ⟨more, nothing, found⟩ := spaced.exists_skipBlanks visible
  obtain rfl := nothing.eq_nil
  exact run_scalar (found rest) (scanned ended)

theorem scalar?_digits (digits : Digits) (rest : Bytes) :
    scalar? digits.first rest = some (number (digits.first :: rest)) := by
  have digit := digits.digit digits.first List.mem_cons_self
  rw [scalar?, if_neg (digits.first_ne (by decide)), if_neg (digits.first_ne (by decide)),
    if_neg (digits.first_ne (by decide)), if_neg (digits.first_ne (by decide)), if_pos digit]

theorem skips_number (numeral : Numeral) : (Phrase.number numeral).Skips := by
  cases sign : numeral.negative with
  | true =>
    have signed := Numeral.bytes_of_negative sign
    refine skips_of_scalar (by rw [tokens, signed]) rfl fun rest ended => ?_
    exact congrArg some (numeral.skip_number ended)
  | false =>
    have split := (Numeral.bytes_of_unsigned sign).trans numeral.unsigned_eq_cons
    have visible := (of_isOpening (Reader.isOpening_of_isDigit
      (numeral.whole.digit numeral.whole.first List.mem_cons_self))).1
    refine skips_of_scalar (by rw [tokens, split]) visible fun rest ended => ?_
    rw [scalar?_digits]
    exact congrArg some (numeral.skip_number ended)

/-- The parts of a list or an object are skipped one after the other. -/
theorem run_separated {frame : Frame} {parts : List frame.Part}
    (each : ∀ part ∈ parts, (frame.partValue part).Skips) (first : Bool)
    (spaced : Spaced (separated frame.close first (parts.map frame.partTokens)) text)
    (frames : List Frame) (rest : Bytes) :
    run (if first then .opened else .after) (frame :: frames) (text ++ rest) =
      run .after frames rest := by
  have closes : frame.close = Ascii.closeBracket ∨ frame.close = Ascii.closeBrace := by
    cases frame with
    | list => exact Or.inl rfl
    | object => exact Or.inr rfl
  induction parts generalizing first text with
  | nil =>
    have visible : Ascii.isBlank frame.close = false := by cases frame <;> rfl
    obtain ⟨more, nothing, found⟩ := spaced.exists_skipBlanks visible
    obtain rfl := nothing.eq_nil
    exact run_close first (found rest)
  | cons part parts ih =>
    rw [List.forall_mem_cons] at each
    obtain ⟨skips, each⟩ := each
    -- Both turns come to the value of the part, from behind its comma or from where it begins.
    have valued {text : Bytes} (spaced : Spaced (frame.partTokens part ++
        separated frame.close false (parts.map frame.partTokens)) text) :
        ∃ next, element frame (text ++ rest) = .ok next ∧
          run .value (frame :: frames) next = run .after frames rest := by
      obtain ⟨more, spaced, begun⟩ := exists_element part spaced
      obtain ⟨front, back, rfl, spelled, others⟩ := spaced.exists_of_append
      refine ⟨_, begun rest, ?_⟩
      rw [List.append_assoc, skips spelled _ (others.ended_separated closes rest)]
      exact ih each false others
    rw [List.map_cons] at spaced
    cases first with
    | true =>
      rw [separated] at spaced
      obtain ⟨b, token, tokens, split, visible, notClose⟩ := exists_partTokens_eq_cons part
      have spelled := spaced
      rw [split, List.cons_append] at spelled
      obtain ⟨more, spelled, found⟩ := spelled.exists_skipBlanks visible
      have stripped := spelled.cons_of_no_blanks (b :: token)
      rw [← List.cons_append, ← split] at stripped
      obtain ⟨next, begun, skipped⟩ := valued stripped
      rw [List.append_assoc] at begun
      exact (run_first (found rest) notClose begun).trans skipped
    | false =>
      rw [separated] at spaced
      obtain ⟨more, spaced, found⟩ := spaced.exists_skipBlanks rfl
      obtain ⟨next, begun, skipped⟩ := valued spaced
      exact (run_next (found rest) begun).trans skipped

theorem of_opens {frame : Frame} (opens : opens? b = some frame) :
    Ascii.isBlank b = false ∧ ∀ rest, scalar? b rest = none := by
  unfold opens? at opens
  split at opens
  · next bracket => exact bracket ▸ ⟨rfl, fun _ => rfl⟩
  split at opens
  · next brace => exact brace ▸ ⟨rfl, fun _ => rfl⟩
  · cases opens

/-- A list or an object is skipped from its bracket to the closing one. -/
theorem skips_enclosing {frame : Frame} (opens : opens? b = some frame) {parts : List frame.Part}
    (each : ∀ part ∈ parts, (frame.partValue part).Skips) : (frame.enclosing parts).Skips := by
  intro text spaced frames rest _
  rw [tokens_enclosing opens] at spaced
  obtain ⟨visible, noScalar⟩ := of_opens opens
  obtain ⟨more, spaced, found⟩ := spaced.exists_skipBlanks visible
  rw [run_open (found rest) (noScalar _) opens]
  exact run_separated each true spaced frames rest

end Skip

/-- **Skipping.** Every phrase can be skipped. -/
theorem Phrase.skips (phrase : Phrase) : phrase.Skips := by
  induction phrase using Phrase.byParts with
  | null =>
    refine Skip.skips_of_scalar (by rw [tokens]) rfl fun rest _ => ?_
    exact congrArg some (Reader.literal_append nullTail rest)
  | boolean b =>
    cases b with
    | true =>
      refine Skip.skips_of_scalar (by rw [tokens]) rfl fun rest _ => ?_
      exact congrArg some (Reader.literal_append trueTail rest)
    | false =>
      refine Skip.skips_of_scalar (by rw [tokens]) rfl fun rest _ => ?_
      exact congrArg some (Reader.literal_append falseTail rest)
  | number numeral => exact Skip.skips_number numeral
  | string letters =>
    refine Skip.skips_of_scalar (by rw [tokens, Letters.bytes]) rfl fun rest _ => ?_
    exact congrArg some (letters.skip_string rest)
  | array items ih => exact @Skip.skips_enclosing Ascii.openBracket .list rfl items ih
  | object members ih => exact @Skip.skips_enclosing Ascii.openBrace .object rfl members ih

theorem Phrase.skip_value (phrase : Phrase) (spaced : Spaced phrase.tokens text)
    (ended : Ended rest) : Skip.value (text ++ rest) = .ok rest := by
  rw [Skip.value, phrase.skips spaced [] ended, Skip.run]

end Petstore.Json
