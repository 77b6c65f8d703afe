import Mathlib.Data.List.TakeWhile
import Petstore.Proofs.Json.Spellings

/-!
# Texts that can be skipped

What was skipped spells a phrase. The parts of a list or an object are put together again from the
last one to the first: what comes behind a value closes the frames that are still open, each with
the rest of its parts (`Skip.Closes`, `Skip.completes_of_run`). Since every phrase can be skipped as
well, phrases are all the texts that are JSON (`exists_spells_iff`).
-/

namespace Petstore.Json

open Scan Phrase

variable {b : UInt8} {token s next rest : Bytes} {tokens others : List Bytes}

/-! ## Numerals -/

theorem exists_digits (digit : Ascii.isDigit b = true) (s : Bytes) :
    ∃ digits : Digits, digits.first = b ∧
      b :: s = digits.bytes ++ s.dropWhile Ascii.isDigit := by
  have all : ∀ d ∈ b :: s.takeWhile Ascii.isDigit, Ascii.isDigit d = true :=
    List.forall_mem_cons.mpr ⟨digit, fun d inside => List.mem_takeWhile_imp inside⟩
  refine ⟨⟨b, _, all⟩, rfl, ?_⟩
  rw [Digits.bytes, List.cons_append, List.takeWhile_append_dropWhile]

theorem exists_sign (s : Bytes) :
    ∃ sign : Option UInt8, (∀ b ∈ sign, b = Ascii.minus ∨ b = Ascii.plus) ∧
      s = sign.toList ++ (exponentSign s).2 := by
  cases s with
  | nil => exact ⟨none, nofun, rfl⟩
  | cons b s =>
    rw [exponentSign]
    split
    · next minus => exact ⟨some b, fun _ own => Or.inl (Option.some_inj.mp own ▸ minus), rfl⟩
    split
    · next plus => exact ⟨some b, fun _ own => Or.inr (Option.some_inj.mp own ▸ plus), rfl⟩
    · exact ⟨none, nofun, rfl⟩

namespace Skip

theorem exists_exponent (letter : Ascii.isExponent b = true) (skipped : exponent s = .ok rest) :
    ∃ found : Exponent, b :: s = found.bytes ++ rest := by
  obtain ⟨sign, isSign, split⟩ := exists_sign s
  rw [exponent] at skipped
  cases behind : (exponentSign s).2 with
  | nil =>
    rw [behind] at skipped
    cases skipped
  | cons d more =>
    simp only [behind] at skipped
    split at skipped
    · next digit =>
      obtain ⟨digits, -, same⟩ := exists_digits digit more
      obtain rfl := Except.ok.inj skipped
      refine ⟨⟨b, sign, digits, letter, isSign⟩, ?_⟩
      rw [Exponent.bytes, List.cons_append, List.append_assoc, ← same, ← behind, ← split]
    · cases skipped

theorem exists_exponentOrEnd (skipped : exponentOrEnd s = .ok rest) :
    ∃ found : Option Exponent, s = Numeral.exponentBytes found ++ rest := by
  cases s with
  | nil =>
    obtain rfl := Except.ok.inj skipped
    exact ⟨none, rfl⟩
  | cons b s =>
    rw [exponentOrEnd] at skipped
    split at skipped
    · next letter =>
      obtain ⟨found, same⟩ := exists_exponent letter skipped
      exact ⟨some found, same⟩
    · obtain rfl := Except.ok.inj skipped
      exact ⟨none, rfl⟩

theorem exists_fraction (skipped : fraction s = .ok rest) :
    ∃ (digits : Digits) (found : Option Exponent),
      s = digits.bytes ++ (Numeral.exponentBytes found ++ rest) := by
  have together : s.takeWhile Ascii.isDigit ++ s.dropWhile Ascii.isDigit = s :=
    List.takeWhile_append_dropWhile
  rw [fraction, spanDigits] at skipped
  cases front : s.takeWhile Ascii.isDigit with
  | nil =>
    rw [front] at skipped
    cases skipped
  | cons d more =>
    rw [front] at skipped together
    have all : ∀ d' ∈ d :: more, Ascii.isDigit d' = true := fun d' inside =>
      List.mem_takeWhile_imp (front ▸ inside)
    obtain ⟨found, same⟩ := exists_exponentOrEnd skipped
    refine ⟨⟨d, more, all⟩, found, ?_⟩
    rw [Digits.bytes, ← same, together]

theorem exists_afterWhole (skipped : afterWhole s = .ok rest) :
    ∃ (digits : Option Digits) (found : Option Exponent),
      s = Numeral.fractionBytes digits ++ (Numeral.exponentBytes found ++ rest) := by
  cases s with
  | nil =>
    obtain rfl := Except.ok.inj skipped
    exact ⟨none, none, rfl⟩
  | cons b s =>
    rw [afterWhole] at skipped
    split at skipped
    · next point =>
      obtain ⟨digits, found, same⟩ := exists_fraction skipped
      refine ⟨some digits, found, ?_⟩
      rw [point, same]
      rfl
    · obtain ⟨found, same⟩ := exists_exponentOrEnd skipped
      exact ⟨none, found, same⟩

theorem exists_numeral (negative : Bool) (skipped : number s = .ok rest) :
    ∃ numeral : Numeral, numeral.negative = negative ∧ s = numeral.unsigned ++ rest := by
  -- The whole digits are put in front of what comes behind them.
  have whole (digits : Digits) (noLeadingZero : digits.first = Ascii.zero → digits.more = [])
      {behind : Bytes} (skipped : afterWhole behind = .ok rest) :
      ∃ numeral : Numeral, numeral.negative = negative ∧
        digits.bytes ++ behind = numeral.unsigned ++ rest := by
    obtain ⟨fraction, exponent, rfl⟩ := exists_afterWhole skipped
    refine ⟨⟨negative, digits, fraction, exponent, noLeadingZero⟩, rfl, ?_⟩
    simp only [Numeral.unsigned, List.append_assoc]
  cases s with
  | nil => cases skipped
  | cons b s =>
    simp only [number] at skipped
    split at skipped
    · next zero =>
      have digit : ∀ d ∈ [b], Ascii.isDigit d = true := List.forall_mem_singleton.mpr (zero ▸ rfl)
      refine whole ⟨b, [], digit⟩ (fun _ => rfl) ?_
      cases s with
      | nil => exact skipped
      | cons d more =>
        dsimp only at skipped
        split at skipped
        · cases skipped
        · exact skipped
    · next notZero =>
      split at skipped
      · next digit =>
        obtain ⟨digits, first, same⟩ := exists_digits digit s
        rw [same]
        exact whole digits (fun zero => absurd (first.symm.trans zero) notZero) skipped
      · cases skipped

/-! ## Strings -/

theorem exists_hexFour_eq (skipped : (hexFour s).map (·.2) = .ok rest) :
    ∃ a b c d, (Percent.hexPair? a b).isSome = true ∧ (Percent.hexPair? c d).isSome = true ∧
      s = a :: b :: c :: d :: rest := by
  unfold hexFour at skipped
  split at skipped
  · next a b c d s =>
    split at skipped
    · next first second =>
      obtain rfl := Except.ok.inj skipped
      exact ⟨a, b, c, d, by rw [first]; rfl, by rw [second]; rfl, rfl⟩
    · cases skipped
  · cases skipped

theorem exists_letter (skipped : escape s = .ok rest) :
    ∃ letter : Letter, Ascii.backslash :: s = letter.bytes ++ rest := by
  cases s with
  | nil => cases skipped
  | cons b s =>
    rw [escape] at skipped
    split at skipped
    · next known =>
      obtain rfl := Except.ok.inj skipped
      exact ⟨.short b known, rfl⟩
    split at skipped
    · next unicode =>
      obtain ⟨a, a', c, d, high, low, rfl⟩ := exists_hexFour_eq skipped
      rw [unicode]
      exact ⟨.unicode a a' c d high low, rfl⟩
    · cases skipped

theorem exists_letters (skipped : string s = .ok rest) :
    ∃ letters : Letters, s = letters.closed ++ rest := by
  fun_induction string s with
  | case1 => cases skipped
  | case2 =>
    obtain rfl := Except.ok.inj skipped
    exact ⟨[], rfl⟩
  | case3 => cases skipped
  | case4 s after escaped _ ih =>
    obtain ⟨letter, same⟩ := exists_letter escaped
    obtain ⟨letters, rfl⟩ := ih skipped
    exact ⟨letter :: letters, by rw [Letters.closed_cons, same]⟩
  | case5 => cases skipped
  | case6 b s notQuote notBackslash printable ih =>
    obtain ⟨letters, rfl⟩ := ih skipped
    have plain : isPlainByte b = true := by
      simp [isPlainByte, notQuote, notBackslash, UInt8.not_lt.mp printable]
    exact ⟨.plain b plain :: letters, by rw [Letters.closed_cons]; rfl⟩

end Skip

/-! ## Tokens off a text -/

/-- The text consists of the tokens, each behind any blanks, and of the rest. -/
def Takes (tokens : List Bytes) (s rest : Bytes) : Prop :=
  ∃ front, s = front ++ rest ∧ Spaced tokens front

namespace Takes

theorem single (token rest : Bytes) : Takes [token] (token ++ rest) rest :=
  ⟨token, rfl, by simpa using Spaced.flatten [token]⟩

theorem trans (takes : Takes tokens s next) (later : Takes others next rest) :
    Takes (tokens ++ others) s rest := by
  obtain ⟨front, rfl, spaced⟩ := takes
  obtain ⟨back, rfl, spaced'⟩ := later
  exact ⟨front ++ back, (List.append_assoc _ _ _).symm, spaced.append spaced'⟩

/-- Blanks may stand before the first token. -/
theorem of_skipBlanks (some : tokens ≠ []) (takes : Takes tokens (skipBlanks s) rest) :
    Takes tokens s rest := by
  obtain ⟨front, split, spaced⟩ := takes
  cases spaced with
  | nil => exact absurd rfl some
  | @cons blanks _ text _ blank spaced =>
    have all : ∀ b ∈ s.takeWhile Ascii.isBlank ++ blanks, Ascii.isBlank b = true := by
      intro b inside
      rcases List.mem_append.mp inside with first | second
      · exact List.mem_takeWhile_imp first
      · exact blank b second
    refine ⟨_, ?_, .cons all spaced⟩
    rw [List.append_assoc] at split
    rw [List.append_assoc, List.append_assoc, ← split, skipBlanks,
      List.takeWhile_append_dropWhile]

theorem of_found (found : skipBlanks s = token ++ next) : Takes [token] s next :=
  of_skipBlanks (List.cons_ne_nil _ _) (found ▸ single token next)

end Takes

namespace Skip

variable {frame : Frame} {frames : List Frame} {turn : Turn}

theorem eq_append_of_literal (skipped : literal token s = .ok rest) : s = token ++ rest := by
  induction token generalizing s with
  | nil => exact Except.ok.inj skipped
  | cons c token ih =>
    cases s with
    | nil => cases skipped
    | cons b s =>
      rw [literal] at skipped
      split at skipped
      · next same => rw [same, List.cons_append, ← ih skipped]
      · cases skipped

/-- A scalar is a single token. -/
theorem exists_scalar (scanned : scalar? b s = some (.ok next)) :
    ∃ (phrase : Phrase) (token : Bytes),
      phrase.tokens = [b :: token] ∧ s = token ++ next := by
  rw [scalar?] at scanned
  split at scanned
  · next letter =>
    have same := eq_append_of_literal (Option.some_inj.mp scanned)
    exact ⟨.null, nullTail, by rw [tokens, letter], same⟩
  split at scanned
  · next letter =>
    have same := eq_append_of_literal (Option.some_inj.mp scanned)
    exact ⟨.boolean true, trueTail, by rw [tokens, letter], same⟩
  split at scanned
  · next letter =>
    have same := eq_append_of_literal (Option.some_inj.mp scanned)
    exact ⟨.boolean false, falseTail, by rw [tokens, letter], same⟩
  split at scanned
  · next minus =>
    obtain ⟨numeral, negative, same⟩ := exists_numeral true (Option.some_inj.mp scanned)
    exact ⟨.number numeral, numeral.unsigned,
      by rw [tokens, Numeral.bytes_of_negative negative, minus], same⟩
  split at scanned
  · obtain ⟨numeral, unsigned, same⟩ := exists_numeral false (Option.some_inj.mp scanned)
    rw [numeral.unsigned_eq_cons, List.cons_append] at same
    obtain ⟨rfl, tail⟩ := List.cons.inj same
    exact ⟨.number numeral, _,
      by rw [tokens, Numeral.bytes_of_unsigned unsigned, numeral.unsigned_eq_cons], tail⟩
  split at scanned
  · next quote =>
    obtain ⟨letters, same⟩ := exists_letters (Option.some_inj.mp scanned)
    exact ⟨.string letters, letters.closed, by rw [tokens, Letters.bytes, quote], same⟩
  · cases scanned

/-! ## Lists and objects -/

theorem takes_colon (found : colon s = .ok next) : Takes [[Ascii.colon]] s next := by
  rw [colon] at found
  split at found
  · cases found
  · next b behind first =>
    split at found
    · next same =>
      obtain rfl := Except.ok.inj found
      exact .of_found (same ▸ first)
    · cases found

/-- A value that is found behind what introduces an element is part of a frame. -/
theorem exists_part (begun : element frame s = .ok next) {phrase : Phrase}
    (takes : Takes phrase.tokens next rest) :
    ∃ part : frame.Part, Takes (frame.partTokens part) s rest := by
  cases frame with
  | list =>
    obtain rfl := Except.ok.inj begun
    exact ⟨phrase, takes⟩
  | object =>
    rw [element] at begun
    split at begun
    · cases begun
    · next b behind found =>
      split at begun
      · next quote =>
        subst quote
        split at begun
        · cases begun
        · next after scanned =>
          obtain ⟨letters, rfl⟩ := exists_letters scanned
          have name : Takes [letters.bytes] s after := .of_found found
          exact ⟨(letters, phrase), name.trans ((takes_colon begun).trans takes)⟩
      · cases begun

/-- The text closes the frames, innermost first, each behind the rest of its parts. -/
def Closes : List Frame → Bytes → Bytes → Prop
  | [], s, rest => s = rest
  | frame :: frames, s, rest => ∃ (parts : List frame.Part) (next : Bytes),
      Takes (separated frame.close false (parts.map frame.partTokens)) s next ∧
        Closes frames next rest

/-- What is skipped from a turn on: the value or the parts at hand, and what closes the frames. -/
def Turn.Completes : Turn → List Frame → Bytes → Bytes → Prop
  | .value, frames, s, rest =>
    ∃ (phrase : Phrase) (next : Bytes), Takes phrase.tokens s next ∧ Closes frames next rest
  | .opened, frame :: frames, s, rest => ∃ (parts : List frame.Part) (next : Bytes),
      Takes (separated frame.close true (parts.map frame.partTokens)) s next ∧
        Closes frames next rest
  | .opened, [], s, rest => s = rest
  | .after, frames, s, rest => Closes frames s rest

/-- **Skipping, conversely.** A run puts together the value at hand and all that is still open. -/
theorem completes_of_run (ran : run turn frames s = .ok rest) :
    turn.Completes frames s rest := by
  fun_induction run turn frames s with
  | case3 s frames b behind found next scanned ih =>
    obtain ⟨phrase, token, single, rfl⟩ := exists_scalar scanned
    exact ⟨phrase, next, single ▸ .of_found found, ih ran⟩
  | case4 s frames b behind found noScalar frame opens ih =>
    obtain ⟨parts, next, takes, closes⟩ := ih ran
    refine ⟨frame.enclosing parts, next, ?_, closes⟩
    rw [tokens_enclosing opens]
    exact Takes.trans (.of_found found) takes
  | case6 s => exact Except.ok.inj ran
  | case8 s frame frames behind found ih =>
    exact ⟨[], behind, .of_found found, ih ran⟩
  | case10 s frame frames b behind found notClose next begun ih =>
    obtain ⟨phrase, later, takes, parts, last, takes', closes⟩ := ih ran
    obtain ⟨part, takes⟩ := exists_part begun takes
    refine ⟨part :: parts, last, .of_skipBlanks ?_ (found ▸ takes.trans takes'), closes⟩
    exact List.append_ne_nil_of_right_ne_nil _ (separated_ne_nil _ _ _)
  | case11 s => exact Except.ok.inj ran
  | case14 s frame frames behind next begun found ih =>
    obtain ⟨phrase, later, takes, parts, last, takes', closes⟩ := ih ran
    obtain ⟨part, takes⟩ := exists_part begun takes
    have comma : Takes [[Ascii.comma]] s behind := .of_found found
    exact ⟨part :: parts, last, comma.trans (takes.trans takes'), closes⟩
  | case15 s frame frames behind found notComma ih =>
    exact ⟨[], behind, .of_found found, ih ran⟩
  | _ => cases ran

end Skip

/-- **Texts that are JSON.** A text spells a phrase exactly if it can be skipped, up to blanks. -/
theorem exists_spells_iff {text : Bytes} :
    (∃ phrase : Phrase, phrase.Spells text) ↔
      ∃ rest, Skip.value text = .ok rest ∧ ∀ b ∈ rest, Ascii.isBlank b = true := by
  constructor
  · rintro ⟨phrase, front, blanks, rfl, spaced, blank⟩
    exact ⟨blanks, phrase.skip_value spaced (ended_of_blanks blank), blank⟩
  · rintro ⟨rest, skipped, blank⟩
    obtain ⟨phrase, next, ⟨front, rfl, spaced⟩, rfl⟩ := Skip.completes_of_run skipped
    exact ⟨phrase, front, next, rfl, spaced, blank⟩

end Petstore.Json
