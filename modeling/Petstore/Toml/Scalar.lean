import Petstore.Text.Integer
import Petstore.Toml.Value

/-!
# TOML words

Numbers, dates and booleans. A word is taken from the front of a text as far as its characters go
and then classified as a whole.
-/

namespace Petstore.Toml

/-! ## Numbers -/

/-- Digits of a base, with single underscores between digits. -/
def groupedDigits? (isDigit : Char → Bool) (cs : List Char) : Option (List Char) :=
  let rec go : List Char → Option (List Char)
    | [] => none
    | [c] => if isDigit c then some [c] else none
    | c :: '_' :: rest => if isDigit c then (go rest).map (c :: ·) else none
    | c :: rest => if isDigit c then (go rest).map (c :: ·) else none
  go cs

/-- The value of a digit in any base up to sixteen. -/
def digitValue (c : Char) : Nat :=
  if c.isDigit then c.toNat - 48
  else if c.isUpper then c.toNat - 55
  else c.toNat - 87

/-- A hexadecimal digit. -/
def isHexDigit (c : Char) : Bool :=
  c.isDigit || ('a' ≤ c && c ≤ 'f') || ('A' ≤ c && c ≤ 'F')

/-- The number written by digits of a base. -/
def numberIn (base : Nat) (digits : List Char) : Nat :=
  digits.foldl (fun n c => n * base + digitValue c) 0

/-- A sign, and what follows it. -/
def splitSign : List Char → Bool × List Char
  | '-' :: rest => (true, rest)
  | '+' :: rest => (false, rest)
  | cs => (false, cs)

/-- A decimal number without superfluous leading zeros. -/
def decimal? (cs : List Char) : Option Nat := do
  let digits ← groupedDigits? Char.isDigit cs
  if cs.length ≠ 1 && cs.head? = some '0' then none else some (numberIn 10 digits)

/-- An integer that fits in 64 bits. -/
def integer? (cs : List Char) : Option Int :=
  let value? : Option Int :=
    match cs with
    | '0' :: 'x' :: digits => (groupedDigits? isHexDigit digits).map fun ds => numberIn 16 ds
    | '0' :: 'o' :: digits =>
      (groupedDigits? (fun c => '0' ≤ c && c ≤ '7') digits).map fun ds => numberIn 8 ds
    | '0' :: 'b' :: digits =>
      (groupedDigits? (fun c => c == '0' || c == '1') digits).map fun ds => numberIn 2 ds
    | cs =>
      let (negative, digits) := splitSign cs
      (decimal? digits).map fun n => if negative then -(n : Int) else n
  value?.filter Text.IntRange.int64.contains

/-- The mark in front of an exponent. -/
def isExponentMark (c : Char) : Bool :=
  c == 'e' || c == 'E'

/-- An exponent: digits with an optional sign. -/
def exponent? (cs : List Char) : Option Int :=
  let (negative, digits) := splitSign cs
  (groupedDigits? Char.isDigit digits).map fun ds =>
    let n := numberIn 10 ds
    if negative then -(n : Int) else n

/-- The digits of the fraction and the exponent that follow a whole number; one of the two has to be
there. -/
def fractionAndExponent? : List Char → Option (List Char × Int)
  | [] => none
  | '.' :: rest => do
    let fraction ← groupedDigits? Char.isDigit (rest.takeWhile (!isExponentMark ·))
    match rest.dropWhile (!isExponentMark ·) with
    | [] => return (fraction, 0)
    | _ :: exponent => return (fraction, ← exponent? exponent)
  | _ :: exponent => return ([], ← exponent? exponent)

/-- The double nearest to `significand * 10 ^ exponent` would be infinite: the number lies at least
half a unit above the greatest double. -/
def overflows (significand : Nat) (exponent : Int) : Bool :=
  let bound := Nat.pow 2 1024 - Nat.pow 2 970
  let places := exponent.natAbs
  if significand = 0 then false
  else if 0 ≤ exponent then 400 < places || bound ≤ significand * Nat.pow 10 places
  else 3 * places ≤ significand.log2 && bound ≤ significand / Nat.pow 10 places

/-- A float: a decimal number with a fraction, an exponent or both, not beyond the greatest double,
or one of the special names. -/
def isFloat (cs : List Char) : Bool :=
  let (negative, unsigned) := splitSign cs
  let isMark := fun c => c == '.' || isExponentMark c
  let whole := unsigned.takeWhile (!isMark ·)
  if unsigned == ['i', 'n', 'f'] || unsigned == ['n', 'a', 'n'] then true
  else match decimal? whole, fractionAndExponent? (unsigned.drop whole.length) with
    | some n, some (fraction, exponent) =>
      let significand := n * Nat.pow 10 fraction.length + numberIn 10 fraction
      negative || !overflows significand (exponent - fraction.length)
    | _, _ => false

example : isFloat "1.5e+3".toList ∧ isFloat "-1e400".toList ∧ ¬ isFloat "1e400".toList := by
  decide +kernel

/-! ## Dates -/

/-- A number of exactly so many digits. -/
def fixedDigits? (count : Nat) (cs : List Char) : Option Nat :=
  if cs.length = count && cs.all Char.isDigit then some (Text.digitsValue cs) else none

/-- The number of days of a month. -/
def daysOfMonth (year month : Nat) : Nat :=
  if month = 2 then
    if year % 4 = 0 && (year % 100 ≠ 0 || year % 400 = 0) then 29 else 28
  else if month = 4 || month = 6 || month = 9 || month = 11 then 30
  else 31

/-- A date `YYYY-MM-DD`. -/
def isDate (cs : List Char) : Bool :=
  match fixedDigits? 4 (cs.take 4), fixedDigits? 2 ((cs.drop 5).take 2),
      fixedDigits? 2 (cs.drop 8) with
  | some year, some month, some day =>
    cs[4]? == some '-' && cs[7]? == some '-' && 1 ≤ month && month ≤ 12 && 1 ≤ day &&
      day ≤ daysOfMonth year month
  | _, _, _ => false

/-- Hours and minutes `HH:MM`. -/
def isHourMinute (cs : List Char) : Bool :=
  match fixedDigits? 2 (cs.take 2), fixedDigits? 2 (cs.drop 3) with
  | some hour, some minute => cs[2]? == some ':' && hour ≤ 23 && minute ≤ 59
  | _, _ => false

/-- A time `HH:MM:SS` with an optional fraction. -/
def isTime (cs : List Char) : Bool :=
  isHourMinute (cs.take 5) && cs[5]? == some ':' &&
    ((fixedDigits? 2 ((cs.drop 6).take 2)).any (· ≤ 60)) &&
    match cs.drop 8 with
    | [] => true
    | '.' :: fraction => !fraction.isEmpty && fraction.all Char.isDigit
    | _ => false

/-- A time with an optional offset. -/
def isOffsetTime (cs : List Char) : Bool :=
  isTime cs ||
    match cs.getLast? with
    | some c =>
      if c == 'Z' || c == 'z' then isTime cs.dropLast
      else
        let offset := cs.drop (cs.length - 6)
        (offset.head? == some '+' || offset.head? == some '-') &&
          isHourMinute (offset.drop 1) && isTime (cs.take (cs.length - 6))
    | none => false

/-- A date with a time, joined by a letter. -/
def isDateTime (cs : List Char) : Bool :=
  isDate (cs.take 10) && (cs[10]? == some 'T' || cs[10]? == some 't') &&
    isOffsetTime (cs.drop 11)

/-! ## Words -/

/-- A character of a word. -/
def isWordChar (c : Char) : Bool :=
  c.isAlphanum || c == '+' || c == '-' || c == '.' || c == '_' || c == ':'

/-- The value of a word. -/
def ofWord? (word : List Char) : Option Value :=
  if word = ['t', 'r', 'u', 'e'] then some (.boolean true)
  else if word = ['f', 'a', 'l', 's', 'e'] then some (.boolean false)
  else if isDate word || isDateTime word || isTime word then some .datetime
  else if isFloat word then some .float
  else (integer? word).map .integer

/-- A word as a value. A date may be followed by a blank and a time. -/
def word (cs : List Char) : Option (Value × List Char) := do
  let chars := cs.takeWhile isWordChar
  let rest := cs.dropWhile isWordChar
  let value ← ofWord? chars
  match rest with
  | ' ' :: more =>
    let time := more.takeWhile isWordChar
    if isDate chars && isOffsetTime time then some (.datetime, more.dropWhile isWordChar)
    else some (value, rest)
  | _ => some (value, rest)

theorem ofWord?_nil : ofWord? [] = none := by decide

/-- A word takes up at least one character. -/
theorem length_word_lt {cs rest : List Char} {value : Value} (h : word cs = some (value, rest)) :
    rest.length < cs.length := by
  have split := congrArg List.length (List.takeWhile_append_dropWhile (p := isWordChar) (l := cs))
  rw [List.length_append] at split
  have nonempty : cs.takeWhile isWordChar ≠ [] := by
    intro empty
    simp [word, empty, ofWord?_nil] at h
  have := List.length_pos_iff.2 nonempty
  simp only [word, Option.bind_eq_bind, Option.bind_eq_some_iff] at h
  obtain ⟨_, _, h⟩ := h
  split at h
  · next more dropped =>
    have := (List.dropWhile_sublist isWordChar (l := more)).length_le
    have := congrArg List.length dropped
    simp only [List.length_cons] at this
    split at h <;> simp only [Option.some.injEq, Prod.mk.injEq] at h <;> rw [← h.2] <;> omega
  · simp only [Option.some.injEq, Prod.mk.injEq] at h
    rw [← h.2]
    omega

end Petstore.Toml
