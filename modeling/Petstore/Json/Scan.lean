import Petstore.Json.Failure
import Petstore.Text.Ascii
import Petstore.Text.Percent

/-!
# Scanning JSON scalars

Blanks, literals, numbers and strings at the front of a byte sequence. Every scanner gives what it
read together with the rest; the lemmas say that the rest never grows, and which scanners make it
shorter, which is what ends the loops built on them.
-/

namespace Petstore.Json.Scan

/-- What was read, and the bytes after it. -/
abbrev Scanned (α : Type) := Except Fault (α × Bytes)

/-! ## Blanks and literals -/

/-- The bytes after leading blanks. -/
def skipBlanks (s : Bytes) : Bytes :=
  s.dropWhile Ascii.isBlank

theorem length_skipBlanks_le (s : Bytes) : (skipBlanks s).length ≤ s.length :=
  (List.dropWhile_sublist _).length_le

theorem length_lt_of_skipBlanks_eq_cons {s rest : Bytes} {b : UInt8}
    (h : skipBlanks s = b :: rest) : rest.length < s.length := by
  have := length_skipBlanks_le s
  rw [h, List.length_cons] at this
  omega

/-- The bytes after the rest of a literal. -/
def literal : Bytes → Bytes → Except Fault Bytes
  | [], rest => .ok rest
  | _ :: _, [] => .error (.here .unfinishedValue [])
  | e :: es, b :: rest => if b = e then literal es rest else .error (.here .expectedIdent rest)

/-- The rest of `null` after its first letter. -/
def nullTail : Bytes := [0x75, 0x6C, 0x6C]

/-- The rest of `true` after its first letter. -/
def trueTail : Bytes := [0x72, 0x75, 0x65]

/-- The rest of `false` after its first letter. -/
def falseTail : Bytes := [0x61, 0x6C, 0x73, 0x65]

theorem length_literal_le {expected s rest : Bytes} (h : literal expected s = .ok rest) :
    rest.length ≤ s.length := by
  induction expected generalizing s with
  | nil => simp_all [literal]
  | cons e es ih =>
    cases s with
    | nil => simp [literal] at h
    | cons b bs =>
      simp only [literal] at h
      split at h
      · have := ih h
        simp only [List.length_cons]
        omega
      · simp at h

/-! ## Numbers -/

/-- The digits at the front, and the rest. -/
def spanDigits (s : Bytes) : Bytes × Bytes :=
  (s.takeWhile Ascii.isDigit, s.dropWhile Ascii.isDigit)

theorem length_spanDigits_le (s : Bytes) : (spanDigits s).2.length ≤ s.length :=
  (List.dropWhile_sublist _).length_le

/-- The greatest whole number that fits in 64 bits. -/
def wordMax : Nat := UInt64.size - 1

/-- Digits collected into one machine word: once the next digit would not fit, it and all later
ones are only counted. -/
structure Significand where
  value : Nat
  dropped : Nat
  deriving DecidableEq, Repr

/-- One more digit. -/
def Significand.push (x : Significand) (digit : UInt8) : Significand :=
  let grown := x.value * 10 + Ascii.digitValue digit
  if x.dropped = 0 && grown ≤ wordMax then ⟨grown, 0⟩ else ⟨x.value, x.dropped + 1⟩

/-- More digits after a value. -/
def Significand.collect (value : Nat) (digits : Bytes) : Significand :=
  digits.foldl Significand.push ⟨value, 0⟩

/-- A power of ten as a double. -/
def powerOfTen (k : Nat) : Float :=
  Float.ofScientific 1 false k

/-- A double divided by a power of ten, in steps of at most the greatest power a double holds. -/
def divideByPower (x : Float) (k : Nat) : Float :=
  if k ≤ 308 then x / powerOfTen k
  else if x == 0 then x
  else divideByPower (x / powerOfTen 308) (k - 308)
termination_by k
decreasing_by omega

/-- The double for `significand * 10 ^ exponent` by one rounding of the significand and one of the
product or quotient; `none` when it is too large. -/
def double? (significand : Nat) (exponent : Int) : Option Float :=
  let x := significand.toUInt64.toFloat
  if exponent < 0 then some (divideByPower x exponent.natAbs)
  else if exponent ≤ 308 then
    let product := x * powerOfTen exponent.toNat
    if product.isInf then none else some product
  else if x == 0 then some x
  else none

/-- A double with its sign, scanned up to `rest`. -/
def scannedDouble (negative : Bool) (significand : Nat) (exponent : Int) (rest : Bytes) :
    Scanned Number :=
  match double? significand exponent with
  | some x => .ok (.float (if negative then -x else x), rest)
  | none => .error (.here .numberOutOfRange rest)

/-- The digits of an exponent after the first, while its value fits in 31 bits; beyond that it only
matters whether the number becomes zero or too large. -/
def exponentDigits (negative : Bool) (significand : Nat) (start : Int) (down : Bool) :
    Nat → Bytes → Scanned Number
  | size, b :: rest =>
    if Ascii.isDigit b then
      let grown := size * 10 + Ascii.digitValue b
      if grown ≤ 2147483647 then exponentDigits negative significand start down grown rest
      else if significand ≠ 0 && !down then .error (.here .numberOutOfRange rest)
      else .ok (.float (if negative then -0.0 else 0.0), rest.dropWhile Ascii.isDigit)
    else scannedDouble negative significand (if down then start - size else start + size) (b :: rest)
  | size, [] => scannedDouble negative significand (if down then start - size else start + size) []

/-- The sign of an exponent, plus unless written, and what follows it. -/
def exponentSign : Bytes → Bool × Bytes
  | [] => (false, [])
  | b :: rest =>
    if b = Ascii.minus then (true, rest)
    else if b = Ascii.plus then (false, rest)
    else (false, b :: rest)

/-- An exponent after its sign: at least one digit. -/
def exponentSize (negative : Bool) (significand : Nat) (start : Int) (down : Bool) :
    Bytes → Scanned Number
  | [] => .error (.here .unfinishedValue [])
  | b :: rest =>
    if Ascii.isDigit b then
      exponentDigits negative significand start down (Ascii.digitValue b) rest
    else .error (.here .invalidNumber rest)

/-- An exponent after its letter. -/
def exponent (negative : Bool) (significand : Nat) (start : Int) (s : Bytes) : Scanned Number :=
  let (down, digits) := exponentSign s
  exponentSize negative significand start down digits

/-- An exponent if one follows, else the double. -/
def exponentOrEnd (negative : Bool) (significand : Nat) (start : Int) (s : Bytes) :
    Scanned Number :=
  match s with
  | b :: rest =>
    if Ascii.isExponent b then exponent negative significand start rest
    else scannedDouble negative significand start (b :: rest)
  | [] => scannedDouble negative significand start []

/-- The digits after the point. -/
def fraction (negative : Bool) (whole : Significand) (s : Bytes) : Scanned Number :=
  let (digits, rest) := spanDigits s
  match digits, rest with
  | [], [] => .error (.here .unfinishedValue [])
  | [], b :: rest => .error (.past .invalidNumber (b :: rest))
  | digits, rest =>
    let all := Significand.collect whole.value digits
    exponentOrEnd negative all.value (whole.dropped - ((digits.length : Int) - all.dropped)) rest

/-- A number without fraction and exponent: an integer if a 64-bit word holds it, else a double.
Minus zero is a double. -/
def wholeNumber (negative : Bool) (whole : Significand) (rest : Bytes) : Scanned Number :=
  if whole.dropped ≠ 0 then scannedDouble negative whole.value whole.dropped rest
  else if !negative then .ok (.integer whole.value, rest)
  else if whole.value = 0 || Nat.pow 2 63 < whole.value then
    .ok (.float (-whole.value.toUInt64.toFloat), rest)
  else .ok (.integer (-whole.value), rest)

/-- What follows the whole digits. -/
def afterWhole (negative : Bool) (whole : Significand) (s : Bytes) : Scanned Number :=
  match s with
  | b :: rest =>
    if b = Ascii.point then fraction negative whole rest
    else if Ascii.isExponent b then exponent negative whole.value whole.dropped rest
    else wholeNumber negative whole (b :: rest)
  | [] => wholeNumber negative whole []

/-- A number after its optional minus sign. -/
def number (negative : Bool) : Bytes → Scanned Number
  | [] => .error (.here .unfinishedValue [])
  | b :: rest =>
    if b = Ascii.zero then
      match rest with
      | d :: more =>
        if Ascii.isDigit d then .error (.past .invalidNumber (d :: more))
        else afterWhole negative ⟨0, 0⟩ (d :: more)
      | [] => afterWhole negative ⟨0, 0⟩ []
    else if Ascii.isDigit b then
      let (digits, rest) := spanDigits rest
      afterWhole negative (.collect (Ascii.digitValue b) digits) rest
    else .error (.here .invalidNumber rest)

theorem length_scannedDouble_le {negative : Bool} {m : Nat} {e : Int} {s r : Bytes} {n : Number}
    (h : scannedDouble negative m e s = .ok (n, r)) : r.length ≤ s.length := by
  simp only [scannedDouble] at h
  split at h <;> simp_all

theorem length_exponentDigits_le {negative down : Bool} {m size : Nat} {e : Int} {s r : Bytes}
    {n : Number} (h : exponentDigits negative m e down size s = .ok (n, r)) :
    r.length ≤ s.length := by
  induction s generalizing size with
  | nil => exact length_scannedDouble_le h
  | cons b rest ih =>
    simp only [exponentDigits] at h
    split at h
    · split at h
      · have := ih h
        simp only [List.length_cons]
        omega
      · split at h
        · simp at h
        · simp only [Except.ok.injEq, Prod.mk.injEq] at h
          have := (List.dropWhile_sublist Ascii.isDigit (l := rest)).length_le
          simp only [List.length_cons, ← h.2]
          omega
    · exact length_scannedDouble_le h

theorem length_exponentSign_le (s : Bytes) : (exponentSign s).2.length ≤ s.length := by
  cases s with
  | nil => simp [exponentSign]
  | cons b rest =>
    simp only [exponentSign]
    repeat' split
    all_goals simp

theorem length_exponentSize_le {negative down : Bool} {m : Nat} {e : Int} {s r : Bytes}
    {n : Number} (h : exponentSize negative m e down s = .ok (n, r)) : r.length ≤ s.length := by
  cases s with
  | nil => simp [exponentSize] at h
  | cons b rest =>
    simp only [exponentSize] at h
    split at h
    · have := length_exponentDigits_le h
      simp only [List.length_cons]
      omega
    · simp at h

theorem length_exponent_le {negative : Bool} {m : Nat} {e : Int} {s r : Bytes} {n : Number}
    (h : exponent negative m e s = .ok (n, r)) : r.length ≤ s.length := by
  exact Nat.le_trans (length_exponentSize_le h) (length_exponentSign_le s)

theorem length_exponentOrEnd_le {negative : Bool} {m : Nat} {e : Int} {s r : Bytes} {n : Number}
    (h : exponentOrEnd negative m e s = .ok (n, r)) : r.length ≤ s.length := by
  cases s with
  | nil => exact length_scannedDouble_le h
  | cons b rest =>
    simp only [exponentOrEnd] at h
    split at h
    · have := length_exponent_le h
      simp only [List.length_cons]
      omega
    · exact length_scannedDouble_le h

theorem length_fraction_le {negative : Bool} {whole : Significand} {s r : Bytes} {n : Number}
    (h : fraction negative whole s = .ok (n, r)) : r.length ≤ s.length := by
  have spanned := length_spanDigits_le s
  simp only [fraction] at h
  split at h
  · simp at h
  · simp at h
  · have := length_exponentOrEnd_le h
    omega

theorem length_wholeNumber_le {negative : Bool} {whole : Significand} {s r : Bytes} {n : Number}
    (h : wholeNumber negative whole s = .ok (n, r)) : r.length ≤ s.length := by
  simp only [wholeNumber] at h
  repeat' split at h
  · exact length_scannedDouble_le h
  all_goals simp_all

theorem length_afterWhole_le {negative : Bool} {whole : Significand} {s r : Bytes} {n : Number}
    (h : afterWhole negative whole s = .ok (n, r)) : r.length ≤ s.length := by
  cases s with
  | nil => exact length_wholeNumber_le h
  | cons b rest =>
    simp only [afterWhole] at h
    split at h
    · have := length_fraction_le h
      simp only [List.length_cons]
      omega
    · split at h
      · have := length_exponent_le h
        simp only [List.length_cons]
        omega
      · exact length_wholeNumber_le h

/-- A scanned number takes up at least one byte. -/
theorem length_number_lt {negative : Bool} {s r : Bytes} {n : Number}
    (h : number negative s = .ok (n, r)) : r.length < s.length := by
  cases s with
  | nil => simp [number] at h
  | cons b rest =>
    simp only [number] at h
    split at h
    · cases rest with
      | nil =>
        have := length_afterWhole_le h
        simp_all
      | cons d more =>
        simp only at h
        split at h
        · simp at h
        · have := length_afterWhole_le h
          simp only [List.length_cons] at this ⊢
          omega
    · split at h
      · have := length_afterWhole_le h
        have := length_spanDigits_le rest
        simp only [List.length_cons]
        omega
      · simp at h

/-! ## Strings -/

/-- The value of four hexadecimal digits. -/
def hexFour (s : Bytes) : Scanned Nat :=
  match s with
  | a :: b :: c :: d :: rest =>
    match Percent.hexPair? a b, Percent.hexPair? c d with
    | some high, some low => .ok (high.toNat * 256 + low.toNat, rest)
    | _, _ => .error (.here .invalidEscape rest)
  | _ => .error (.here .unfinishedString [])

theorem length_hexFour_lt {s r : Bytes} {n : Nat} (h : hexFour s = .ok (n, r)) :
    r.length < s.length := by
  simp only [hexFour] at h
  split at h
  · split at h
    · simp only [Except.ok.injEq, Prod.mk.injEq] at h
      simp only [← h.2, List.length_cons]
      omega
    · simp at h
  · simp at h

/-- The second half of a surrogate pair, after its first half. -/
def lowSurrogate (high : Nat) (s : Bytes) : Scanned Bytes :=
  match s with
  | [] => .error (.here .unfinishedString [])
  | b :: rest =>
    if b ≠ Ascii.backslash then .error (.here .unfinishedSurrogate rest)
    else match rest with
      | [] => .error (.here .unfinishedString [])
      | u :: digits =>
        if u ≠ Ascii.letterU then .error (.here .unfinishedSurrogate digits)
        else match hexFour digits with
          | .error fault => .error fault
          | .ok (low, rest) =>
            if low < 0xDC00 || 0xDFFF < low then .error (.here .loneSurrogate rest)
            else
              let point := 0x10000 + (high - 0xD800) * 0x400 + (low - 0xDC00)
              .ok (String.utf8EncodeChar (Char.ofNat point), rest)

theorem length_lowSurrogate_le {high : Nat} {s r bytes : Bytes}
    (h : lowSurrogate high s = .ok (bytes, r)) : r.length ≤ s.length := by
  simp only [lowSurrogate] at h
  repeat' split at h
  all_goals try simp at h
  next digits _ _ hex _ =>
    have := length_hexFour_lt hex
    simp only [← h.2, List.length_cons]
    omega

/-- The bytes that a `\u` escape stands for. -/
def unicodeEscape (s : Bytes) : Scanned Bytes :=
  match hexFour s with
  | .error fault => .error fault
  | .ok (n, rest) =>
    if 0xDC00 ≤ n && n ≤ 0xDFFF then .error (.here .loneSurrogate rest)
    else if n < 0xD800 || 0xDBFF < n then .ok (String.utf8EncodeChar (Char.ofNat n), rest)
    else lowSurrogate n rest

/-- The byte that a one-letter escape stands for. -/
def shortEscape? (b : UInt8) : Option UInt8 :=
  if b == 0x22 || b == 0x5C || b == 0x2F then some b
  else if b == 0x62 then some 0x08
  else if b == 0x66 then some 0x0C
  else if b == 0x6E then some 0x0A
  else if b == 0x72 then some 0x0D
  else if b == 0x74 then some 0x09
  else none

/-- The bytes that an escape stands for, after its backslash. -/
def escape : Bytes → Scanned Bytes
  | [] => .error (.here .unfinishedString [])
  | b :: rest =>
    match shortEscape? b with
    | some byte => .ok ([byte], rest)
    | none => if b = Ascii.letterU then unicodeEscape rest else .error (.here .invalidEscape rest)

theorem length_unicodeEscape_lt {s r bytes : Bytes} (h : unicodeEscape s = .ok (bytes, r)) :
    r.length < s.length := by
  simp only [unicodeEscape] at h
  split at h
  · simp at h
  · next n rest hex =>
    have shorter := length_hexFour_lt hex
    split at h
    · simp at h
    · split at h
      · simp only [Except.ok.injEq, Prod.mk.injEq] at h
        simpa only [← h.2] using shorter
      · have := length_lowSurrogate_le h
        omega

theorem length_escape_lt {s r bytes : Bytes} (h : escape s = .ok (bytes, r)) :
    r.length < s.length := by
  cases s with
  | nil => simp [escape] at h
  | cons b rest =>
    simp only [escape] at h
    split at h
    · simp only [Except.ok.injEq, Prod.mk.injEq] at h
      simp [← h.2]
    · split at h
      · have := length_unicodeEscape_lt h
        simp only [List.length_cons]
        omega
      · simp at h

/-- The bytes of a string after its opening quote, in front of which `done` (latest first) were
read. -/
def stringBytes (done : Bytes) (s : Bytes) : Scanned Bytes :=
  match s with
  | [] => .error (.here .unfinishedString [])
  | b :: rest =>
    if b = Ascii.quote then .ok (done.reverse, rest)
    else if b = Ascii.backslash then
      match _h : escape rest with
      | .error fault => .error fault
      | .ok (bytes, after) => stringBytes (bytes.reverse ++ done) after
    else if b < 0x20 then .error (.here .controlCharacter rest)
    else stringBytes (b :: done) rest
termination_by s.length
decreasing_by
  · have := length_escape_lt _h
    simp only [List.length_cons]
    omega
  · simp

theorem length_stringBytes_lt {done s r bytes : Bytes} (h : stringBytes done s = .ok (bytes, r)) :
    r.length < s.length := by
  fun_induction stringBytes done s with
  | case1 => simp at h
  | case2 => simp_all
  | case3 => simp at h
  | case4 done rest bytes after escaped _ ih =>
    have := ih h
    have := length_escape_lt escaped
    simp only [List.length_cons]
    omega
  | case5 => simp at h
  | case6 done b rest _ _ _ ih =>
    have := ih h
    simp only [List.length_cons]
    omega

/-- A string after its opening quote. Broken UTF-8 is noticed at its first bad byte, counted from
the closing quote. -/
def string (s : Bytes) : Scanned String :=
  match stringBytes [] s with
  | .error fault => .error fault
  | .ok (bytes, rest) =>
    match Utf8.decode? bytes with
    | .ok text => .ok (text, rest)
    | .error broken => .error ⟨.invalidCodePoint, rest.length + broken⟩

theorem length_string_lt {s r : Bytes} {text : String} (h : string s = .ok (text, r)) :
    r.length < s.length := by
  simp only [string] at h
  split at h
  · simp at h
  · next scanned =>
    split at h
    · have := length_stringBytes_lt scanned
      simp_all
    · simp at h

end Petstore.Json.Scan
