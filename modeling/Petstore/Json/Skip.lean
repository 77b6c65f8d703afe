import Petstore.Json.Scan

/-!
# Skipping a JSON value

A member that no field claims is skipped without being understood: brackets have to match and
tokens have to be shaped like tokens, but numbers may have any size, strings any bytes and escapes
any surrogates, and nesting has no limit, because the open brackets are kept in a list.
-/

namespace Petstore.Json.Skip

open Scan

/-! ## Scalars -/

/-- The bytes after an exponent's letter, sign and digits. -/
def exponent (s : Bytes) : Except Fault Bytes :=
  match (exponentSign s).2 with
  | [] => .error (.here .invalidNumber [])
  | b :: rest =>
    if Ascii.isDigit b then .ok (rest.dropWhile Ascii.isDigit)
    else .error (.here .invalidNumber rest)

/-- The bytes after an exponent, if one follows. -/
def exponentOrEnd (s : Bytes) : Except Fault Bytes :=
  match s with
  | b :: rest => if Ascii.isExponent b then exponent rest else .ok (b :: rest)
  | [] => .ok []

/-- The bytes after the digits of a fraction and an exponent. -/
def fraction (s : Bytes) : Except Fault Bytes :=
  match spanDigits s with
  | ([], rest) => .error (.past .invalidNumber rest)
  | (_ :: _, rest) => exponentOrEnd rest

/-- The bytes after what follows the whole digits of a number. -/
def afterWhole (s : Bytes) : Except Fault Bytes :=
  match s with
  | b :: rest => if b = Ascii.point then fraction rest else exponentOrEnd (b :: rest)
  | [] => .ok []

/-- The bytes after a number without its minus sign. -/
def number (s : Bytes) : Except Fault Bytes :=
  match s with
  | [] => .error (.here .invalidNumber [])
  | b :: rest =>
    if b = Ascii.zero then
      match rest with
      | d :: more =>
        if Ascii.isDigit d then .error (.past .invalidNumber (d :: more))
        else afterWhole (d :: more)
      | [] => .ok []
    else if Ascii.isDigit b then afterWhole (rest.dropWhile Ascii.isDigit)
    else .error (.here .invalidNumber rest)

/-- The bytes after an escape without its backslash. -/
def escape (s : Bytes) : Except Fault Bytes :=
  match s with
  | [] => .error (.here .unfinishedString [])
  | b :: rest =>
    if (shortEscape? b).isSome then .ok rest
    else if b = Ascii.letterU then (hexFour rest).map (·.2)
    else .error (.here .invalidEscape rest)

theorem length_exponent_le {s r : Bytes} (h : exponent s = .ok r) : r.length ≤ s.length := by
  have signed := length_exponentSign_le s
  simp only [exponent] at h
  split at h
  · simp at h
  · next b rest split_eq =>
    rw [split_eq, List.length_cons] at signed
    split at h
    · simp only [Except.ok.injEq] at h
      have := (List.dropWhile_sublist Ascii.isDigit (l := rest)).length_le
      rw [h] at this
      omega
    · simp at h

theorem length_exponentOrEnd_le {s r : Bytes} (h : exponentOrEnd s = .ok r) :
    r.length ≤ s.length := by
  cases s with
  | nil => simp_all [exponentOrEnd]
  | cons b rest =>
    simp only [exponentOrEnd] at h
    split at h
    · have := length_exponent_le h
      simp only [List.length_cons]
      omega
    · simp_all

theorem length_fraction_le {s r : Bytes} (h : fraction s = .ok r) : r.length ≤ s.length := by
  have spanned := length_spanDigits_le s
  simp only [fraction] at h
  split at h
  · simp at h
  · next rest split_eq =>
    rw [split_eq] at spanned
    exact Nat.le_trans (length_exponentOrEnd_le h) spanned

theorem length_afterWhole_le {s r : Bytes} (h : afterWhole s = .ok r) : r.length ≤ s.length := by
  cases s with
  | nil => simp_all [afterWhole]
  | cons b rest =>
    simp only [afterWhole] at h
    split at h
    · have := length_fraction_le h
      simp only [List.length_cons]
      omega
    · exact length_exponentOrEnd_le h

theorem length_number_lt {s r : Bytes} (h : number s = .ok r) : r.length < s.length := by
  cases s with
  | nil => simp [number] at h
  | cons b rest =>
    simp only [number] at h
    split at h
    · cases rest with
      | nil => simp_all
      | cons d more =>
        simp only at h
        split at h
        · simp at h
        · have := length_afterWhole_le h
          simp only [List.length_cons] at this ⊢
          omega
    · split at h
      · have := length_afterWhole_le h
        have := (List.dropWhile_sublist Ascii.isDigit (l := rest)).length_le
        simp only [List.length_cons]
        omega
      · simp at h

theorem length_escape_lt {s r : Bytes} (h : escape s = .ok r) : r.length < s.length := by
  cases s with
  | nil => simp [escape] at h
  | cons b rest =>
    simp only [escape] at h
    split at h
    · simp_all
    · split at h
      · cases hex : hexFour rest with
        | error fault => simp [hex, Except.map] at h
        | ok found =>
          have := length_hexFour_lt hex
          simp only [hex, Except.map, Except.ok.injEq] at h
          simp only [List.length_cons, ← h]
          omega
      · simp at h

/-- The bytes after a string without its opening quote. -/
def string (s : Bytes) : Except Fault Bytes :=
  match s with
  | [] => .error (.here .unfinishedString [])
  | b :: rest =>
    if b = Ascii.quote then .ok rest
    else if b = Ascii.backslash then
      match _h : escape rest with
      | .error fault => .error fault
      | .ok after => string after
    else if b < 0x20 then .error (.here .controlCharacter (b :: rest))
    else string rest
termination_by s.length
decreasing_by
  · have := length_escape_lt _h
    simp only [List.length_cons]
    omega
  · simp

theorem length_string_lt {s r : Bytes} (h : string s = .ok r) : r.length < s.length := by
  fun_induction string s with
  | case1 => simp at h
  | case2 => simp_all
  | case3 => simp at h
  | case4 rest after escaped _ ih =>
    have := ih h
    have := length_escape_lt escaped
    simp only [List.length_cons]
    omega
  | case5 => simp at h
  | case6 b rest _ _ _ ih =>
    have := ih h
    simp only [List.length_cons]
    omega

/-! ## Nesting -/

/-- The two kinds of brackets that enclose values. -/
inductive Frame where
  | list
  | object
  deriving DecidableEq, Repr

/-- The byte that closes a frame. -/
def Frame.close : Frame → UInt8
  | .list => Ascii.closeBracket
  | .object => Ascii.closeBrace

/-- What is wrong when the text ends inside a frame. -/
def Frame.unfinished : Frame → Reason
  | .list => .unfinishedList
  | .object => .unfinishedObject

/-- What is wrong when neither a comma nor the closing byte follows a value in a frame. -/
def Frame.unclosed : Frame → Reason
  | .list => .expectedListEnd
  | .object => .expectedObjectEnd

/-- The bytes after the colon that follows a member's name. -/
def colon (s : Bytes) : Except Fault Bytes :=
  match skipBlanks s with
  | [] => .error (.here .unfinishedObject [])
  | b :: rest => if b = Ascii.colon then .ok rest else .error (.past .expectedColon (b :: rest))

theorem length_colon_lt {s r : Bytes} (h : colon s = .ok r) : r.length < s.length := by
  simp only [colon] at h
  split at h
  · simp at h
  · next b rest blanks =>
    split at h
    · simp only [Except.ok.injEq] at h
      exact h ▸ length_lt_of_skipBlanks_eq_cons blanks
    · simp at h

/-- The bytes at which the value of the next element begins: in an object, after its name. -/
def element (frame : Frame) (s : Bytes) : Except Fault Bytes :=
  match frame with
  | .list => .ok s
  | .object =>
    match skipBlanks s with
    | [] => .error (.here .unfinishedObject [])
    | b :: rest =>
      if b = Ascii.quote then
        match string rest with
        | .error fault => .error fault
        | .ok after => colon after
      else .error (.past .keyNotString (b :: rest))

theorem length_element_le {frame : Frame} {s r : Bytes} (h : element frame s = .ok r) :
    r.length ≤ s.length := by
  cases frame with
  | list => simp_all [element]
  | object =>
    simp only [element] at h
    split at h
    · simp at h
    · next b rest blanks =>
      have := length_lt_of_skipBlanks_eq_cons blanks
      split at h
      · split at h
        · simp at h
        · next skipped =>
          have := length_string_lt skipped
          have := length_colon_lt h
          omega
      · simp at h

/-- What may come next: a value, the first element of a frame or its end, or what follows a
value. -/
inductive Turn where
  | value
  | opened
  | after
  deriving DecidableEq, Repr

/-- The bytes after a scalar, given its first byte; `none` if no scalar begins with it. -/
def scalar? (b : UInt8) (rest : Bytes) : Option (Except Fault Bytes) :=
  if b = Ascii.letterN then some (literal nullTail rest)
  else if b = Ascii.letterT then some (literal trueTail rest)
  else if b = Ascii.letterF then some (literal falseTail rest)
  else if b = Ascii.minus then some (number rest)
  else if Ascii.isDigit b then some (number (b :: rest))
  else if b = Ascii.quote then some (string rest)
  else none

theorem length_scalar?_lt {b : UInt8} {rest r : Bytes} (h : scalar? b rest = some (.ok r)) :
    r.length < (b :: rest).length := by
  simp only [scalar?] at h
  simp only [List.length_cons]
  repeat' split at h
  all_goals simp only [Option.some.injEq, reduceCtorEq] at h
  · have := length_literal_le h
    omega
  · have := length_literal_le h
    omega
  · have := length_literal_le h
    omega
  · have := length_number_lt h
    omega
  · simpa using length_number_lt h
  · have := length_string_lt h
    omega

/-- The frame that a bracket opens. -/
def opens? (b : UInt8) : Option Frame :=
  if b = Ascii.openBracket then some .list
  else if b = Ascii.openBrace then some .object
  else none

/-- The bytes after the value at hand and after everything that the frames still owe. The frames
are the open ones, innermost first. -/
def run (turn : Turn) (frames : List Frame) (s : Bytes) : Except Fault Bytes :=
  match turn, frames with
  | .value, frames =>
    match _h : skipBlanks s with
    | [] => .error (.here .unfinishedValue [])
    | b :: rest =>
      match _hs : scalar? b rest with
      | some (.error fault) => .error fault
      | some (.ok next) => run .after frames next
      | none =>
        match opens? b with
        | some frame => run .opened (frame :: frames) rest
        | none => .error (.past .expectedValue (b :: rest))
  | .opened, [] => .ok s
  | .opened, frame :: frames =>
    match _h : skipBlanks s with
    | [] => .error (.here frame.unfinished [])
    | b :: rest =>
      if b = frame.close then run .after frames rest
      else
        match _he : element frame (b :: rest) with
        | .error fault => .error fault
        | .ok next => run .value (frame :: frames) next
  | .after, [] => .ok s
  | .after, frame :: frames =>
    match _h : skipBlanks s with
    | [] => .error (.here frame.unfinished [])
    | b :: rest =>
      if b = Ascii.comma then
        match _he : element frame rest with
        | .error fault => .error fault
        | .ok next => run .value (frame :: frames) next
      else if b = frame.close then run .after frames rest
      else .error (.past frame.unclosed (b :: rest))
termination_by 2 * s.length + (if turn = .opened then 1 else 0)
decreasing_by
  all_goals
    have := length_lt_of_skipBlanks_eq_cons _h
    simp only [reduceIte]
  · have := length_scalar?_lt _hs
    simp only [List.length_cons] at this
    omega
  · omega
  · omega
  · have := length_element_le _he
    simp only [List.length_cons] at this
    omega
  · have := length_element_le _he
    omega
  · omega

theorem length_run_le {turn : Turn} {frames : List Frame} {s r : Bytes}
    (h : run turn frames s = .ok r) : r.length + (if turn = .value then 1 else 0) ≤ s.length := by
  fun_induction run turn frames s with
  | case3 s frames b rest blanks next scanned ih =>
    have := length_lt_of_skipBlanks_eq_cons blanks
    have := length_scalar?_lt scanned
    have shorter := ih h
    simp only [reduceCtorEq, reduceIte, List.length_cons] at *
    omega
  | case4 s frames b rest blanks _ frame _ ih =>
    have := length_lt_of_skipBlanks_eq_cons blanks
    have shorter := ih h
    simp only [reduceCtorEq, reduceIte] at *
    omega
  | case8 s frame frames rest blanks ih =>
    have := length_lt_of_skipBlanks_eq_cons blanks
    have shorter := ih h
    simp only [reduceCtorEq, reduceIte] at *
    omega
  | case10 s frame frames b rest blanks _ next found ih =>
    have := length_lt_of_skipBlanks_eq_cons blanks
    have := length_element_le found
    have shorter := ih h
    simp only [reduceCtorEq, reduceIte, List.length_cons] at *
    omega
  | case14 s frame frames rest next found blanks ih =>
    have := length_lt_of_skipBlanks_eq_cons blanks
    have := length_element_le found
    have shorter := ih h
    simp only [reduceCtorEq, reduceIte] at *
    omega
  | case15 s frame frames rest blanks _ ih =>
    have := length_lt_of_skipBlanks_eq_cons blanks
    have shorter := ih h
    simp only [reduceCtorEq, reduceIte] at *
    omega
  | case6 | case11 => simp_all
  | _ => simp at h

/-- The bytes after one value. -/
def value (s : Bytes) : Except Fault Bytes :=
  run .value [] s

/-- A skipped value takes up at least one byte. -/
theorem length_value_lt {s r : Bytes} (h : value s = .ok r) : r.length < s.length :=
  length_run_le h

end Petstore.Json.Skip
