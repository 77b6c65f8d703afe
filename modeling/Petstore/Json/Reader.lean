import Petstore.Json.Skip
import Petstore.Text.Integer

/-!
# Typed readers

A `Reader` reads one JSON value of a known type from the front of a byte sequence, in one pass, and
stops at the first fault. It carries the proof that a value takes up at least one byte, so readers
of lists and records are loops over a sequence that gets shorter.

Every reader skips blanks, then decides by the first byte of the value (`Reader.byFirst`); a value
of another type is named in the fault (`mismatch`).
-/

namespace Petstore.Json

open Scan

/-- Reads one value and gives the rest, which is shorter. -/
structure Reader (α : Type) where
  read : Bytes → Scanned α
  shrinks : ∀ {s r : Bytes} {a : α}, read s = .ok (a, r) → r.length < s.length

namespace Reader

/-! ## The first byte decides -/

/-- Skip blanks and go on by the first byte of the value. -/
def readByFirst (go : UInt8 → Bytes → Scanned α) (s : Bytes) : Scanned α :=
  match skipBlanks s with
  | [] => .error (.here .unfinishedValue [])
  | b :: rest => go b rest

theorem length_readByFirst_lt {go : UInt8 → Bytes → Scanned α}
    (progress : ∀ {b : UInt8} {rest r : Bytes} {a : α},
      go b rest = .ok (a, r) → r.length ≤ rest.length)
    {s r : Bytes} {a : α} (h : readByFirst go s = .ok (a, r)) : r.length < s.length := by
  unfold readByFirst at h
  split at h
  · simp at h
  · next b rest blanks =>
    have := length_lt_of_skipBlanks_eq_cons blanks
    have := progress h
    omega

/-- The reader that skips blanks and goes on by the first byte of the value. -/
def byFirst (go : UInt8 → Bytes → Scanned α)
    (progress : ∀ {b : UInt8} {rest r : Bytes} {a : α},
      go b rest = .ok (a, r) → r.length ≤ rest.length) : Reader α where
  read := readByFirst go
  shrinks := length_readByFirst_lt progress

/-- The fault for a scalar that was scanned completely, unless scanning it failed. -/
def mismatched (expected : String) (found : α → Found) : Scanned α → Fault
  | .error fault => fault
  | .ok (a, rest) => .here (.invalidType (found a) expected) rest

/-- The fault for a literal that was scanned completely, unless scanning it failed. -/
def mismatchedLiteral (expected : String) (found : Found) (scanned : Except Fault Bytes) : Fault :=
  mismatched expected (fun _ => found) (scanned.map ((), ·))

/-- The fault for a value of another type, given its first byte. A scalar is scanned to its end; a
list or an object is only seen to begin. -/
def mismatch (expected : String) (b : UInt8) (rest : Bytes) : Fault :=
  if b = Ascii.letterN then mismatchedLiteral expected .null (literal nullTail rest)
  else if b = Ascii.letterT then
    mismatchedLiteral expected (.boolean true) (literal trueTail rest)
  else if b = Ascii.letterF then
    mismatchedLiteral expected (.boolean false) (literal falseTail rest)
  else if b = Ascii.minus then mismatched expected .number (Scan.number true rest)
  else if Ascii.isDigit b then mismatched expected .number (Scan.number false (b :: rest))
  else if b = Ascii.quote then mismatched expected .string (Scan.string rest)
  else if b = Ascii.openBracket then .here (.invalidType .sequence expected) (b :: rest)
  else if b = Ascii.openBrace then .here (.invalidType .map expected) (b :: rest)
  else .past .expectedValue (b :: rest)

/-! ## Scalars -/

/-- The reader followed by a function on its result. -/
def map (f : α → β) (reader : Reader α) : Reader β where
  read s := match reader.read s with
    | .ok (a, rest) => .ok (f a, rest)
    | .error fault => .error fault
  shrinks := by
    intro s r b h
    split at h
    · next a rest scanned =>
      simp only [Except.ok.injEq, Prod.mk.injEq] at h
      exact h.2 ▸ reader.shrinks scanned
    · simp at h

/-- `true` or `false`. -/
def boolean : Reader Bool :=
  byFirst
    (fun b rest =>
      if b = Ascii.letterT then (literal trueTail rest).map (true, ·)
      else if b = Ascii.letterF then (literal falseTail rest).map (false, ·)
      else .error (mismatch "a boolean" b rest))
    (by
      intro b rest r a h
      have literalLe : ∀ {expected : Bytes} {value : Bool},
          (literal expected rest).map (value, ·) = .ok (a, r) → r.length ≤ rest.length := by
        intro expected value h
        match scanned : literal expected rest with
        | .error fault => simp [scanned, Except.map] at h
        | .ok after =>
          simp only [scanned, Except.map, Except.ok.injEq, Prod.mk.injEq] at h
          exact h.2 ▸ length_literal_le scanned
      repeat' split at h
      · exact literalLe h
      · exact literalLe h
      · simp at h)

/-- A string. -/
def string : Reader String :=
  byFirst
    (fun b rest =>
      if b = Ascii.quote then Scan.string rest else .error (mismatch "a string" b rest))
    (by
      intro b rest r a h
      split at h
      · exact Nat.le_of_lt (length_string_lt h)
      · simp at h)

/-- Accept the integers of a range. -/
def inRange (expected : String) (range : Text.IntRange) : Scanned Number → Scanned Int
  | .error fault => .error fault
  | .ok (.float x, rest) => .error (.here (.invalidType (.number (.float x)) expected) rest)
  | .ok (.integer n, rest) =>
    if range.contains n then .ok (n, rest) else .error (.here (.invalidValue n expected) rest)

theorem eq_ok_of_inRange_eq_ok {expected : String} {range : Text.IntRange}
    {scanned : Scanned Number} {n : Int} {r : Bytes}
    (h : inRange expected range scanned = .ok (n, r)) : scanned = .ok (.integer n, r) := by
  simp only [inRange] at h
  repeat' split at h
  all_goals simp_all

/-- An integer of a range, which `expected` names. -/
def integer (expected : String) (range : Text.IntRange) : Reader Int :=
  byFirst
    (fun b rest =>
      if b = Ascii.minus then inRange expected range (Scan.number true rest)
      else if Ascii.isDigit b then inRange expected range (Scan.number false (b :: rest))
      else .error (mismatch expected b rest))
    (by
      intro b rest r a h
      repeat' split at h
      · exact Nat.le_of_lt (length_number_lt (eq_ok_of_inRange_eq_ok h))
      · exact Nat.le_of_lt_succ (length_number_lt (eq_ok_of_inRange_eq_ok h))
      · simp at h)

/-- A 64-bit signed integer. -/
def int64 : Reader Int64 :=
  (integer "i64" .int64).map Int64.ofInt

/-- A 32-bit signed integer. -/
def int32 : Reader Int32 :=
  (integer "i32" .int32).map Int32.ofInt

/-- Skip blanks and read `null`, or a value. -/
def readOptional (reader : Reader α) (s : Bytes) : Scanned (Option α) :=
  match skipBlanks s with
  | [] => .error (.here .unfinishedValue [])
  | b :: rest =>
    if b = Ascii.letterN then (literal nullTail rest).map (none, ·)
    else (reader.map some).read (b :: rest)

theorem length_readOptional_lt {reader : Reader α} {s r : Bytes} {a : Option α}
    (h : readOptional reader s = .ok (a, r)) : r.length < s.length := by
  unfold readOptional at h
  have blanks := length_skipBlanks_le s
  split at h
  · simp at h
  · next b rest split_eq =>
    rw [split_eq] at blanks
    split at h
    · cases scanned : literal nullTail rest with
      | error fault => simp [scanned, Except.map] at h
      | ok after =>
        simp only [scanned, Except.map, Except.ok.injEq, Prod.mk.injEq] at h
        have := length_literal_le scanned
        simp only [List.length_cons, ← h.2] at blanks ⊢
        omega
    · exact Nat.lt_of_lt_of_le ((reader.map some).shrinks h) blanks

/-- `null`, or a value. -/
def optional (reader : Reader α) : Reader (Option α) where
  read := readOptional reader
  shrinks := length_readOptional_lt

/-- Any value, without looking at it. -/
def ignored : Reader Unit where
  read s := match Skip.value s with
    | .ok rest => .ok ((), rest)
    | .error fault => .error fault
  shrinks := by
    intro s r a h
    split at h
    · next rest skipped =>
      simp only [Except.ok.injEq, Prod.mk.injEq] at h
      exact h.2 ▸ Skip.length_value_lt skipped
    · simp at h

/-! ## Variants -/

/-- The variant of the given name. -/
def variantNamed (variants : List (String × α)) (name : String) (rest : Bytes) : Scanned α :=
  match variants.lookup name with
  | some a => .ok (a, rest)
  | none => .error (.here (.unknownVariant name (variants.map (·.1))) rest)

/-- The `null` that an object form gives as the value of its one member, and the closing brace. -/
def unitMember (s : Bytes) : Except Fault Bytes :=
  match skipBlanks s with
  | [] => .error (.here .unfinishedValue [])
  | b :: rest =>
    if b = Ascii.letterN then
      match literal nullTail rest with
      | .error fault => .error fault
      | .ok after =>
        match skipBlanks after with
        | [] => .error (.here .unfinishedObject [])
        | c :: more =>
          if c = Ascii.closeBrace then .ok more else .error (.here .expectedValue (c :: more))
    else .error (mismatch "unit" b rest)

theorem length_unitMember_lt {s r : Bytes} (h : unitMember s = .ok r) : r.length < s.length := by
  simp only [unitMember] at h
  split at h
  · simp at h
  · next b rest blanks =>
    have := length_lt_of_skipBlanks_eq_cons blanks
    split at h
    · split at h
      · simp at h
      · next after scanned =>
        have := length_literal_le scanned
        split at h
        · simp at h
        · next c more blanks' =>
          have := length_lt_of_skipBlanks_eq_cons blanks'
          split at h
          · simp only [Except.ok.injEq] at h
            rw [← h]
            omega
          · simp at h
    · simp at h

/-- The object form of a variant after its opening brace: its name, with the value `null`. -/
def variantObject (variants : List (String × α)) (s : Bytes) : Scanned α :=
  match skipBlanks s with
  | [] => .error (.here .unfinishedObject [])
  | b :: rest =>
    if b = Ascii.quote then
      match Scan.string rest with
      | .error fault => .error fault
      | .ok (name, after) =>
        match variantNamed variants name after with
        | .error fault => .error fault
        | .ok (a, after) =>
          match Skip.colon after with
          | .error fault => .error fault
          | .ok value => (unitMember value).map (a, ·)
    else if b = Ascii.closeBrace then .error (.past .expectedValue (b :: rest))
    else .error (.past .keyNotString (b :: rest))

theorem eq_of_variantNamed_eq_ok {variants : List (String × α)} {name : String} {s r : Bytes}
    {a : α} (h : variantNamed variants name s = .ok (a, r)) : r = s := by
  simp only [variantNamed] at h
  split at h <;> simp_all

theorem length_variantObject_lt {variants : List (String × α)} {s r : Bytes} {a : α}
    (h : variantObject variants s = .ok (a, r)) : r.length < s.length := by
  simp only [variantObject] at h
  split at h
  · simp at h
  · next b rest blanks =>
    have := length_lt_of_skipBlanks_eq_cons blanks
    split at h
    · split at h
      · simp at h
      · next name after scanned =>
        have := length_string_lt scanned
        split at h
        · simp at h
        · next found after' named =>
          have same := eq_of_variantNamed_eq_ok named
          split at h
          · simp at h
          · next value coloned =>
            have := Skip.length_colon_lt coloned
            match unit : unitMember value with
            | .error fault => simp [unit, Except.map] at h
            | .ok last =>
              have := length_unitMember_lt unit
              simp only [unit, Except.map, Except.ok.injEq, Prod.mk.injEq] at h
              rw [← h.2]
              subst same
              omega
    · split at h <;> simp at h

/-- One of several names, as a string or as the only member of an object. -/
def choice (variants : List (String × α)) : Reader α :=
  byFirst
    (fun b rest =>
      if b = Ascii.quote then
        match Scan.string rest with
        | .error fault => .error fault
        | .ok (name, after) => variantNamed variants name after
      else if b = Ascii.openBrace then variantObject variants rest
      else .error (.past .expectedValue (b :: rest)))
    (by
      intro b rest r a h
      repeat' split at h
      · simp at h
      · next scanned =>
        have := length_string_lt scanned
        have := eq_of_variantNamed_eq_ok h
        simp_all only
        omega
      · exact Nat.le_of_lt (length_variantObject_lt h)
      · simp at h)

/-! ## Lists -/

/-- The end of a list or an object, with the bytes after its bracket, or the place where its next
part begins. -/
inductive Next where
  | close (rest : Bytes)
  | item (rest : Bytes)

/-- The bytes after what was found. -/
def Next.rest : Next → Bytes
  | .close rest => rest
  | .item rest => rest

/-- The next element of a list. -/
def nextElement (first : Bool) (s : Bytes) : Except Fault Next :=
  match skipBlanks s with
  | [] => .error (.here .unfinishedList [])
  | b :: rest =>
    if b = Ascii.closeBracket then .ok (.close rest)
    else if first then .ok (.item (b :: rest))
    else if b = Ascii.comma then
      match skipBlanks rest with
      | [] => .error (.here .unfinishedValue [])
      | c :: more =>
        if c = Ascii.closeBracket then .error (.past .trailingComma (c :: more))
        else .ok (.item (c :: more))
    else .error (.past .expectedListEnd (b :: rest))

theorem length_nextElement_le {first : Bool} {s : Bytes} {next : Next}
    (h : nextElement first s = .ok next) : next.rest.length ≤ s.length := by
  have blanks := length_skipBlanks_le s
  simp only [nextElement] at h
  split at h
  · simp at h
  · next b rest split_eq =>
    rw [split_eq] at blanks
    simp only [List.length_cons] at blanks
    repeat' split at h
    all_goals simp only [reduceCtorEq, Except.ok.injEq] at h
    · subst h
      simp only [Next.rest]
      omega
    · subst h
      simpa only [Next.rest, List.length_cons] using blanks
    · next c more split_eq' _ =>
      have blanks' := length_skipBlanks_le rest
      rw [split_eq'] at blanks'
      subst h
      simp only [Next.rest]
      omega

/-- The elements of a list from one of its turns on; `done` holds those before, latest first. -/
def elements (reader : Reader α) (first : Bool) (done : List α) (s : Bytes) : Scanned (List α) :=
  match _h : nextElement first s with
  | .error fault => .error fault
  | .ok (.close rest) => .ok (done.reverse, rest)
  | .ok (.item rest) =>
    match _hr : reader.read rest with
    | .error fault => .error fault
    | .ok (a, after) => elements reader false (a :: done) after
termination_by s.length
decreasing_by
  have found := length_nextElement_le _h
  have := reader.shrinks _hr
  simp only [Next.rest] at found
  omega

theorem length_elements_le {reader : Reader α} {first : Bool} {done items : List α} {s r : Bytes}
    (h : elements reader first done s = .ok (items, r)) : r.length ≤ s.length := by
  fun_induction elements reader first done s with
  | case1 => simp at h
  | case2 first done s rest found =>
    have := length_nextElement_le found
    simp_all [Next.rest]
  | case3 => simp at h
  | case4 first done s rest found a after scanned ih =>
    have := length_nextElement_le found
    have := reader.shrinks scanned
    have := ih h
    simp only [Next.rest] at *
    omega

/-- A list of values. -/
def list (reader : Reader α) : Reader (List α) :=
  byFirst
    (fun b rest =>
      if b = Ascii.openBracket then elements reader true [] rest
      else .error (mismatch "a sequence" b rest))
    (by
      intro b rest r a h
      split at h
      · exact length_elements_le h
      · simp at h)

/-! ## Whole texts -/

/-- Only blanks may follow the value. -/
def document (reader : Reader α) (input : Bytes) : Except Failure α :=
  let scanned : Except Fault α :=
    match reader.read input with
    | .error fault => .error fault
    | .ok (a, rest) =>
      match skipBlanks rest with
      | [] => .ok a
      | b :: more => .error (.past .trailingCharacters (b :: more))
  scanned.mapError (·.inText input)

end Reader

end Petstore.Json
