/-!
# UTF-8

Texts as bytes and back. Decoding runs one small machine over the bytes: between scalar values it
is at rest, inside one it knows how many bytes are owed and the range of the next. A run of bytes
that cannot be continued is reported once, as far as it was a beginning of a scalar value, and the
byte that broke it is read again from rest.

* `decodeLossy` writes U+FFFD for each broken run.
* `decode?` refuses broken runs, and says how many bytes are left from the first one on.
-/

namespace Petstore

/-- Raw bytes, as bodies and header values carry them. -/
abbrev Bytes := List UInt8

namespace Utf8

/-! ## Encoding -/

/-- The bytes of a list of scalar values. -/
def encodeChars (cs : List Char) : Bytes :=
  cs.flatMap String.utf8EncodeChar

/-- The bytes of a text. -/
def encode (text : String) : Bytes :=
  encodeChars text.toList

/-! ## The decoding machine -/

/-- Where decoding stands: at rest, or `owed` bytes short of a scalar value, with the range of the
next byte and the bits read so far. -/
inductive State where
  | rest
  | inside (owed : Nat) (low high : UInt8) (bits : Nat)
  deriving DecidableEq, Repr

/-- A scalar value, or `none` for a broken run. -/
abbrev Mark := Option Char

/-- A byte read at rest. -/
def start (b : UInt8) : List Mark × State :=
  if b < 0x80 then ([some (Char.ofNat b.toNat)], .rest)
  else if 0xC2 ≤ b && b ≤ 0xDF then ([], .inside 1 0x80 0xBF (b.toNat % 32))
  else if b == 0xE0 then ([], .inside 2 0xA0 0xBF 0)
  else if b == 0xED then ([], .inside 2 0x80 0x9F 13)
  else if 0xE1 ≤ b && b ≤ 0xEF then ([], .inside 2 0x80 0xBF (b.toNat % 16))
  else if b == 0xF0 then ([], .inside 3 0x90 0xBF 0)
  else if b == 0xF4 then ([], .inside 3 0x80 0x8F 4)
  else if 0xF1 ≤ b && b ≤ 0xF3 then ([], .inside 3 0x80 0xBF (b.toNat % 8))
  else ([none], .rest)

/-- One byte: the marks it completes and the state after it. -/
def step : State → UInt8 → List Mark × State
  | .rest, b => start b
  | .inside owed low high bits, b =>
    if low ≤ b && b ≤ high then
      let bits := bits * 64 + b.toNat % 64
      if owed ≤ 1 then ([some (Char.ofNat bits)], .rest)
      else ([], .inside (owed - 1) 0x80 0xBF bits)
    else
      let (marks, state) := start b
      (none :: marks, state)

/-- A scalar value still owed at the end is a broken run. -/
def finish : State → List Mark
  | .rest => []
  | .inside .. => [none]

/-- The marks of all bytes from a state, in front of which `done` (latest first) were read. -/
def marksFrom (state : State) (done : List Mark) : Bytes → List Mark
  | [] => done.reverse ++ finish state
  | b :: bytes =>
    let (marks, next) := step state b
    marksFrom next (marks.reverse ++ done) bytes

/-- The scalar values and broken runs of a byte sequence, in order. -/
def marks (bytes : Bytes) : List Mark :=
  marksFrom .rest [] bytes

/-! ## Decoding -/

/-- The text of the bytes, with U+FFFD for each broken run. -/
def decodeLossy (bytes : Bytes) : String :=
  String.ofList ((marks bytes).map (·.getD '\uFFFD'))

/-- The number of bytes that the leading scalar values take up. -/
def soundLength : List Mark → Nat
  | some c :: marks => c.utf8Size + soundLength marks
  | _ => 0

/-- The text of the bytes, or the number of bytes from the first broken run to the end. -/
def decode? (bytes : Bytes) : Except Nat String :=
  let found := marks bytes
  if found.all Option.isSome then .ok (String.ofList (found.filterMap id))
  else .error (bytes.length - soundLength found)

example : decodeLossy [0x61, 0xE2, 0x82, 0x62, 0xFF] = "a\uFFFDb\uFFFD" := by decide
example : decodeLossy [0xF0, 0x9F, 0x98, 0x80] = "😀" := by decide

end Utf8

end Petstore
