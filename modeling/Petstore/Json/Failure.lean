import Petstore.Json.Printer
import Petstore.Text.Pieces
import Petstore.Text.Quoted

/-!
# Why a JSON text cannot be read

A `Reason` says what is wrong, a `Fault` says in addition how many bytes were left when it was
noticed, and a `Failure` places it by line and column in the whole text. A fault is noticed either
*here*, at the first byte that was not consumed, or *past* that byte when it is itself what is
wrong.
-/

namespace Petstore.Json

/-- What stands where something else was expected. -/
inductive Found where
  | null
  | boolean (b : Bool)
  | number (n : Number)
  | string (s : String)
  | sequence
  | map
  deriving Inhabited

/-- The name of what was found. -/
def Found.text : Found → String
  | .null => "null"
  | .boolean true => "boolean `true`"
  | .boolean false => "boolean `false`"
  | .number (.integer n) => s!"integer `{n}`"
  | .number (.float x) => s!"floating point `{(Number.float x).text}`"
  | .string s => s!"string {Text.quoted s}"
  | .sequence => "sequence"
  | .map => "map"

/-- What is wrong with a JSON text, or with its value for the type it is read as. -/
inductive Reason where
  | unfinishedValue
  | unfinishedList
  | unfinishedObject
  | unfinishedString
  | expectedColon
  | expectedListEnd
  | expectedObjectEnd
  | expectedIdent
  | expectedValue
  | keyNotString
  | trailingComma
  | trailingCharacters
  | invalidNumber
  | numberOutOfRange
  | controlCharacter
  | invalidEscape
  | loneSurrogate
  | unfinishedSurrogate
  | invalidCodePoint
  | invalidType (found : Found) (expected : String)
  | invalidValue (found : Int) (expected : String)
  | invalidLength (length : Nat) (expected : String)
  | missingField (name : String)
  | duplicateField (name : String)
  | unknownVariant (name : String) (known : List String)
  deriving Inhabited

/-- The wording of a reason. -/
def Reason.text : Reason → String
  | .unfinishedValue => "EOF while parsing a value"
  | .unfinishedList => "EOF while parsing a list"
  | .unfinishedObject => "EOF while parsing an object"
  | .unfinishedString => "EOF while parsing a string"
  | .expectedColon => "expected `:`"
  | .expectedListEnd => "expected `,` or `]`"
  | .expectedObjectEnd => "expected `,` or `\x7d`"
  | .expectedIdent => "expected ident"
  | .expectedValue => "expected value"
  | .keyNotString => "key must be a string"
  | .trailingComma => "trailing comma"
  | .trailingCharacters => "trailing characters"
  | .invalidNumber => "invalid number"
  | .numberOutOfRange => "number out of range"
  | .controlCharacter => "control character (\\u0000-\\u001F) found while parsing a string"
  | .invalidEscape => "invalid escape"
  | .loneSurrogate => "lone leading surrogate in hex escape"
  | .unfinishedSurrogate => "unexpected end of hex escape"
  | .invalidCodePoint => "invalid unicode code point"
  | .invalidType found expected => s!"invalid type: {found.text}, expected {expected}"
  | .invalidValue n expected => s!"invalid value: integer `{n}`, expected {expected}"
  | .invalidLength length expected => s!"invalid length {length}, expected {expected}"
  | .missingField name => s!"missing field `{name}`"
  | .duplicateField name => s!"duplicate field `{name}`"
  | .unknownVariant name known =>
    let choices := Text.join ", " (known.map fun choice => s!"`{choice}`")
    s!"unknown variant `{name}`, expected one of {choices}"

/-- A reason, and the number of bytes left when it was noticed. -/
structure Fault where
  reason : Reason
  left : Nat
  deriving Inhabited

/-- Noticed at the first byte of the rest. -/
def Fault.here (reason : Reason) (rest : Bytes) : Fault :=
  ⟨reason, rest.length⟩

/-- Noticed one byte into the rest, or at the end of the text. -/
def Fault.past (reason : Reason) (rest : Bytes) : Fault :=
  ⟨reason, rest.length - 1⟩

/-- A reason with its place in the text: the line from one, and the number of bytes since the last
line end. -/
structure Failure where
  reason : Reason
  line : Nat
  column : Nat
  deriving Inhabited

/-- Place a fault in the whole text. -/
def Fault.inText (input : Bytes) (fault : Fault) : Failure :=
  let read := input.take (input.length - fault.left)
  ⟨fault.reason, 1 + read.count 0x0A, (read.reverse.takeWhile (· != 0x0A)).length⟩

/-- The message for a failed reading. -/
def Failure.text (failure : Failure) : String :=
  s!"{failure.reason.text} at line {failure.line} column {failure.column}"

end Petstore.Json
