import Petstore.Http.Method
import Petstore.Text.Utf8

/-!
# Headers

The header fields of a request in the order in which they were given. Names are tokens and are kept
in lower case; a name may repeat. Values are bytes without control characters, the tab apart.
-/

namespace Petstore

/-- Why a header field is refused. -/
inductive HeaderFault where
  | invalidName
  | invalidValue
  deriving DecidableEq, Repr

/-- A byte that may stand in a header value. -/
def isHeaderByte (b : UInt8) : Bool :=
  b == 0x09 || (0x20 ≤ b && b != 0x7F)

/-- A byte that a header value read as text may have. -/
def isHeaderTextByte (b : UInt8) : Bool :=
  b == 0x09 || (0x20 ≤ b && b ≤ 0x7E)

/-- The header fields of a request. -/
structure Headers where
  fields : List (String × Bytes) := []
  deriving DecidableEq, Repr, Inhabited

namespace Headers

/-- One more field at the end. -/
def add (headers : Headers) (name : String) (value : Bytes) : Except HeaderFault Headers :=
  if !isToken name then .error .invalidName
  else if !value.all isHeaderByte then .error .invalidValue
  else .ok ⟨headers.fields ++ [(name.toLower, value)]⟩

/-- The fields of a list, checked in order. -/
def ofList (fields : List (String × Bytes)) : Except HeaderFault Headers :=
  fields.foldlM (fun headers field => headers.add field.1 field.2) {}

/-- The first value of a field. -/
def value? (headers : Headers) (name : String) : Option Bytes :=
  (headers.fields.find? (·.1 == name.toLower)).map (·.2)

/-- The first value of a field as text; a value with other than visible characters, spaces and tabs
counts as absent. -/
def text? (headers : Headers) (name : String) : Option String :=
  (headers.value? name).bind fun value =>
    if value.all isHeaderTextByte then
      some (String.ofList (value.map fun b => Char.ofNat b.toNat))
    else none

end Headers

/-- The header that identifies a request. -/
def requestIdName : String := "x-request-id"

/-- The identity that a request brings along. -/
def Headers.requestId? (headers : Headers) : Option String :=
  headers.text? requestIdName

end Petstore
