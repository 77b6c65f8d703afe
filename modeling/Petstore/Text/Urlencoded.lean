import Petstore.Text.Pieces
import Petstore.Text.Percent

/-!
# Form-urlencoded pairs

The pairs of a query string or a form body: fragments between `&`, each cut at its first `=`. A
`+` is a space, escapes are percent-decoded, and the result is read as UTF-8 with U+FFFD for what
is broken. Empty fragments are no pairs.
-/

namespace Petstore.Urlencoded

/-- A name or a value: `+` is a space, then escapes and UTF-8 are decoded. -/
def decodePart (part : Bytes) : String :=
  Utf8.decodeLossy (Percent.decodeBytes (part.map fun b => if b = 0x2B then 0x20 else b))

/-- The pair that one fragment stands for. -/
def pairOf (fragment : Bytes) : String × String :=
  let (name, value) := Text.cut 0x3D fragment
  (decodePart name, decodePart value)

/-- The pairs of a form-urlencoded byte sequence, in order. -/
def pairs (bytes : Bytes) : List (String × String) :=
  ((Text.pieces 0x26 bytes).filter (!·.isEmpty)).map pairOf

/-- The value of the first pair with the given name. -/
def lookup? (name : String) (pairs : List (String × String)) : Option String :=
  (pairs.find? (·.1 == name)).map (·.2)

end Petstore.Urlencoded
