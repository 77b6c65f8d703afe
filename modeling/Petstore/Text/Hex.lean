import Petstore.Text.Utf8

/-!
# Bytes in hexadecimal

Two lower-case digits for each byte.
-/

namespace Petstore.Text

/-- The hexadecimal digit of a number below sixteen. -/
def hexDigit (n : Nat) : Char :=
  if n < 10 then Char.ofNat (48 + n) else Char.ofNat (87 + n)

/-- The bytes, two digits each. -/
def hex (bytes : Bytes) : String :=
  String.ofList (bytes.flatMap fun b => [hexDigit (b.toNat / 16), hexDigit (b.toNat % 16)])

end Petstore.Text
