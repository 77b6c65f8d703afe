import Petstore.Text.Utf8

/-!
# Percent-encoding

Each `%` followed by two hexadecimal digits stands for one byte; every other byte stands for
itself, a lone `%` included.
-/

namespace Petstore.Percent

/-- The value of a hexadecimal digit given as a byte. -/
def hexValue? (b : UInt8) : Option UInt8 :=
  if 0x30 ≤ b && b ≤ 0x39 then some (b - 0x30)
  else if 0x41 ≤ b && b ≤ 0x46 then some (b - 0x41 + 10)
  else if 0x61 ≤ b && b ≤ 0x66 then some (b - 0x61 + 10)
  else none

/-- The byte that two hexadecimal digits stand for. -/
def hexPair? (high low : UInt8) : Option UInt8 := do
  let h ← hexValue? high
  let l ← hexValue? low
  return h * 16 + l

/-- The bytes with every escape replaced by the byte it stands for. -/
def decodeBytes : Bytes → Bytes
  | 0x25 :: high :: low :: rest =>
    match hexPair? high low with
    | some b => b :: decodeBytes rest
    | none => 0x25 :: decodeBytes (high :: low :: rest)
  | b :: rest => b :: decodeBytes rest
  | [] => []

/-- The text behind percent-encoded text; bytes that are no UTF-8 become U+FFFD. -/
def decode (text : String) : String :=
  Utf8.decodeLossy (decodeBytes (Utf8.encode text))

example : decode "j%C3%B6rg%2" = "jörg%2" := by decide

end Petstore.Percent
