import Petstore.Decimal.Shortest
import Petstore.Json.Basic
import Petstore.Text.Hex

/-!
# JSON texts

The compact text of a JSON value: no blanks, members in the order they have, and in strings an
escape for exactly the quote, the backslash and the control characters below the space.
-/

namespace Petstore

/-- Doubles are positional while the leading digit stands between the fifth place after the point
and the sixteenth before it. -/
def Number.layout : Decimal.Layout := ⟨-5, 15⟩

/-- The text of a number. A double that is not finite has none and is written as `null`. -/
def Number.text : Number → String
  | .integer n => toString n
  | .float x => (Number.layout.text? x).getD "null"

namespace Json

/-- One character of a string, escaped where it has to be. -/
def escapeChar (c : Char) : List Char :=
  if c = '"' then ['\\', '"']
  else if c = '\\' then ['\\', '\\']
  else if c.toNat = 8 then ['\\', 'b']
  else if c.toNat = 9 then ['\\', 't']
  else if c.toNat = 10 then ['\\', 'n']
  else if c.toNat = 12 then ['\\', 'f']
  else if c.toNat = 13 then ['\\', 'r']
  else if c.toNat < 32 then
    ['\\', 'u', '0', '0', Text.hexDigit (c.toNat / 16), Text.hexDigit (c.toNat % 16)]
  else [c]

/-- A string between quotes. -/
def stringChars (text : String) : List Char :=
  '"' :: (text.toList.flatMap escapeChar ++ ['"'])

mutual

/-- The characters of the compact text. -/
def chars : Json → List Char
  | .null => ['n', 'u', 'l', 'l']
  | .boolean true => ['t', 'r', 'u', 'e']
  | .boolean false => ['f', 'a', 'l', 's', 'e']
  | .number n => n.text.toList
  | .string s => stringChars s
  | .array items => '[' :: ([','].intercalate (itemChars items) ++ [']'])
  | .object members => '{' :: ([','].intercalate (memberChars members) ++ ['}'])

/-- The texts of the items. -/
def itemChars : List Json → List (List Char)
  | [] => []
  | item :: items => chars item :: itemChars items

/-- The texts of the members. -/
def memberChars : List (String × Json) → List (List Char)
  | [] => []
  | (name, value) :: members => (stringChars name ++ ':' :: chars value) :: memberChars members

end

/-- The compact text. -/
def text (value : Json) : String :=
  String.ofList (chars value)

/-- The compact text as bytes. -/
def bytes (value : Json) : Bytes :=
  Utf8.encodeChars (chars value)

end Json

end Petstore
