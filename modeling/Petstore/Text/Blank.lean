import Petstore.Text.Pieces

/-!
# Blank characters

The characters with the Unicode property `White_Space`, and trimming of texts by that class.
-/

namespace Petstore.Text

/-- The characters with the Unicode property `White_Space`. -/
def isBlank (c : Char) : Bool :=
  let n := c.toNat
  (9 ≤ n && n ≤ 13) || n == 0x20 || n == 0x85 || n == 0xA0 || n == 0x1680 ||
    (0x2000 ≤ n && n ≤ 0x200A) || n == 0x2028 || n == 0x2029 || n == 0x202F || n == 0x205F ||
    n == 0x3000

/-- The text without blank characters at its ends. -/
def trim (text : String) : String :=
  String.ofList (trimBoth isBlank text.toList)

example : trim "\u3000a\u00A0" = "a" ∧ trim "\u200B" = "\u200B" := by decide

end Petstore.Text
