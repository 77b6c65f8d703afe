import Petstore.Json.Scan
import Petstore.Text.Integer
import Petstore.Text.Pieces

/-!
# Remarks

A failure that is stated as one text, the way a writer of values reports what it cannot write. When
the text ends by naming a line and a column, these are its place and not part of what it says: they
are written back as plain numbers, and left out when the line is zero, which no text has.
-/

namespace Petstore.Json

/-- What a failure says, and the line and the column that it names. -/
structure Remark where
  message : String
  line : Nat := 0
  column : Nat := 0
  deriving DecidableEq, Repr, Inhabited

namespace Remark

/-- The number that ends a text after the given words, and the text before both. The text, the words
and what is left of the text are read backwards. -/
def numberAtEnd? (words : String) (backwards : List Char) : Option (Nat × List Char) := do
  let number ← Text.readNat? (backwards.takeWhile Char.isDigit).reverse
  let rest ← Text.after? words.toList.reverse (backwards.dropWhile Char.isDigit)
  if number ≤ Scan.wordMax then return (number, rest) else none

/-- The remark that a text makes. A number that needs more than 64 bits names no place. -/
def ofText (text : String) : Remark :=
  let placed? : Option Remark := do
    let (column, rest) ← numberAtEnd? " column " text.toList.reverse
    let (line, rest) ← numberAtEnd? " at line " rest
    return ⟨String.ofList rest.reverse, line, column⟩
  placed?.getD { message := text }

/-- The wording of a remark. -/
def text (remark : Remark) : String :=
  if remark.line = 0 then remark.message
  else s!"{remark.message} at line {remark.line} column {remark.column}"

example : ofText "a at line 07 column 8" = ⟨"a", 7, 8⟩ := by decide
example : (ofText "a at line 0 column 8").text = "a" := by decide

end Remark

end Petstore.Json
