/-!
# Integers in texts

Reading of decimal integers that must lie in a range: an optional sign, then ASCII digits and
nothing else. A minus sign is accepted only where the range has negative members.
-/

namespace Petstore.Text

/-- A range of integers, ends included. -/
structure IntRange where
  low : Int
  high : Int
  deriving DecidableEq, Repr

namespace IntRange

/-- The range of 64-bit signed integers. -/
def int64 : IntRange := ⟨-9223372036854775808, 9223372036854775807⟩

/-- The range of 32-bit signed integers. -/
def int32 : IntRange := ⟨-2147483648, 2147483647⟩

/-- The range of one byte. -/
def byte : IntRange := ⟨0, 255⟩

/-- The range of port numbers. -/
def port : IntRange := ⟨0, 65535⟩

/-- The integer lies in the range. -/
def contains (range : IntRange) (n : Int) : Bool :=
  range.low ≤ n && n ≤ range.high

end IntRange

/-- The value of a list of decimal digits. -/
def digitsValue (digits : List Char) : Nat :=
  digits.foldl (fun n c => n * 10 + (c.toNat - '0'.toNat)) 0

/-- A nonempty list of decimal digits as a number. -/
def readNat? (cs : List Char) : Option Nat :=
  if cs.isEmpty || !cs.all Char.isDigit then none else some (digitsValue cs)

/-- The integer that a text denotes, if it is written correctly and lies in the range. -/
def readInt? (range : IntRange) (text : String) : Option Int :=
  let value? : Option Int :=
    match text.toList with
    | '+' :: digits => (readNat? digits).map Int.ofNat
    | '-' :: digits => if range.low < 0 then (readNat? digits).map fun n => -(n : Int) else none
    | digits => (readNat? digits).map Int.ofNat
  value?.filter range.contains

example : readInt? .byte "+255" = some 255 ∧ readInt? .byte "-0" = none := by decide

end Petstore.Text
