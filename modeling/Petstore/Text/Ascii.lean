/-!
# ASCII bytes

Names for the bytes that scanners look at, usable in patterns, and the classes of bytes they share.
-/

namespace Petstore.Ascii

@[match_pattern] abbrev quote : UInt8 := 0x22
@[match_pattern] abbrev plus : UInt8 := 0x2B
@[match_pattern] abbrev comma : UInt8 := 0x2C
@[match_pattern] abbrev minus : UInt8 := 0x2D
@[match_pattern] abbrev point : UInt8 := 0x2E
@[match_pattern] abbrev slash : UInt8 := 0x2F
@[match_pattern] abbrev zero : UInt8 := 0x30
@[match_pattern] abbrev colon : UInt8 := 0x3A
@[match_pattern] abbrev openBracket : UInt8 := 0x5B
@[match_pattern] abbrev backslash : UInt8 := 0x5C
@[match_pattern] abbrev closeBracket : UInt8 := 0x5D
@[match_pattern] abbrev letterF : UInt8 := 0x66
@[match_pattern] abbrev letterN : UInt8 := 0x6E
@[match_pattern] abbrev letterT : UInt8 := 0x74
@[match_pattern] abbrev letterU : UInt8 := 0x75
@[match_pattern] abbrev openBrace : UInt8 := 0x7B
@[match_pattern] abbrev closeBrace : UInt8 := 0x7D

/-- A decimal digit. -/
def isDigit (b : UInt8) : Bool :=
  0x30 ≤ b && b ≤ 0x39

/-- Space, tab, line feed or carriage return. -/
def isBlank (b : UInt8) : Bool :=
  b == 0x20 || b == 0x09 || b == 0x0A || b == 0x0D

/-- The letter that begins an exponent, in either case. -/
def isExponent (b : UInt8) : Bool :=
  b == 0x65 || b == 0x45

/-- The value of a decimal digit. -/
def digitValue (b : UInt8) : Nat :=
  b.toNat - 0x30

end Petstore.Ascii
