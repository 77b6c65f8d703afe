import Petstore.Text.Printable

/-!
# Quoted texts

A text between double quotes on one line, so that every character of it can be told apart: quotes
and backslashes are escaped, line ends, tabs and the null character have short escapes, and every
other character that would not show is written by its code point.
-/

namespace Petstore.Text

/-- The lower-case hexadecimal digits of a number. -/
def hexDigits (n : Nat) : List Char :=
  Nat.toDigits 16 n

/-- One character inside quotes. -/
def quoteChar (c : Char) : List Char :=
  if c = '"' then ['\\', '"']
  else if c = '\\' then ['\\', '\\']
  else if c = '\t' then ['\\', 't']
  else if c = '\r' then ['\\', 'r']
  else if c = '\n' then ['\\', 'n']
  else if c.toNat = 0 then ['\\', '0']
  else if isPrintable c then [c]
  else ['\\', 'u', '{'] ++ hexDigits c.toNat ++ ['}']

/-- The text between double quotes, with escapes. -/
def quoted (text : String) : String :=
  String.ofList (['"'] ++ text.toList.flatMap quoteChar ++ ['"'])

example : quoted "a\"é\u0301" = "\"a\\\"é\\u\x7b301\x7d\"" := by decide

end Petstore.Text
