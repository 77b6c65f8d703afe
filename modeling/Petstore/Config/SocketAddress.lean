import Petstore.Text.Integer

/-!
# Socket addresses

Which texts are socket addresses: `a.b.c.d:port`, or an IPv6 address in brackets, with an optional
numeric scope, before `:port`. Readers work on the front of a text and give the rest.
-/

namespace Petstore.SocketAddress

/-! ## Numbers -/

/-- At most `limit` digits of a base at the front, at least one. -/
def digits? (isDigit : Char → Bool) (cs : List Char) : Option (List Char × List Char) :=
  let digits := cs.takeWhile isDigit
  if digits.isEmpty then none else some (digits, cs.drop digits.length)

/-- A decimal number up to a greatest one, and the rest. -/
def decimal? (greatest : Nat) (cs : List Char) : Option (Nat × List Char) := do
  let (digits, rest) ← digits? Char.isDigit cs
  let n := Text.digitsValue digits
  if n ≤ greatest then some (n, rest) else none

/-- The text after a given character. -/
def expect? (c : Char) : List Char → Option (List Char)
  | [] => none
  | x :: rest => if x = c then some rest else none

/-- The text after `:port`. -/
def afterPort? (cs : List Char) : Option (List Char) := do
  let rest ← expect? ':' cs
  let (_, rest) ← decimal? 65535 rest
  return rest

/-! ## IPv4 -/

/-- The text after one byte of an address: up to three digits, without a leading zero. -/
def afterOctet? (cs : List Char) : Option (List Char) := do
  let (digits, rest) ← digits? Char.isDigit cs
  if 3 < digits.length || (1 < digits.length && digits.head? = some '0') then none
  else if Text.digitsValue digits ≤ 255 then some rest else none

/-- The text after an IPv4 address. -/
def afterV4? (cs : List Char) : Option (List Char) := do
  let rest ← afterOctet? cs
  let rest ← afterOctet? (← expect? '.' rest)
  let rest ← afterOctet? (← expect? '.' rest)
  afterOctet? (← expect? '.' rest)

/-! ## IPv6 -/

/-- A hexadecimal digit. -/
def isHexDigit (c : Char) : Bool :=
  c.isDigit || ('a' ≤ c && c ≤ 'f') || ('A' ≤ c && c ≤ 'F')

/-- The text after one group: up to four hexadecimal digits. -/
def afterGroup? (cs : List Char) : Option (List Char) := do
  let (digits, rest) ← digits? isHexDigit cs
  if digits.length ≤ 4 then some rest else none

/-- The text after the colon in front of every group but the first. -/
def afterSeparator? (index : Nat) (cs : List Char) : Option (List Char) :=
  if index = 0 then some cs else expect? ':' cs

/-- The groups at the front, at most `limit` of them: how many, whether they end in an IPv4 address,
which counts as two, and the rest. -/
def groups (limit index : Nat) (cs : List Char) : Nat × Bool × List Char :=
  match limit with
  | 0 => (index, false, cs)
  | limit + 1 =>
    let embedded? := if limit = 0 then none else (afterSeparator? index cs).bind afterV4?
    match embedded? with
    | some rest => (index + 2, true, rest)
    | none =>
      match (afterSeparator? index cs).bind afterGroup? with
      | some rest => groups limit (index + 1) rest
      | none => (index, false, cs)

/-- The text after an IPv6 address: eight groups, or two runs of groups around `::` that leave out
at least one. -/
def afterV6? (cs : List Char) : Option (List Char) :=
  let (count, embedded, rest) := groups 8 0 cs
  if count = 8 then some rest
  else if embedded then none
  else match rest with
    | ':' :: ':' :: rest =>
      let (_, _, rest) := groups (8 - (count + 1)) 0 rest
      some rest
    | _ => none

/-- The text after a numeric scope, if there is one. -/
def afterScope (cs : List Char) : Option (List Char) :=
  match cs with
  | '%' :: rest => (decimal? 4294967295 rest).map (·.2)
  | cs => some cs

/-! ## Both -/

/-- The whole text is an IPv4 address with a port. -/
def isV4 (cs : List Char) : Bool :=
  (afterV4? cs).bind afterPort? == some []

/-- The whole text is an IPv6 address in brackets with a port. -/
def isV6 (cs : List Char) : Bool :=
  let rest? := do
    let rest ← afterV6? (← expect? '[' cs)
    let rest ← afterScope rest
    afterPort? (← expect? ']' rest)
  rest? == some []

/-- The text is a socket address. -/
def isValid (text : String) : Bool :=
  isV4 text.toList || isV6 text.toList

example : isValid "127.0.0.1:080" ∧ isValid "[::1%7]:0" ∧ ¬ isValid "[1:2:3:4:5:6:7:1.2.3.4]:1" := by
  decide

end Petstore.SocketAddress
