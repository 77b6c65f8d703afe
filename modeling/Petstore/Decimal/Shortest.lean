/-!
# Shortest decimal text of a double

Among the decimal numbers that are nearer to a given double than to any other, one with the fewest
digits, and of those the nearest. A double is `mantissa * 2 ^ exponent`, and the numbers that round
to it form an interval around it, with its ends where the mantissa is even. The coarsest decimal
grid with a point in that interval has at most two such points next to the double, so it is enough
to look at those, in exact arithmetic.
-/

namespace Petstore.Decimal

/-- The size of a finite double: `mantissa * 2 ^ exponent`. -/
structure Binary where
  mantissa : Nat
  exponent : Int
  /-- The neighbour below is only half as far away as the one above. -/
  narrowBelow : Bool
  deriving DecidableEq, Repr

/-- A decimal number: `digits * 10 ^ exponent`. -/
structure Scaled where
  digits : Nat
  exponent : Int
  deriving DecidableEq, Repr

/-- The size of the double with the given bits; `none` for infinities and values that are no
numbers. -/
def Binary.ofBits? (bits : UInt64) : Option Binary :=
  let fraction : Nat := bits.toNat % Nat.pow 2 52
  let biased : Nat := bits.toNat / Nat.pow 2 52 % Nat.pow 2 11
  if biased = 2047 then none
  else if biased = 0 then some ⟨fraction, -1074, false⟩
  else some ⟨Nat.pow 2 52 + fraction, (biased : Int) - 1075, fraction = 0 && 1 < biased⟩

/-- The point of the grid of multiples of `10 ^ k` that is nearest to the double, if one rounds to
it; of two equally near points the even one. -/
def Binary.onGrid? (x : Binary) (k : Int) : Option Scaled :=
  -- Everything is counted in quarters of the last binary place, and scaled to be whole.
  let q := x.exponent - 2
  let step := Nat.pow 10 k.toNat * Nat.pow 2 (-q).toNat
  let unit := Nat.pow 2 q.toNat * Nat.pow 10 (-k).toNat
  let value := 4 * x.mantissa * unit
  let low := (4 * x.mantissa - (if x.narrowBelow then 1 else 2)) * unit
  let high := (4 * x.mantissa + 2) * unit
  let inside (d : Nat) : Bool :=
    if x.mantissa % 2 = 0 then low ≤ d * step && d * step ≤ high
    else low < d * step && d * step < high
  let below := value / step
  let above := below + 1
  let toBelow := value - below * step
  let toAbove := above * step - value
  match inside below, inside above with
  | false, false => none
  | true, false => some ⟨below, k⟩
  | false, true => some ⟨above, k⟩
  | true, true =>
    if toBelow < toAbove || (toBelow = toAbove && below % 2 = 0) then some ⟨below, k⟩
    else some ⟨above, k⟩

/-- The first hit on the grids from `10 ^ k` downwards. -/
def Binary.search (x : Binary) : Nat → Int → Scaled
  | 0, k => (x.onGrid? k).getD ⟨x.mantissa, x.exponent⟩
  | tries + 1, k => (x.onGrid? k).getD (x.search tries (k - 1))

/-- The shortest decimal number that reads back as the double. The search begins above the leading
digit, and seventeen digits always suffice. -/
def Binary.shortest (x : Binary) : Scaled :=
  let bits : Int := x.exponent + Nat.log2 x.mantissa
  x.search 20 (bits * 1233 / 4096 + 2)

/-! ## Layout -/

/-- How a number is laid out: positional while the leading digit's exponent lies in the range,
otherwise with a signed exponent. -/
structure Layout where
  positionalLow : Int
  positionalHigh : Int
  deriving DecidableEq, Repr

/-- The decimal digits of a number. -/
def digitChars (n : Nat) : List Char :=
  Nat.toDigits 10 n

/-- A positive decimal number in the given layout; there is always a digit after the point of a
positional number. -/
def Layout.chars (layout : Layout) (x : Scaled) : List Char :=
  let digits := digitChars x.digits
  let lead : Int := x.exponent + digits.length - 1
  if layout.positionalLow ≤ lead && lead ≤ layout.positionalHigh then
    if 0 ≤ x.exponent then digits ++ List.replicate x.exponent.toNat '0' ++ ['.', '0']
    else if 0 ≤ lead then digits.take (lead.toNat + 1) ++ '.' :: digits.drop (lead.toNat + 1)
    else ['0', '.'] ++ List.replicate (-lead - 1).toNat '0' ++ digits
  else
    let tail := if digits.length ≤ 1 then [] else '.' :: digits.drop 1
    digits.take 1 ++ tail ++ ['e', if lead < 0 then '-' else '+'] ++ digitChars lead.natAbs

/-- The text of a double, if it is finite. -/
def Layout.text? (layout : Layout) (x : Float) : Option String :=
  let sign := if x.toBits.toNat / Nat.pow 2 63 = 1 then ['-'] else []
  (Binary.ofBits? x.toBits).map fun size =>
    if size.mantissa = 0 then String.ofList (sign ++ ['0', '.', '0'])
    else String.ofList (sign ++ layout.chars size.shortest)

end Petstore.Decimal
