import Petstore.Text.Integer

/-!
# Decimal texts

The decimal texts of an integer are its digits, with or without a sign, and reading accepts these
and no others (`readInt?_eq_some_iff`).
-/

namespace Petstore

namespace Text

/-- The characters are decimal digits, at least one of them, and the number is their value. -/
structure Digits (cs : List Char) (n : Nat) : Prop where
  nonempty : cs ≠ []
  digits : ∀ c ∈ cs, c.isDigit = true
  value : Nat.ofDigitChars 10 cs 0 = n

/-- The characters are the digits of the integer, with a sign in front of them or with none. -/
inductive Decimal : List Char → Int → Prop
  | unsigned {cs : List Char} {n : Nat} : Digits cs n → Decimal cs n
  | plus {cs : List Char} {n : Nat} : Digits cs n → Decimal ('+' :: cs) n
  | minus {cs : List Char} {n : Nat} : Digits cs n → Decimal ('-' :: cs) (-n)

/-! ## Reading -/

theorem digitsValue_eq (cs : List Char) : digitsValue cs = Nat.ofDigitChars 10 cs 0 := by
  simp only [digitsValue, Nat.ofDigitChars_eq_foldl, Nat.mul_comm]

theorem readNat?_eq_some_iff {cs : List Char} {n : Nat} :
    readNat? cs = some n ↔ Digits cs n := by
  unfold readNat?
  split
  · next refused =>
    refine iff_of_false (fun read => nomatch read) fun written => ?_
    rw [Bool.or_eq_true, List.isEmpty_iff, Bool.not_eq_true', List.all_eq_false] at refused
    rcases refused with empty | ⟨c, inside, noDigit⟩
    · exact written.nonempty empty
    · exact noDigit (written.digits c inside)
  · next accepted =>
    rw [Bool.or_eq_true, not_or, List.isEmpty_iff, Bool.not_eq_true', Bool.not_eq_false,
      List.all_eq_true] at accepted
    rw [digitsValue_eq, Option.some_inj]
    exact ⟨fun value => ⟨accepted.1, accepted.2, value⟩, fun written => written.value⟩

/-- A sign is no digit. -/
theorem not_digits_cons {c : Char} (sign : c.isDigit = false) {cs : List Char} {n : Nat} :
    ¬ Digits (c :: cs) n := by
  intro written
  have digit := written.digits c List.mem_cons_self
  rw [sign] at digit
  cases digit

/-- **Decimal texts.** Where the range has negative members, the integers that are read are those of
the range, from their decimal texts. -/
theorem readInt?_eq_some_iff {range : IntRange} (signed : range.low < 0) {text : String} {n : Int} :
    readInt? range text = some n ↔ Decimal text.toList n ∧ range.contains n = true := by
  unfold readInt?
  rw [Option.filter_eq_some_iff]
  refine and_congr_left fun _ => ?_
  split
  · next digits whole =>
    rw [whole, Option.map_eq_some_iff]
    constructor
    · intro accepted
      obtain ⟨n, read, rfl⟩ := accepted
      exact .plus (readNat?_eq_some_iff.mp read)
    · intro written
      cases written with
      | unsigned written => exact absurd written (not_digits_cons (by decide))
      | plus written => exact ⟨_, readNat?_eq_some_iff.mpr written, rfl⟩
  · next digits whole =>
    rw [whole, if_pos signed, bind_pure_comp, Option.map_eq_map, Option.map_map,
      Option.map_eq_some_iff]
    constructor
    · intro accepted
      obtain ⟨n, read, rfl⟩ := accepted
      exact .minus (readNat?_eq_some_iff.mp read)
    · intro written
      cases written with
      | unsigned written => exact absurd written (not_digits_cons (by decide))
      | minus written => exact ⟨_, readNat?_eq_some_iff.mpr written, rfl⟩
  · next noPlus noMinus =>
    rw [Option.map_eq_some_iff]
    constructor
    · intro accepted
      obtain ⟨n, read, rfl⟩ := accepted
      exact .unsigned (readNat?_eq_some_iff.mp read)
    · intro written
      generalize text.toList = cs at noPlus noMinus written
      cases written with
      | unsigned written => exact ⟨_, readNat?_eq_some_iff.mpr written, rfl⟩
      | plus _ => exact absurd rfl (noPlus _)
      | minus _ => exact absurd rfl (noMinus _)

/-! ## The usual text -/

theorem digits_toDigits (n : Nat) : Digits (Nat.toDigits 10 n) n where
  nonempty := Nat.toDigits_ne_nil
  digits _ member := Nat.isDigit_of_mem_toDigits (by decide) (by decide) member
  value := Nat.ofDigitChars_ten_toDigits

/-- The characters of a decimal text: a minus sign for a negative integer, and digits. -/
theorem toList_toString (n : Int) :
    (toString n).toList = (if n < 0 then ['-'] else []) ++ Nat.toDigits 10 n.natAbs := by
  cases n with
  | ofNat n => simp [Int.toString_eq_repr, Int.repr, Nat.repr]
  | negSucc n => simp [Int.toString_eq_repr, Int.repr, Nat.repr, Int.negSucc_lt_zero]

theorem isDigit_or_minus_of_mem_toString {n : Int} {c : Char} (member : c ∈ (toString n).toList) :
    c.isDigit = true ∨ c = '-' := by
  rw [toList_toString, List.mem_append] at member
  rcases member with sign | digit
  · split at sign
    · exact Or.inr (List.mem_singleton.mp sign)
    · cases sign
  · exact Or.inl ((digits_toDigits _).digits c digit)

theorem decimal_toString (n : Int) : Decimal (toString n).toList n := by
  rw [toList_toString]
  split
  · next negative =>
    have written := Decimal.minus (digits_toDigits n.natAbs)
    have magnitude : -(n.natAbs : Int) = n := by omega
    rwa [magnitude] at written
  · next positive =>
    have written := Decimal.unsigned (digits_toDigits n.natAbs)
    rwa [Int.natAbs_of_nonneg (by omega)] at written

end Text

end Petstore
