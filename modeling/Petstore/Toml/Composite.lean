import Petstore.Toml.Scalar
import Petstore.Toml.Tree

/-!
# TOML arrays and inline tables

Values hold values, so the reader of a value is built from the reader of the values one bracket
deeper, as often as brackets may be open at once. Every reader takes up at least one character; a
`Reader` carries that fact along, and the loops over items and entries end by it.
-/

namespace Petstore.Toml

/-- A reader of something at the front of a text, which leaves less of the text. -/
structure Reader (α : Type) where
  read : List Char → Option (α × List Char)
  shrinks : ∀ {cs rest : List Char} {item : α},
    read cs = some (item, rest) → rest.length < cs.length

/-- A string or a word. -/
def scalar (cs : List Char) : Option (Value × List Char) :=
  match cs with
  | '"' :: _ => (string cs).map fun (text, rest) => (.string text, rest)
  | '\'' :: _ => (string cs).map fun (text, rest) => (.string text, rest)
  | cs => word cs

theorem length_scalar_lt {cs rest : List Char} {item : Value}
    (h : scalar cs = some (item, rest)) : rest.length < cs.length := by
  simp only [scalar] at h
  split at h
  case h_3 => exact length_word_lt h
  all_goals
    simp only [Option.map_eq_some_iff, Prod.exists, Prod.mk.injEq] at h
    obtain ⟨_, _, read, _, rfl⟩ := h
    exact length_string_lt read

/-! ## Arrays -/

/-- The items of an array after its bracket or a comma; `done` holds those before, latest first. -/
def arrayItems (item : Reader Value) (done : List Value) (cs : List Char) :
    Option (Value × List Char) :=
  match skipLines false cs with
  | ']' :: rest => some (.array done.reverse, rest)
  | _ =>
    match _read : item.read (skipLines false cs) with
    | none => none
    | some (value, afterItem) =>
      match _after : skipLines false afterItem with
      | ',' :: rest => arrayItems item (value :: done) rest
      | ']' :: rest => some (.array (value :: done).reverse, rest)
      | _ => none
termination_by cs.length
decreasing_by
  have := length_skipLines_le false cs
  have := item.shrinks _read
  have := length_lt_of_skipLines_eq_cons _after
  omega

theorem length_arrayItems_lt {item : Reader Value} {done : List Value} {cs rest : List Char}
    {array : Value} (h : arrayItems item done cs = some (array, rest)) :
    rest.length < cs.length := by
  fun_induction arrayItems item done cs with
  | case1 _ _ _ closed =>
    simp only [Option.some.injEq, Prod.mk.injEq] at h
    exact h.2 ▸ length_lt_of_skipLines_eq_cons closed
  | case3 _ cs _ _ read _ after _ ih =>
    have := length_skipLines_le false cs
    have := item.shrinks read
    have := length_lt_of_skipLines_eq_cons after
    have := ih h
    omega
  | case4 _ cs _ _ read _ after =>
    simp only [Option.some.injEq, Prod.mk.injEq] at h
    have := length_skipLines_le false cs
    have := item.shrinks read
    have := length_lt_of_skipLines_eq_cons after
    rw [← h.2]
    omega
  | _ => cases h

/-! ## Inline tables -/

/-- The table of assignments, first to last. -/
def inlineTable? (assignments : List (Key × Value)) : Option Value :=
  let assign (entries : Entries) : Key × Value → Option Entries
    | (key, value) => entries.assign key value
  (assignments.foldlM assign []).map fun entries => .table (entriesToValues entries)

/-- The entries of an inline table after its brace or a comma; `done` holds those before, latest
first. -/
def inlineEntries (item : Reader Value) (done : List (Key × Value)) (cs : List Char) :
    Option (Value × List Char) :=
  match _key : keyBefore '=' cs with
  | none => none
  | some (key, afterKey) =>
    match _read : item.read (skipSpaces afterKey) with
    | none => none
    | some (value, afterItem) =>
      match _after : skipSpaces afterItem with
      | ',' :: rest => inlineEntries item ((key, value) :: done) rest
      | '}' :: rest => (inlineTable? ((key, value) :: done).reverse).map (·, rest)
      | _ => none
termination_by cs.length
decreasing_by
  have := length_keyBefore_lt _key
  have := length_skipSpaces_le afterKey
  have := item.shrinks _read
  have := length_lt_of_skipSpaces_eq_cons _after
  omega

/-- An inline table after its brace. -/
def inlineTable (item : Reader Value) (cs : List Char) : Option (Value × List Char) :=
  match skipSpaces cs with
  | '}' :: rest => some (.table [], rest)
  | _ => inlineEntries item [] cs

theorem length_inlineEntries_lt {item : Reader Value} {done : List (Key × Value)}
    {cs rest : List Char} {table : Value}
    (h : inlineEntries item done cs = some (table, rest)) : rest.length < cs.length := by
  fun_induction inlineEntries item done cs with
  | case3 _ cs _ afterKey keyRead _ _ read _ after ih =>
    have := length_keyBefore_lt keyRead
    have := length_skipSpaces_le afterKey
    have := item.shrinks read
    have := length_lt_of_skipSpaces_eq_cons after
    have := ih h
    omega
  | case4 _ cs _ afterKey keyRead _ _ read _ after =>
    simp only [Option.map_eq_some_iff, Prod.mk.injEq] at h
    obtain ⟨_, _, _, rfl⟩ := h
    have := length_keyBefore_lt keyRead
    have := length_skipSpaces_le afterKey
    have := item.shrinks read
    have := length_lt_of_skipSpaces_eq_cons after
    omega
  | _ => cases h

theorem length_inlineTable_lt {item : Reader Value} {cs rest : List Char} {table : Value}
    (h : inlineTable item cs = some (table, rest)) : rest.length < cs.length := by
  simp only [inlineTable] at h
  split at h
  · next closed =>
    simp only [Option.some.injEq, Prod.mk.injEq] at h
    exact h.2 ▸ length_lt_of_skipSpaces_eq_cons closed
  · exact length_inlineEntries_lt h

/-! ## Values -/

/-- The reader of a value in which so many brackets may be open at once. -/
def value : Nat → Reader Value
  | 0 => ⟨scalar, length_scalar_lt⟩
  | depth + 1 =>
    let item := value depth
    { read := fun cs =>
        match cs with
        | '[' :: rest => arrayItems item [] rest
        | '{' :: rest => inlineTable item rest
        | cs => scalar cs
      shrinks := by
        intro cs rest found h
        split at h
        · exact Nat.lt_trans (length_arrayItems_lt h) (Nat.lt_succ_self _)
        · exact Nat.lt_trans (length_inlineTable_lt h) (Nat.lt_succ_self _)
        · exact length_scalar_lt h }

end Petstore.Toml
