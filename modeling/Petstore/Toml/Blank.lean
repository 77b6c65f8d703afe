import Petstore.Toml.Strings

/-!
# Blanks of a TOML text

What stands between the pieces of a text: spaces, comments and line ends. The end of a line takes up
at least one character unless the text ends there (`length_lineEnd?_lt`).
-/

namespace Petstore.Toml

/-- A space or a tab. -/
def isSpace (c : Char) : Bool :=
  c == ' ' || c == '\t'

/-- The text after leading spaces. -/
def skipSpaces (cs : List Char) : List Char :=
  cs.dropWhile isSpace

/-- The text after a comment, if one begins here; a comment has no control characters. -/
def skipComment (cs : List Char) : List Char :=
  match cs with
  | '#' :: rest => rest.dropWhile isTextChar
  | _ => cs

/-- The text after the rest of a line: spaces, a comment, and a line end or the end of the text. -/
def lineEnd? (cs : List Char) : Option (List Char) :=
  match skipComment (skipSpaces cs) with
  | [] => some []
  | '\n' :: rest => some rest
  | '\r' :: '\n' :: rest => some rest
  | _ => none

/-- The text after spaces, comments and line ends, as they may stand between array items;
`inComment` holds between a `#` and the end of its line. -/
def skipLines (inComment : Bool) : List Char → List Char
  | [] => []
  | '\n' :: rest => skipLines false rest
  | '\r' :: '\n' :: rest => skipLines false rest
  | c :: rest =>
    if inComment && isTextChar c then skipLines true rest
    else if !inComment && isSpace c then skipLines false rest
    else if !inComment && c == '#' then skipLines true rest
    else c :: rest

theorem length_skipSpaces_le (cs : List Char) : (skipSpaces cs).length ≤ cs.length :=
  (List.dropWhile_sublist _).length_le

theorem length_lt_of_skipSpaces_eq_cons {c : Char} {cs rest : List Char}
    (h : skipSpaces cs = c :: rest) : rest.length < cs.length := by
  have := length_skipSpaces_le cs
  rw [h, List.length_cons] at this
  omega

theorem length_skipComment_le (cs : List Char) : (skipComment cs).length ≤ cs.length := by
  simp only [skipComment]
  split
  · next rest =>
    have := (List.dropWhile_sublist isTextChar (l := rest)).length_le
    simp only [List.length_cons]
    omega
  · exact Nat.le_refl _

theorem length_lineEnd?_lt {cs rest : List Char} (h : lineEnd? cs = some rest) :
    rest = [] ∨ rest.length < cs.length := by
  have := length_skipComment_le (skipSpaces cs)
  have := length_skipSpaces_le cs
  simp only [lineEnd?] at h
  split at h
  · exact .inl (Option.some.inj h).symm
  · next after =>
    cases h
    have := congrArg List.length after
    simp only [List.length_cons] at this
    exact .inr (by omega)
  · next after =>
    cases h
    have := congrArg List.length after
    simp only [List.length_cons] at this
    exact .inr (by omega)
  · cases h

theorem length_skipLines_le (inComment : Bool) (cs : List Char) :
    (skipLines inComment cs).length ≤ cs.length := by
  fun_induction skipLines inComment cs <;> simp only [List.length_cons, Nat.le_refl] <;> omega

theorem length_lt_of_skipLines_eq_cons {inComment : Bool} {c : Char} {cs rest : List Char}
    (h : skipLines inComment cs = c :: rest) : rest.length < cs.length := by
  have := length_skipLines_le inComment cs
  rw [h, List.length_cons] at this
  omega

end Petstore.Toml
