import Petstore.Toml.Scalar

/-!
# TOML strings

The four kinds of strings: with escapes or literal, on one line or over several. Every reader gives
the string at the front of a text together with the rest; the lemmas say that the rest is shorter,
which is what ends the loops built on them.
-/

namespace Petstore.Toml

/-- A character that may stand in a comment or, quotes and backslashes apart, in a string on one
line. -/
def isTextChar (c : Char) : Bool :=
  c == '\t' || (' ' ≤ c && c != '\x7f')

/-! ## Escapes -/

/-- The character of a code point, if there is one. -/
def scalar? (n : Nat) : Option Char :=
  if n.isValidChar then some (Char.ofNat n) else none

/-- The character of a code point of so many hexadecimal digits. -/
def codePoint? (count : Nat) (cs : List Char) : Option (Char × List Char) :=
  let digits := cs.take count
  if digits.length = count && digits.all isHexDigit then
    (scalar? (numberIn 16 digits)).map fun c => (c, cs.drop count)
  else none

/-- The character that an escape stands for, after its backslash. -/
def escape? : List Char → Option (Char × List Char)
  | 'b' :: rest => some ('\x08', rest)
  | 't' :: rest => some ('\t', rest)
  | 'n' :: rest => some ('\n', rest)
  | 'f' :: rest => some ('\x0c', rest)
  | 'r' :: rest => some ('\r', rest)
  | '"' :: rest => some ('"', rest)
  | '\\' :: rest => some ('\\', rest)
  | 'u' :: rest => codePoint? 4 rest
  | 'U' :: rest => codePoint? 8 rest
  | _ => none

theorem length_codePoint?_le {count : Nat} {cs rest : List Char} {c : Char}
    (h : codePoint? count cs = some (c, rest)) : rest.length ≤ cs.length := by
  simp only [codePoint?] at h
  split at h
  · simp only [Option.map_eq_some_iff, Prod.mk.injEq] at h
    obtain ⟨_, _, _, rfl⟩ := h
    simp
  · cases h

theorem length_escape?_lt {cs rest : List Char} {c : Char} (h : escape? cs = some (c, rest)) :
    rest.length < cs.length := by
  simp only [escape?] at h
  split at h
  case h_8 => exact Nat.lt_succ_of_le (length_codePoint?_le h)
  case h_9 => exact Nat.lt_succ_of_le (length_codePoint?_le h)
  all_goals simp_all

/-! ## On one line -/

/-- A basic string on one line, after its quote; `done` is what was read, latest first. -/
def basicString (done : List Char) (cs : List Char) : Option (String × List Char) :=
  match cs with
  | '"' :: rest => some (String.ofList done.reverse, rest)
  | '\\' :: rest =>
    match _h : escape? rest with
    | some (c, rest) => basicString (c :: done) rest
    | none => none
  | c :: rest => if isTextChar c then basicString (c :: done) rest else none
  | [] => none
termination_by cs.length
decreasing_by
  · exact Nat.lt_trans (length_escape?_lt _h) (Nat.lt_succ_self _)
  · exact Nat.lt_succ_self _

theorem length_basicString_lt {done cs rest : List Char} {text : String}
    (h : basicString done cs = some (text, rest)) : rest.length < cs.length := by
  fun_induction basicString done cs with
  | case1 => simp_all
  | case2 _ _ _ _ escaped ih =>
    have := length_escape?_lt escaped
    have := ih h
    simp only [List.length_cons]
    omega
  | case4 _ _ _ _ _ _ ih =>
    have := ih h
    simp only [List.length_cons]
    omega
  | _ => cases h

/-- A literal string on one line, after its quote. -/
def literalString (cs : List Char) : Option (String × List Char) :=
  match cs.dropWhile (· != '\'') with
  | _ :: rest =>
    let chars := cs.takeWhile (· != '\'')
    if chars.all isTextChar then some (String.ofList chars, rest) else none
  | [] => none

theorem length_literalString_lt {cs rest : List Char} {text : String}
    (h : literalString cs = some (text, rest)) : rest.length < cs.length := by
  have := (List.dropWhile_sublist (fun c => c != '\'') (l := cs)).length_le
  simp only [literalString] at h
  split at h
  · next dropped =>
    rw [dropped, List.length_cons] at this
    split at h
    · simp only [Option.some.injEq, Prod.mk.injEq] at h
      rw [← h.2]
      omega
    · cases h
  · cases h

/-! ## Over several lines -/

/-- The text without one line end at its front. -/
def dropLineEnd : List Char → List Char
  | '\n' :: rest => rest
  | '\r' :: '\n' :: rest => rest
  | cs => cs

theorem length_dropLineEnd_le (cs : List Char) : (dropLineEnd cs).length ≤ cs.length := by
  simp only [dropLineEnd]
  split
  · simp
  · simp only [List.length_cons]
    omega
  · exact Nat.le_refl _

/-- The text after blanks and line ends. -/
def skipBlankLines : List Char → List Char
  | [] => []
  | '\r' :: '\n' :: rest => skipBlankLines rest
  | c :: rest => if c == ' ' || c == '\t' || c == '\n' then skipBlankLines rest else c :: rest

theorem length_skipBlankLines_le (cs : List Char) : (skipBlankLines cs).length ≤ cs.length := by
  fun_induction skipBlankLines cs <;> simp only [List.length_cons, Nat.le_refl] <;> omega

/-- The text after a backslash that ends a line, if it does: blanks and line ends are skipped. -/
def lineContinuation? (cs : List Char) : Option (List Char) :=
  match cs.dropWhile fun c => c == ' ' || c == '\t' with
  | '\n' :: rest => some (skipBlankLines rest)
  | '\r' :: '\n' :: rest => some (skipBlankLines rest)
  | _ => none

theorem length_lineContinuation?_le {cs rest : List Char} (h : lineContinuation? cs = some rest) :
    rest.length ≤ cs.length := by
  have := (List.dropWhile_sublist (fun c => c == ' ' || c == '\t') (l := cs)).length_le
  simp only [lineContinuation?] at h
  split at h
  · next more dropped =>
    have := length_skipBlankLines_le more
    simp_all only [List.length_cons, Option.some.injEq]
    omega
  · next more dropped =>
    have := length_skipBlankLines_le more
    simp_all only [List.length_cons, Option.some.injEq]
    omega
  · cases h

/-- The end of a string over several lines: three quotes, in front of which up to two more belong to
the string. -/
def closing? (quote : Char) (cs : List Char) : Option (List Char × List Char) :=
  let run := (cs.takeWhile (· == quote)).length
  if run < 3 then none
  else
    let kept := min (run - 3) 2
    some (List.replicate kept quote, cs.drop (kept + 3))

theorem length_closing?_lt {quote : Char} {cs kept rest : List Char}
    (h : closing? quote cs = some (kept, rest)) : rest.length < cs.length := by
  have := (List.takeWhile_sublist (fun c => c == quote) (l := cs)).length_le
  simp only [closing?] at h
  split at h
  · cases h
  · simp only [Option.some.injEq, Prod.mk.injEq] at h
    rw [← h.2, List.length_drop]
    omega

/-- A string over several lines, after its three quotes and the line end that may follow them.
Escapes are read in basic strings only. -/
def longString (quote : Char) (done : List Char) (cs : List Char) : Option (String × List Char) :=
  match closing? quote cs with
  | some (kept, rest) => some (String.ofList (done.reverse ++ kept), rest)
  | none =>
    match cs with
    | '\r' :: '\n' :: rest => longString quote ('\n' :: done) rest
    | '\n' :: rest => longString quote ('\n' :: done) rest
    | '\\' :: rest =>
      if quote == '"' then
        match _hc : lineContinuation? rest with
        | some rest => longString quote done rest
        | none =>
          match _he : escape? rest with
          | some (c, rest) => longString quote (c :: done) rest
          | none => none
      else longString quote ('\\' :: done) rest
    | c :: rest => if isTextChar c then longString quote (c :: done) rest else none
    | [] => none
termination_by cs.length
decreasing_by
  · simp only [List.length_cons]
    omega
  · exact Nat.lt_succ_self _
  · exact Nat.lt_succ_of_le (length_lineContinuation?_le _hc)
  · exact Nat.lt_trans (length_escape?_lt _he) (Nat.lt_succ_self _)
  · exact Nat.lt_succ_self _
  · exact Nat.lt_succ_self _

theorem length_longString_lt {quote : Char} {done cs rest : List Char} {text : String}
    (h : longString quote done cs = some (text, rest)) : rest.length < cs.length := by
  fun_induction longString quote done cs with
  | case1 done cs kept more closed =>
    simp only [Option.some.injEq, Prod.mk.injEq] at h
    exact h.2 ▸ length_closing?_lt closed
  | case2 _ _ _ ih | case3 _ _ _ ih =>
    have := ih h
    simp only [List.length_cons]
    omega
  | case4 _ _ _ _ continued _ ih =>
    have := length_lineContinuation?_le continued
    have := ih h
    simp only [List.length_cons]
    omega
  | case5 _ _ _ _ _ _ escaped _ ih =>
    have := length_escape?_lt escaped
    have := ih h
    simp only [List.length_cons]
    omega
  | case7 _ _ _ _ ih =>
    have := ih h
    simp only [List.length_cons]
    omega
  | case8 _ _ _ _ _ _ _ _ ih =>
    have := ih h
    simp only [List.length_cons]
    omega
  | _ => cases h

/-! ## Any kind -/

/-- A string of any kind. -/
def string (cs : List Char) : Option (String × List Char) :=
  match cs with
  | '"' :: '"' :: '"' :: rest => longString '"' [] (dropLineEnd rest)
  | '\'' :: '\'' :: '\'' :: rest => longString '\'' [] (dropLineEnd rest)
  | '"' :: rest => basicString [] rest
  | '\'' :: rest => literalString rest
  | _ => none

theorem length_string_lt {cs rest : List Char} {text : String} (h : string cs = some (text, rest)) :
    rest.length < cs.length := by
  simp only [string] at h
  split at h
  · next more =>
    have := length_longString_lt h
    have := length_dropLineEnd_le more
    simp only [List.length_cons]
    omega
  · next more =>
    have := length_longString_lt h
    have := length_dropLineEnd_le more
    simp only [List.length_cons]
    omega
  · exact Nat.lt_trans (length_basicString_lt h) (Nat.lt_succ_self _)
  · exact Nat.lt_trans (length_literalString_lt h) (Nat.lt_succ_self _)
  · cases h

end Petstore.Toml
