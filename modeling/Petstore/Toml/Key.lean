import Petstore.Toml.Blank

/-!
# TOML keys

Keys stand in front of values and in the headers of tables. A key has parts between dots, each a
bare word or a string on one line, with spaces around them. Reading a key takes up at least one
character (`length_keyBefore_lt`).
-/

namespace Petstore.Toml

/-- A key: the names of the tables it passes, and the name in the last one. -/
structure Key where
  path : List String
  last : String
  deriving DecidableEq, Repr

/-- The names of a key from first to last. -/
def Key.parts (key : Key) : List String :=
  key.path ++ [key.last]

/-- A character of a key without quotes. -/
def isBareKeyChar (c : Char) : Bool :=
  c.isAlphanum || c == '_' || c == '-'

/-- One part of a key. -/
def simpleKey (cs : List Char) : Option (String × List Char) :=
  match cs with
  | '"' :: rest => basicString [] rest
  | '\'' :: rest => literalString rest
  | cs =>
    let chars := cs.takeWhile isBareKeyChar
    if chars.isEmpty then none else some (String.ofList chars, cs.dropWhile isBareKeyChar)

/-- A key of at most so many parts, up to and including the character that ends it. -/
def keyWithin (mark : Char) : Nat → List Char → Option (Key × List Char)
  | 0, _ => none
  | limit + 1, cs =>
    match simpleKey (skipSpaces cs) with
    | none => none
    | some (part, rest) =>
      match skipSpaces rest with
      | '.' :: rest =>
        (keyWithin mark limit rest).map fun (key, rest) =>
          ({ key with path := part :: key.path }, rest)
      | c :: rest => if c == mark then some (⟨[], part⟩, rest) else none
      | [] => none

/-- Keys have fewer parts than this, and so many brackets cannot be open at once. -/
def nestingLimit : Nat := 80

/-- A key up to and including the character that ends it. -/
def keyBefore (mark : Char) (cs : List Char) : Option (Key × List Char) :=
  keyWithin mark (nestingLimit - 1) cs

theorem length_simpleKey_lt {cs rest : List Char} {part : String}
    (h : simpleKey cs = some (part, rest)) : rest.length < cs.length := by
  simp only [simpleKey] at h
  split at h
  · exact Nat.lt_trans (length_basicString_lt h) (Nat.lt_succ_self _)
  · exact Nat.lt_trans (length_literalString_lt h) (Nat.lt_succ_self _)
  · split at h
    · cases h
    · next nonempty =>
      have := List.length_pos_iff.2 (mt List.isEmpty_iff.2 nonempty)
      have pieces := List.takeWhile_append_dropWhile (p := isBareKeyChar) (l := cs)
      have := congrArg List.length pieces
      rw [List.length_append] at this
      simp only [Option.some.injEq, Prod.mk.injEq] at h
      rw [← h.2]
      omega

theorem length_keyWithin_lt {mark : Char} {limit : Nat} {cs rest : List Char} {key : Key}
    (h : keyWithin mark limit cs = some (key, rest)) : rest.length < cs.length := by
  induction limit generalizing cs key rest with
  | zero => cases h
  | succ limit ih =>
    simp only [keyWithin] at h
    split at h
    · cases h
    · next read =>
      have := length_simpleKey_lt read
      have := length_skipSpaces_le cs
      split at h
      · next after =>
        simp only [Option.map_eq_some_iff, Prod.exists, Prod.mk.injEq] at h
        obtain ⟨_, _, inner, _, rfl⟩ := h
        have := length_lt_of_skipSpaces_eq_cons after
        have := ih inner
        omega
      · next after =>
        split at h
        · simp only [Option.some.injEq, Prod.mk.injEq] at h
          have := length_lt_of_skipSpaces_eq_cons after
          rw [← h.2]
          omega
        · cases h
      · cases h

theorem length_keyBefore_lt {mark : Char} {cs rest : List Char} {key : Key}
    (h : keyBefore mark cs = some (key, rest)) : rest.length < cs.length :=
  length_keyWithin_lt h

end Petstore.Toml
