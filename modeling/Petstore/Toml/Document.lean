import Petstore.Toml.Composite

/-!
# TOML texts

A text is a sequence of lines: a key with its value, the header of a table, a comment, or nothing.
The lines are read into statements first; then the statements are carried out in order on a tree of
tables. Reading yields the table of the whole text, or nothing at all when the text is malformed.
-/

namespace Petstore.Toml

/-- What a line states. -/
inductive Statement where
  | table (key : Key)
  | repeatedTable (key : Key)
  | assignment (key : Key) (value : Value)

/-! ## Lines -/

/-- A value at the top of a text. -/
def topValue : Reader Value :=
  value (nestingLimit - 1)

/-- The header of one of several tables, after its opening brackets. -/
def repeatedHeader (cs : List Char) : Option (Statement × List Char) :=
  match keyBefore ']' cs with
  | some (key, ']' :: rest) => some (.repeatedTable key, rest)
  | _ => none

/-- The header of a table, after its opening bracket. -/
def header (cs : List Char) : Option (Statement × List Char) :=
  (keyBefore ']' cs).map fun (key, rest) => (.table key, rest)

/-- A key with its value. -/
def assignment (cs : List Char) : Option (Statement × List Char) :=
  match keyBefore '=' cs with
  | none => none
  | some (key, rest) =>
    (topValue.read (skipSpaces rest)).map fun (value, rest) => (.assignment key value, rest)

/-- The statement of a line, if it has one; the end of the line is left. -/
def line (cs : List Char) : Option (Option Statement × List Char) :=
  match skipSpaces cs with
  | '[' :: '[' :: rest => (repeatedHeader rest).map fun (statement, rest) => (some statement, rest)
  | '[' :: rest => (header rest).map fun (statement, rest) => (some statement, rest)
  | [] => some (none, [])
  | c :: rest =>
    if c == '#' || c == '\n' || c == '\r' then some (none, c :: rest)
    else (assignment (c :: rest)).map fun (statement, rest) => (some statement, rest)

theorem length_repeatedHeader_lt {cs rest : List Char} {statement : Statement}
    (h : repeatedHeader cs = some (statement, rest)) : rest.length < cs.length := by
  simp only [repeatedHeader] at h
  split at h
  · next read =>
    simp only [Option.some.injEq, Prod.mk.injEq] at h
    rw [← h.2]
    exact Nat.lt_of_succ_lt (length_keyBefore_lt read)
  · cases h

theorem length_header_lt {cs rest : List Char} {statement : Statement}
    (h : header cs = some (statement, rest)) : rest.length < cs.length := by
  simp only [header, Option.map_eq_some_iff, Prod.exists, Prod.mk.injEq] at h
  obtain ⟨_, _, read, _, rfl⟩ := h
  exact length_keyBefore_lt read

theorem length_assignment_lt {cs rest : List Char} {statement : Statement}
    (h : assignment cs = some (statement, rest)) : rest.length < cs.length := by
  simp only [assignment] at h
  split at h
  · cases h
  · next afterKey keyRead =>
    simp only [Option.map_eq_some_iff, Prod.exists, Prod.mk.injEq] at h
    obtain ⟨_, _, read, _, rfl⟩ := h
    have := length_keyBefore_lt keyRead
    have := length_skipSpaces_le afterKey
    have := topValue.shrinks read
    omega

theorem length_line_le {cs rest : List Char} {statement : Option Statement}
    (h : line cs = some (statement, rest)) : rest.length ≤ cs.length := by
  have := length_skipSpaces_le cs
  simp only [line] at h
  split at h
  · next start =>
    simp only [Option.map_eq_some_iff, Prod.exists, Prod.mk.injEq] at h
    obtain ⟨_, _, read, _, rfl⟩ := h
    have := length_repeatedHeader_lt read
    have := length_lt_of_skipSpaces_eq_cons start
    simp only [List.length_cons] at this
    omega
  · next start =>
    simp only [Option.map_eq_some_iff, Prod.exists, Prod.mk.injEq] at h
    obtain ⟨_, _, read, _, rfl⟩ := h
    have := length_header_lt read
    have := length_lt_of_skipSpaces_eq_cons start
    omega
  · simp only [Option.some.injEq, Prod.mk.injEq] at h
    simp [← h.2]
  · next start =>
    rw [start] at this
    split at h
    · simp only [Option.some.injEq, Prod.mk.injEq] at h
      exact h.2 ▸ this
    · simp only [Option.map_eq_some_iff, Prod.exists, Prod.mk.injEq] at h
      obtain ⟨_, _, read, _, rfl⟩ := h
      exact Nat.le_trans (Nat.le_of_lt (length_assignment_lt read)) this

/-- The statements of a text; `done` holds those of the lines before, latest first. -/
def statements (done : List Statement) (cs : List Char) : Option (List Statement) :=
  match cs with
  | [] => some done.reverse
  | c :: cs =>
    match _read : line (c :: cs) with
    | none => none
    | some (statement, afterLine) =>
      match _ended : lineEnd? afterLine with
      | none => none
      | some rest => statements (statement.toList ++ done) rest
termination_by cs.length
decreasing_by
  have := length_line_le _read
  rcases length_lineEnd?_lt _ended with rfl | _
  · exact Nat.succ_pos _
  · omega

/-! ## The whole text -/

/-- What has been read: the tree, and the path of the table whose header came last. -/
structure Reading where
  root : Entries := []
  current : List String := []

/-- Carry out a statement. -/
def Reading.carryOut? (reading : Reading) : Statement → Option Reading
  | .table key => (reading.root.define key).map (⟨·, key.parts⟩)
  | .repeatedTable key => (reading.root.append key).map (⟨·, key.parts⟩)
  | .assignment key value =>
    (reading.root.within reading.current (Entries.assign key value)).map (⟨·, reading.current⟩)

/-- The entries of the table that a text describes. A byte order mark at its front is skipped. -/
def parse? (text : String) : Option (List (String × Value)) := do
  let cs := match text.toList with
    | '\uFEFF' :: rest => rest
    | cs => cs
  let reading ← (← statements [] cs).foldlM Reading.carryOut? {}
  some (entriesToValues reading.root)

end Petstore.Toml
