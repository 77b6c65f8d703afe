/-!
# Pieces of a text

Splitting at a separator, removing a beginning and trimming an end, all on lists, so that the same
definitions serve characters (paths, comma-separated values) and bytes (form bodies).

* `intercalate_pieces`: joining the pieces with the separator gives the list back.
* `after?_eq_some_iff`: what is left after a beginning is exactly the rest of the list.
-/

namespace Petstore.Text

/-! ## Splitting -/

/-- Put one element in front of the first piece. -/
def extendFirst (x : α) : List (List α) → List (List α)
  | [] => [[x]]
  | p :: ps => (x :: p) :: ps

/-- The pieces between the occurrences of `sep`: one more than there are separators. -/
def pieces [DecidableEq α] (sep : α) (xs : List α) : List (List α) :=
  xs.foldr (fun x ps => if x = sep then [] :: ps else extendFirst x ps) [[]]

@[simp] theorem pieces_nil [DecidableEq α] (sep : α) : pieces sep [] = [[]] := rfl

theorem pieces_cons [DecidableEq α] (sep x : α) (xs : List α) :
    pieces sep (x :: xs) =
      if x = sep then [] :: pieces sep xs else extendFirst x (pieces sep xs) := rfl

theorem pieces_eq_splitOn [DecidableEq α] (sep : α) (xs : List α) :
    pieces sep xs = xs.splitOn sep := by
  induction xs with
  | nil => simp
  | cons x xs ih =>
    rw [pieces_cons, List.splitOn_cons_eq_if_modifyHead, ih]
    simp only [beq_iff_eq]
    split
    · rfl
    · match pieces : xs.splitOn sep with
      | [] => exact absurd pieces (List.splitOn_ne_nil sep xs)
      | p :: ps => rfl

theorem pieces_ne_nil [DecidableEq α] (sep : α) (xs : List α) : pieces sep xs ≠ [] := by
  rw [pieces_eq_splitOn]
  exact List.splitOn_ne_nil sep xs

/-- Splitting loses nothing but the separators. -/
theorem intercalate_pieces [DecidableEq α] (sep : α) (xs : List α) :
    [sep].intercalate (pieces sep xs) = xs := by
  rw [pieces_eq_splitOn, List.intercalate_splitOn]

theorem pieces_injective [DecidableEq α] {sep : α} {xs ys : List α}
    (same : pieces sep xs = pieces sep ys) : xs = ys := by
  rw [← intercalate_pieces sep xs, same, intercalate_pieces]

/-- Joined lists without separators are the pieces again. -/
theorem pieces_intercalate [DecidableEq α] {sep : α} {ps : List (List α)} (nonempty : ps ≠ [])
    (clean : ∀ p ∈ ps, sep ∉ p) : pieces sep ([sep].intercalate ps) = ps := by
  rw [pieces_eq_splitOn, List.splitOn_intercalate sep clean nonempty]

theorem pieces_append_cons [DecidableEq α] (sep : α) (xs ys : List α) :
    pieces sep (xs ++ sep :: ys) = pieces sep xs ++ pieces sep ys := by
  simp only [pieces_eq_splitOn, List.splitOn_append_cons_self]

/-- The pieces hold every element but the separators. -/
theorem mem_flatten_pieces [DecidableEq α] {sep x : α} {xs : List α} :
    x ∈ (pieces sep xs).flatten ↔ x ∈ xs ∧ x ≠ sep := by
  induction xs with
  | nil => simp
  | cons y ys ih =>
    have first (ps : List (List α)) : (extendFirst y ps).flatten = y :: ps.flatten := by
      cases ps <;> rfl
    rw [pieces_cons]
    split
    · next isSep =>
      rw [List.flatten_cons, List.nil_append, ih]
      grind
    · rw [first, List.mem_cons, List.mem_cons, ih]
      grind

theorem not_mem_of_mem_pieces [DecidableEq α] {sep : α} {xs p : List α}
    (member : p ∈ pieces sep xs) : sep ∉ p :=
  fun inside => (mem_flatten_pieces.mp (List.mem_flatten.mpr ⟨p, member, inside⟩)).2 rfl

/-- The lists before and after the first `sep`; everything is before when there is none. -/
def cut [DecidableEq α] (sep : α) (xs : List α) : List α × List α :=
  (xs.takeWhile (· ≠ sep), (xs.dropWhile (· ≠ sep)).drop 1)

/-! ## Beginnings and ends -/

/-- What follows the given beginning, if the list begins with it. -/
def after? [DecidableEq α] : List α → List α → Option (List α)
  | [], xs => some xs
  | _ :: _, [] => none
  | b :: bs, x :: xs => if b = x then after? bs xs else none

theorem after?_eq_some_iff [DecidableEq α] {start xs rest : List α} :
    after? start xs = some rest ↔ xs = start ++ rest := by
  induction start generalizing xs with
  | nil => simp [after?]
  | cons b bs ih =>
    cases xs with
    | nil => simp [after?]
    | cons x xs =>
      by_cases h : b = x
      · subst h
        simp [after?, ih]
      · have h' : x ≠ b := fun e => h e.symm
        simp [after?, h, h']

/-- The list without the elements at its end that satisfy `p`. -/
def trimEnd (p : α → Bool) (xs : List α) : List α :=
  (xs.reverse.dropWhile p).reverse

/-- The list is what is kept of it and what is taken away from its end. -/
theorem trimEnd_append (p : α → Bool) (xs : List α) :
    trimEnd p xs ++ (xs.reverse.takeWhile p).reverse = xs := by
  rw [trimEnd, ← List.reverse_append, List.takeWhile_append_dropWhile, List.reverse_reverse]

/-- Only elements that satisfy `p` are taken away from the end. -/
theorem mem_trimEnd {p : α → Bool} {xs : List α} {x : α} (kept : p x = false) :
    x ∈ trimEnd p xs ↔ x ∈ xs := by
  have taken : x ∉ xs.reverse.takeWhile p := by
    intro member
    have satisfied : (xs.reverse.takeWhile p).all p = true := List.all_takeWhile
    exact absurd (List.all_eq_true.mp satisfied x member) (by simp [kept])
  have everywhere : x ∈ xs ↔ x ∈ trimEnd p xs ++ (xs.reverse.takeWhile p).reverse := by
    rw [trimEnd_append]
  rw [everywhere, List.mem_append, List.mem_reverse]
  exact (or_iff_left taken).symm

/-- The list without the elements at either end that satisfy `p`. -/
def trimBoth (p : α → Bool) (xs : List α) : List α :=
  trimEnd p (xs.dropWhile p)

/-! ## Texts -/

/-- The texts between the occurrences of a separator character. -/
def split (sep : Char) (text : String) : List String :=
  (pieces sep text.toList).map String.ofList

/-- The texts joined with `sep` between neighbours. -/
def join (sep : String) (texts : List String) : String :=
  sep.intercalate texts

/-- `text` filled up with blanks on the right to at least `width` characters. -/
def padRight (width : Nat) (text : String) : String :=
  text ++ String.ofList (List.replicate (width - text.length) ' ')

end Petstore.Text
