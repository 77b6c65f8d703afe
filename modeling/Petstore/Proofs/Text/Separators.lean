import Petstore.Text.Pieces

/-!
# Separators of several characters

Splitting a text at every occurrence of a longer separator, from the left. What was joined with the
separator is told apart again, as long as no text has the character with which the separator begins
(`splitBy_join`).
-/

namespace Petstore.Text

section Pieces

variable {β : Type} [DecidableEq β]

/-- The pieces between the occurrences of a separator, found from the left; the first `skip`
elements belong to an occurrence that was found before. -/
def piecesBy (sep : List β) : Nat → List β → List (List β)
  | _, [] => [[]]
  | skip + 1, _ :: xs => piecesBy sep skip xs
  | 0, x :: xs =>
    if sep.isPrefixOf (x :: xs) then [] :: piecesBy sep (sep.length - 1) xs
    else extendFirst x (piecesBy sep 0 xs)

variable {sep : List β} {c : β}

theorem piecesBy_skip (found xs : List β) :
    piecesBy sep found.length (found ++ xs) = piecesBy sep 0 xs := by
  induction found with
  | nil => rfl
  | cons x found ih => exact ih

theorem not_isPrefixOf_cons {x : β} (different : x ≠ c) (xs : List β) :
    ¬ (c :: sep).isPrefixOf (x :: xs) = true := by
  intro same
  rw [List.isPrefixOf_iff_prefix, List.cons_prefix_cons] at same
  exact different same.1.symm

theorem piecesBy_of_not_mem {xs : List β} (absent : c ∉ xs) : piecesBy (c :: sep) 0 xs = [xs] := by
  induction xs with
  | nil => rfl
  | cons x xs ih =>
    rw [List.mem_cons, not_or] at absent
    rw [piecesBy, if_neg (not_isPrefixOf_cons (Ne.symm absent.1) xs), ih absent.2]
    rfl

/-- A piece without the first character of the separator ends where the separator comes. -/
theorem piecesBy_append {xs : List β} (absent : c ∉ xs) (ys : List β) :
    piecesBy (c :: sep) 0 (xs ++ (c :: sep ++ ys)) = xs :: piecesBy (c :: sep) 0 ys := by
  induction xs with
  | nil =>
    have found : (c :: sep).isPrefixOf (c :: (sep ++ ys)) = true := by
      rw [List.isPrefixOf_iff_prefix]
      exact List.prefix_append _ _
    rw [List.nil_append, List.cons_append, piecesBy, if_pos found]
    exact congrArg ([] :: ·) (piecesBy_skip sep ys)
  | cons x xs ih =>
    rw [List.mem_cons, not_or] at absent
    rw [List.cons_append, piecesBy, if_neg (not_isPrefixOf_cons (Ne.symm absent.1) _), ih absent.2]
    rfl

/-- Joined pieces are told apart again if none has the first character of the separator. -/
theorem piecesBy_intercalate {pieces : List (List β)} (nonempty : pieces ≠ [])
    (clean : ∀ piece ∈ pieces, c ∉ piece) :
    piecesBy (c :: sep) 0 ((c :: sep).intercalate pieces) = pieces := by
  induction pieces with
  | nil => exact absurd rfl nonempty
  | cons piece pieces ih =>
    rw [List.forall_mem_cons] at clean
    cases pieces with
    | nil =>
      rw [List.intercalate_singleton]
      exact piecesBy_of_not_mem clean.1
    | cons next pieces =>
      rw [List.intercalate_cons_cons, List.append_assoc, piecesBy_append clean.1,
        ih (by simp) clean.2]

end Pieces

/-- The texts between the occurrences of a separator text. -/
def splitBy (sep text : String) : List String :=
  (piecesBy sep.toList 0 text.toList).map String.ofList

/-- Joined texts are told apart again if none has the first character of the separator. -/
theorem splitBy_join {sep : String} {texts : List String} {c : Char} {rest : List Char}
    (separator : sep.toList = c :: rest) (nonempty : texts ≠ [])
    (clean : ∀ text ∈ texts, c ∉ text.toList) : splitBy sep (join sep texts) = texts := by
  have pieces : (join sep texts).toList = (c :: rest).intercalate (texts.map String.toList) := by
    rw [join, String.toList_intercalate, separator]
  rw [splitBy, pieces, separator, piecesBy_intercalate, List.map_map]
  · simp [Function.comp_def]
  · simpa using nonempty
  · simpa using clean

end Petstore.Text
