import Mathlib.Data.List.DropRight
import Mathlib.Data.List.TakeWhile
import Petstore.Text.Blank

/-!
# Trimmed texts

Where one element is trimmed from the end of a list, what is taken away are copies of it, as many as
there are, and what is left ends otherwise. What was trimmed at both ends is not trimmed further.
-/

namespace Petstore.Text

/-! ## Copies at the end -/

section Copies

variable {α : Type} [DecidableEq α]

/-- Further copies at the end are trimmed with the others. -/
theorem trimEnd_append_replicate (c : α) (xs : List α) (n : Nat) :
    trimEnd (· == c) (xs ++ List.replicate n c) = trimEnd (· == c) xs := by
  induction n with
  | zero => rw [List.replicate_zero, List.append_nil]
  | succ n ih =>
    have last : trimEnd (· == c) (xs ++ List.replicate n c ++ [c]) =
        trimEnd (· == c) (xs ++ List.replicate n c) :=
      List.rdropWhile_concat_pos _ _ c (beq_self_eq_true c)
    rw [List.replicate_succ', ← List.append_assoc, last, ih]

/-- Nothing but copies is taken away. -/
theorem exists_eq_trimEnd_append_replicate (c : α) (xs : List α) :
    ∃ n, xs = trimEnd (· == c) xs ++ List.replicate n c := by
  have copies : ∀ x ∈ xs.reverse.takeWhile (· == c), x = c := by
    intro x member
    have same := List.mem_takeWhile_imp member
    exact eq_of_beq same
  refine ⟨(xs.reverse.takeWhile (· == c)).length, ?_⟩
  calc xs
      = trimEnd (· == c) xs ++ (xs.reverse.takeWhile (· == c)).reverse :=
        (trimEnd_append _ _).symm
    _ = trimEnd (· == c) xs ++ List.replicate (xs.reverse.takeWhile (· == c)).length c := by
        rw [List.eq_replicate_of_mem copies, List.reverse_replicate, List.length_replicate]

/-- No copy is left at the end. -/
theorem getLast?_trimEnd_ne (c : α) (xs : List α) : (trimEnd (· == c) xs).getLast? ≠ some c := by
  intro last
  rw [trimEnd, List.getLast?_reverse] at last
  have other := List.head?_dropWhile_not (· == c) xs.reverse
  rw [last] at other
  simp at other

end Copies

/-! ## Both ends -/

section Both

variable {α : Type} {p : α → Bool} {xs : List α}

/-- What is left begins with nothing to be trimmed, so trimming it again changes nothing. -/
theorem trimBoth_trimBoth (p : α → Bool) (xs : List α) :
    trimBoth p (trimBoth p xs) = trimBoth p xs := by
  have front : (trimBoth p xs).dropWhile p = trimBoth p xs := by
    obtain ⟨back, whole⟩ := List.rdropWhile_prefix p (xs.dropWhile p)
    have whole : trimBoth p xs ++ back = xs.dropWhile p := whole
    cases kept : trimBoth p xs with
    | nil => rfl
    | cons y ys =>
      rw [kept, List.cons_append] at whole
      have first := List.head_dropWhile_not p (by rw [← whole]; exact List.cons_ne_nil _ _)
      simp only [← whole, List.head_cons] at first
      exact List.dropWhile_cons_of_neg (by simp [first])
  rw [trimBoth, front]
  exact List.rdropWhile_idempotent p _

theorem mem_of_mem_trimBoth {x : α} (inside : x ∈ trimBoth p xs) : x ∈ xs :=
  (List.dropWhile_sublist p).subset ((List.rdropWhile_prefix p (xs.dropWhile p)).subset inside)

theorem trim_trim (text : String) : trim (trim text) = trim text := by
  rw [trim, trim, String.toList_ofList, trimBoth_trimBoth]

end Both

end Petstore.Text
