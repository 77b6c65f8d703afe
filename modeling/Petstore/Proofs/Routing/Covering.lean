import Petstore.Proofs.Routing.MountOrder
import Petstore.Proofs.Text.Trimming

/-!
# Covering, segment by segment

A mount covers a path exactly if the path, split at its slashes, begins with what the mount is split
into. The text that a mount is made of may end in slashes, and so may a path: neither matters to
what is covered, because the segments of a mount do not end in an empty one. So covering relates
texts as well as mounts, by the order of prefixes among their segments
(`Mount.covers_by_segments`).
-/

namespace Petstore

namespace Mount

variable {mount below : Mount} {text other path : String}

/-! ## Slashes at the end -/

/-- The text of a mount is its path and the slashes after it, and the path does not end in one. -/
theorem ofText_spec (text : String) :
    (∃ n, text.toList = (ofText text).path.toList ++ List.replicate n '/') ∧
      (ofText text).path.toList.getLast? ≠ some '/' := by
  rw [ofText, String.toList_ofList]
  exact ⟨Text.exists_eq_trimEnd_append_replicate '/' _, Text.getLast?_trimEnd_ne '/' _⟩

theorem ofText_append_slashes (text : String) (n : Nat) :
    ofText (text ++ String.ofList (List.replicate n '/')) = ofText text := by
  rw [ofText, ofText, String.toList_append, String.toList_ofList, Text.trimEnd_append_replicate]

/-- A slash at the end of a path adds an empty segment, and no mount that ends otherwise has that
segment for its last one. -/
theorem covers_append_slash (ends : mount.path.toList.getLast? ≠ some '/') :
    mount.covers (path ++ "/") = true ↔ mount.covers path = true := by
  have cut : Text.pieces '/' (path ++ "/").toList = Text.pieces '/' path.toList ++ [[]] := by
    rw [String.toList_append]
    exact Text.pieces_append_cons '/' path.toList []
  rw [covers_iff_pieces, covers_iff_pieces, cut, List.prefix_concat_iff]
  apply or_iff_right
  intro same
  have whole : mount.path.toList = (path ++ "/").toList :=
    Text.pieces_injective (same.trans cut.symm)
  apply ends
  rw [whole, String.toList_append]
  exact List.getLast?_concat

theorem covers_append_slashes (ends : mount.path.toList.getLast? ≠ some '/') (n : Nat) :
    mount.covers (path ++ String.ofList (List.replicate n '/')) = true ↔
      mount.covers path = true := by
  induction n with
  | zero => rw [List.replicate_zero, String.ofList_nil, String.append_empty]
  | succ n ih =>
    have last : path ++ String.ofList (List.replicate (n + 1) '/') =
        path ++ String.ofList (List.replicate n '/') ++ "/" := by
      rw [List.replicate_succ', String.ofList_append, ← String.append_assoc]
    rw [last, covers_append_slash ends, ih]

/-- A mount covers a text exactly if it covers the path of the mount that the text makes. -/
theorem covers_path_ofText :
    (ofText text).covers (ofText other).path = true ↔ (ofText text).covers other = true := by
  obtain ⟨n, split⟩ := (ofText_spec other).1
  have whole : (ofText other).path ++ String.ofList (List.replicate n '/') = other := by
    rw [← String.toList_inj, String.toList_append, String.toList_ofList, split]
  rw [← covers_append_slashes (ofText_spec text).2 n, whole]

/-- It is the same with the mount as it is written. -/
theorem covers_text_ofText :
    (ofText text).covers (ofText other).text = true ↔ (ofText text).covers other = true := by
  refine Iff.trans ?_ covers_path_ofText
  -- Only the root is written otherwise than as its path, with a slash behind it.
  by_cases root : (ofText other).path = ""
  · have slash : (ofText text).covers ("" ++ "/") = true ↔ (ofText text).covers "" = true :=
      covers_append_slash (ofText_spec text).2
    rw [Mount.text, if_pos root, root]
    exact slash
  · rw [Mount.text, if_neg root]

/-! ## Segments -/

theorem covers_iff_split :
    mount.covers path = true ↔ Text.split '/' mount.path <+: Text.split '/' path := by
  rw [covers_iff_pieces, Text.split, Text.split]
  exact (List.prefix_map_iff_of_injective fun _ _ => String.ofList_inj.mp).symm

theorem covers_trans (covered : mount.covers below.path = true)
    (covered' : below.covers path = true) : mount.covers path = true := by
  rw [covers_iff_split] at covered covered' ⊢
  exact covered.trans covered'

/-- **Covering goes by segments.** The path of a mount is the text that it is made of without the
slashes at its end, and it covers exactly the paths whose segments begin with its own. So a mount
covers what is below a text that it covers, of two mounts that cover one path one covers the other,
and slashes behind the text of a mount change nothing. A mount covers the text of another as it is
given exactly if it covers that mount as it is written. -/
theorem covers_by_segments :
    (∀ text : String,
      ((∃ n, text.toList = (ofText text).path.toList ++ List.replicate n '/') ∧
        (ofText text).path.toList.getLast? ≠ some '/') ∧
      ∀ path : String, (ofText text).covers path = true ↔
        Text.split '/' (ofText text).path <+: Text.split '/' path) ∧
    (∀ text other path : String, (ofText text).covers other = true →
      (ofText other).covers path = true → (ofText text).covers path = true) ∧
    (∀ text other path : String, (ofText text).covers path = true →
      (ofText other).covers path = true →
      (ofText text).covers other = true ∨ (ofText other).covers text = true) ∧
    (∀ (text : String) (n : Nat),
      ofText (text ++ String.ofList (List.replicate n '/')) = ofText text) ∧
    ∀ text other : String,
      (ofText text).covers (ofText other).text = true ↔ (ofText text).covers other = true := by
  refine ⟨fun text => ⟨ofText_spec text, fun path => covers_iff_split⟩,
    fun text other path covered covered' => ?_, fun text other path covered covered' => ?_,
    ofText_append_slashes, fun text other => covers_text_ofText⟩
  · rw [← covers_path_ofText] at covered
    exact covers_trans covered covered'
  · rcases covers_or_covers covered covered' with above | below
    · exact Or.inl (covers_path_ofText.mp above)
    · exact Or.inr (covers_path_ofText.mp below)

/-- Doubled slashes inside a mount are segments like others, and those behind it are none. -/
theorem covers_by_segments_doubled :
    (ofText "/pet//").covers "/pet//7/" = true ∧
      (ofText "/pet//7/").covers "/pet//7/tags" = true ∧
      (ofText "/pet//").covers "/pet//7/tags" = true ∧
      ((ofText "/pet//7/").covers "/pet//" = true ∨
        (ofText "/pet//").covers "/pet//7/" = true) := by
  obtain ⟨-, trans, comparable, -⟩ := covers_by_segments
  have above : (ofText "/pet//").covers "/pet//7/" = true := by decide
  have below : (ofText "/pet//7/").covers "/pet//7/tags" = true := by decide
  have both := trans "/pet//" "/pet//7/" "/pet//7/tags" above below
  exact ⟨above, below, both, comparable "/pet//7/" "/pet//" "/pet//7/tags" below both⟩

end Mount

end Petstore
