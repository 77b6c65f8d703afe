import Mathlib.Data.List.TakeWhile
import Petstore.Http.Target
import Petstore.Proofs.Routing.Template
import Petstore.Proofs.Text.Utf8

/-!
# Paths of request targets

The path of a target always begins with a slash (`rooted_of_parse`). A text that begins with a slash
is the path of the target that it is written as exactly if it holds nothing but bytes of paths and
is not too long (`parse_eq_path_iff`); a question mark or a number sign would end the path before.
-/

namespace Petstore.Target

/-! ## Texts of bytes -/

theorem toList_textOf_append_cons {b : UInt8} (ascii : b < 0x80) (front back : Bytes) :
    (textOf (front ++ b :: back)).toList =
      (textOf front).toList ++ Char.ofNat b.toNat :: (textOf back).toList :=
  Utf8.toList_decodeLossy_append_cons ascii front back

theorem head?_textOf_slash (bytes : Bytes) :
    (textOf (0x2F :: bytes)).toList.head? = some '/' := by
  have ascii : (0x2F : UInt8) < 0x80 := by decide
  have split := toList_textOf_append_cons ascii [] bytes
  rw [List.nil_append] at split
  rw [split]
  rfl

theorem takeWhile_ne_of_not_mem {stop : UInt8} {bytes : Bytes} (absent : stop ∉ bytes) :
    bytes.takeWhile (· != stop) = bytes := by
  refine List.takeWhile_eq_self_iff.mpr fun b inside => ?_
  rw [bne_iff_ne]
  exact ne_of_mem_of_not_mem inside absent

/-- What an ASCII byte ends has another text than the whole. -/
theorem textOf_takeWhile_ne {stop : UInt8} (ascii : stop < 0x80) {bytes : Bytes}
    (stopped : stop ∈ bytes) : textOf (bytes.takeWhile (· != stop)) ≠ textOf bytes := by
  obtain ⟨front, back, rfl, before⟩ := List.eq_append_cons_of_mem stopped
  have ended : (front ++ stop :: back).takeWhile (· != stop) = front := by
    rw [List.takeWhile_append, takeWhile_ne_of_not_mem before]
    simp
  intro same
  -- The byte that ends it is a character of its own, so the whole is longer by one at least.
  have longer := congrArg (fun text => text.toList.length) same
  simp [ended, toList_textOf_append_cons ascii] at longer

/-! ## Paths begin with a slash -/

/-- The bytes before a fragment. -/
def beforeFragment (bytes : Bytes) : Bytes :=
  bytes.takeWhile (· != 0x23)

/-- The bytes before a query and a fragment. -/
def pathBytes (bytes : Bytes) : Bytes :=
  (beforeFragment bytes).takeWhile (· != 0x3F)

/-- The path that is read from bytes; an empty one is the root. -/
def pathOf (bytes : Bytes) : String :=
  if (pathBytes bytes).isEmpty then "/" else textOf (pathBytes bytes)

/-- Path and query are read apart, once the fragment is gone. -/
theorem ofPathAndQuery_eq (bytes : Bytes) :
    ofPathAndQuery bytes =
      if !(pathBytes bytes).all isPathByte then .error .invalidCharacter
      else match (beforeFragment bytes).drop (pathBytes bytes).length with
        | [] => .ok (.path (pathOf bytes) none)
        | _ :: query =>
          if query.all isQueryByte then .ok (.path (pathOf bytes) (some (textOf query)))
          else .error .invalidCharacter := rfl

theorem of_ofPathAndQuery {bytes : Bytes} {path : String} {query : Option String}
    (read : ofPathAndQuery bytes = .ok (.path path query)) :
    (pathBytes bytes).all isPathByte = true ∧ path = pathOf bytes ∧
      (query = none → pathBytes bytes = beforeFragment bytes) := by
  rw [ofPathAndQuery_eq] at read
  split at read
  · cases read
  · next clean =>
    rw [Bool.not_eq_true', Bool.not_eq_false] at clean
    split at read
    · next ended =>
      cases read
      refine ⟨clean, rfl, fun _ => ?_⟩
      have split := List.takeWhile_prefix (· != 0x3F) (l := beforeFragment bytes)
      exact split.eq_of_length_le (List.drop_eq_nil_iff.mp ended)
    · split at read
      · cases read
        exact ⟨clean, rfl, fun none => nomatch none⟩
      · cases read

/-- A byte with which a path, a query or a fragment begins. -/
def Begins (b : UInt8) : Prop :=
  b = 0x2F ∨ b = 0x3F ∨ b = 0x23

theorem rooted_of_ofPathAndQuery {bytes : Bytes} {path : String} {query : Option String}
    (begins : ∀ b ∈ bytes.head?, Begins b)
    (read : ofPathAndQuery bytes = .ok (.path path query)) :
    path.toList.head? = some '/' := by
  rw [(of_ofPathAndQuery read).2.1, pathOf]
  cases bytes with
  | nil => rfl
  | cons b bytes =>
    rcases begins b rfl with rfl | rfl | rfl
    · exact head?_textOf_slash _
    · have none : pathBytes (0x3F :: bytes) = [] := rfl
      rw [none]
      rfl
    · have none : pathBytes (0x23 :: bytes) = [] := rfl
      rw [none]
      rfl

theorem drop_length_takeWhile (p : UInt8 → Bool) (bytes : Bytes) :
    bytes.drop (bytes.takeWhile p).length = bytes.dropWhile p :=
  calc bytes.drop (bytes.takeWhile p).length
      = (bytes.takeWhile p ++ bytes.dropWhile p).drop (bytes.takeWhile p).length := by
        rw [List.takeWhile_append_dropWhile]
    _ = bytes.dropWhile p := List.drop_left

/-- What follows an authority begins with a path, a query or a fragment, if with anything. -/
theorem begins_of_afterAuthority {bytes rest : Bytes} (read : afterAuthority bytes = .ok rest) :
    ∀ b ∈ rest.head?, Begins b := by
  obtain ⟨scan, _, read⟩ := bind_eq_ok read
  split at read
  · obtain ⟨_, thrown, _⟩ := bind_eq_ok read
    cases thrown
  · cases read
    intro b first
    have after := List.head?_dropWhile_not (fun b => b != 0x2F && b != 0x3F && b != 0x23) bytes
    rw [← drop_length_takeWhile, Option.mem_def.mp first] at after
    simp only [bne_iff_ne, ne_eq, Bool.and_eq_false_imp, Bool.and_eq_true, bne_eq_false_iff_eq,
      and_imp] at after
    unfold Begins
    tauto

theorem rooted_of_ofAbsolute {bytes : Bytes} {path : String} {query : Option String}
    (read : ofAbsolute bytes = .ok (.path path query)) : path.toList.head? = some '/' := by
  unfold ofAbsolute at read
  split at read
  · obtain ⟨rest, _, read⟩ := bind_eq_ok read
    split at read
    · cases read
    · cases read
  · dsimp only at read
    split at read
    · obtain ⟨_, thrown, _⟩ := bind_eq_ok read
      cases thrown
    · split at read
      · obtain ⟨_, thrown, _⟩ := bind_eq_ok read
        cases thrown
      · obtain ⟨rest, after, read⟩ := bind_eq_ok read
        split at read
        · obtain ⟨_, thrown, _⟩ := bind_eq_ok read
          cases thrown
        · exact rooted_of_ofPathAndQuery (begins_of_afterAuthority after) read

theorem rooted_of_parse {text path : String} {query : Option String}
    (parsed : parse text = .ok (.path path query)) : path.toList.head? = some '/' := by
  unfold parse at parsed
  split at parsed
  · cases parsed
  · cases parsed
  · split at parsed
    · cases parsed
    · exact rooted_of_ofPathAndQuery (by simp [Begins]) parsed
  · obtain ⟨rest, _, parsed⟩ := bind_eq_ok parsed
    split at parsed
    · cases parsed
    · cases parsed
  · split at parsed
    · cases parsed
    · exact rooted_of_ofAbsolute parsed

/-- The path of a target as a URI has it: an authority has none. -/
def pathText : Target → String
  | path text _ => text
  | authority => ""
  | asterisk => "*"

/-- The target is a path, and not an authority or the asterisk. -/
def isPath : Target → Bool
  | path _ _ => true
  | authority | asterisk => false

/-- The targets that are paths are those whose path begins with a slash. -/
theorem isPath_iff_of_parse {text : String} {target : Target} (parsed : parse text = .ok target) :
    target.isPath = true ↔ target.pathText.toList.head? = some '/' := by
  cases target with
  | path written query => exact iff_of_true rfl (rooted_of_parse parsed)
  | authority => exact iff_of_false Bool.false_ne_true (by decide)
  | asterisk => exact iff_of_false Bool.false_ne_true (by decide)

/-! ## Paths as they are written -/

theorem encode_of_rooted {text : String} (rooted : text.toList.head? = some '/') :
    ∃ rest, Utf8.encode text = 0x2F :: rest := by
  obtain ⟨rest, split⟩ := List.head?_eq_some_iff.mp rooted
  exact ⟨Utf8.encodeChars rest, by rw [Utf8.encode, split]; rfl⟩

theorem parse_of_rooted {text : String} (rooted : text.toList.head? = some '/') :
    parse text =
      if (Utf8.encode text).length ≤ 65534 then ofPathAndQuery (Utf8.encode text)
      else .error .tooLong := by
  obtain ⟨rest, encoded⟩ := encode_of_rooted rooted
  have opened : parse text =
      if 65534 ≤ rest.length then .error .tooLong else ofPathAndQuery (0x2F :: rest) := by
    unfold parse
    rw [encoded]
    rfl
  rw [opened, encoded, List.length_cons]
  by_cases long : 65534 ≤ rest.length
  · rw [if_pos long, if_neg (by omega)]
  · rw [if_neg long, if_pos (by omega)]

theorem ofPathAndQuery_of_all {bytes : Bytes} (clean : ∀ b ∈ bytes, isPathByte b = true)
    (nonempty : bytes ≠ []) : ofPathAndQuery bytes = .ok (.path (textOf bytes) none) := by
  have noFragment : bytes.takeWhile (· != 0x23) = bytes :=
    takeWhile_ne_of_not_mem fun inside => absurd (clean _ inside) (by decide)
  have noQuery : bytes.takeWhile (· != 0x3F) = bytes :=
    takeWhile_ne_of_not_mem fun inside => absurd (clean _ inside) (by decide)
  have clean' : bytes.all isPathByte = true := List.all_eq_true.mpr clean
  simp [ofPathAndQuery, noFragment, noQuery, clean', nonempty]

/-- **Paths as they are written.** A text that begins with a slash is read as a target whose path is
that text exactly if it consists of bytes of paths and is not too long. -/
theorem parse_eq_path_iff {text : String} (rooted : text.toList.head? = some '/') :
    parse text = .ok (.path text none) ↔
      (∀ b ∈ Utf8.encode text, isPathByte b = true) ∧ (Utf8.encode text).length ≤ 65534 := by
  have text_eq : textOf (Utf8.encode text) = text := Utf8.decodeLossy_encode text
  obtain ⟨rest, encoded⟩ := encode_of_rooted rooted
  rw [parse_of_rooted rooted]
  constructor
  · intro parsed
    split at parsed
    · next fits =>
      obtain ⟨clean, path, whole⟩ := of_ofPathAndQuery parsed
      have nonempty : (pathBytes (Utf8.encode text)).isEmpty = false := by rw [encoded]; rfl
      rw [pathOf, nonempty, if_neg Bool.false_ne_true, whole rfl] at path
      have noFragment : 0x23 ∉ Utf8.encode text := fun inside =>
        textOf_takeWhile_ne (by decide) inside (path.symm.trans text_eq.symm)
      rw [whole rfl, beforeFragment, takeWhile_ne_of_not_mem noFragment] at clean
      exact ⟨List.all_eq_true.mp clean, fits⟩
    · cases parsed
  · rintro ⟨clean, fits⟩
    rw [if_pos fits, ofPathAndQuery_of_all clean (by rw [encoded]; exact List.cons_ne_nil _ _),
      text_eq]

end Petstore.Target
