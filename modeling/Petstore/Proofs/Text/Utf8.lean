import Petstore.Text.Utf8

/-!
# Texts as bytes and back

Decoding reads back what encoding writes (`decodeLossy_encode`), whatever else follows. Bytes that
were not encoded may break off anywhere, but an ASCII byte always stands for itself and ends what
came before it, so decoding can be done on either side of it (`marks_append_cons`), and ASCII bytes
alone are those of a text (`encode_ofList_of_ascii`).
-/

namespace Petstore.Utf8

/-! ## Runs of the machine -/

theorem marksFrom_eq_append (state : State) (done : List Mark) (bytes : Bytes) :
    marksFrom state done bytes = done.reverse ++ marksFrom state [] bytes := by
  induction bytes generalizing state done with
  | nil => rfl
  | cons b bytes ih =>
    simp only [marksFrom]
    rw [ih, ih _ (_ ++ [])]
    simp

theorem marksFrom_cons (state : State) (b : UInt8) (bytes : Bytes) :
    marksFrom state [] (b :: bytes) =
      (step state b).1 ++ marksFrom (step state b).2 [] bytes := by
  simp only [marksFrom]
  rw [marksFrom_eq_append]
  simp

/-! ## Scalar values -/

theorem start_of_ascii {n : Nat} (ascii : n ≤ 127) :
    start (UInt8.ofNat n) = ([some (Char.ofNat n)], .rest) := by
  have small : (UInt8.ofNat n).toNat = n := by
    rw [UInt8.toNat_ofNat']
    omega
  have low : UInt8.ofNat n < 0x80 := by
    rw [UInt8.lt_iff_toNat_lt, small]
    exact Nat.lt_succ_of_le ascii
  rw [start, if_pos low, small]

theorem start_of_two : ∀ lead < 32, 2 ≤ lead →
    start (UInt8.ofNat (lead + 192)) = ([], .inside 1 0x80 0xBF lead) := by
  decide

/-- Below the first lead byte the range begins later, so that nothing is written too long, and below
the thirteenth it ends before the surrogates. -/
theorem start_of_three : ∀ lead < 16, start (UInt8.ofNat (lead + 224)) =
    ([], .inside 2 (if lead = 0 then 0xA0 else 0x80) (if lead = 13 then 0x9F else 0xBF) lead) := by
  decide

theorem start_of_four : ∀ lead < 5, start (UInt8.ofNat (lead + 240)) =
    ([], .inside 3 (if lead = 0 then 0x90 else 0x80) (if lead = 4 then 0x8F else 0xBF) lead) := by
  decide

/-- A byte in the range brings six more bits. -/
theorem step_inside {owed bits six : Nat} {low high : UInt8} (small : six < 64)
    (above : low.toNat ≤ six + 128) (below : six + 128 ≤ high.toNat) :
    step (.inside owed low high bits) (UInt8.ofNat (six + 128)) =
      if owed ≤ 1 then ([some (Char.ofNat (bits * 64 + six))], .rest)
      else ([], .inside (owed - 1) 0x80 0xBF (bits * 64 + six)) := by
  have value : (UInt8.ofNat (six + 128)).toNat = six + 128 := by
    rw [UInt8.toNat_ofNat']
    omega
  have inRange : (low ≤ UInt8.ofNat (six + 128) && UInt8.ofNat (six + 128) ≤ high) = true := by
    rw [Bool.and_eq_true, decide_eq_true_eq, decide_eq_true_eq, UInt8.le_iff_toNat_le,
      UInt8.le_iff_toNat_le, value]
    exact ⟨above, below⟩
  have bits' : (six + 128) % 64 = six := by omega
  rw [step, if_pos inRange, value, bits']

theorem marksFrom_rest_of_lead {b : UInt8} {state : State} (lead : start b = ([], state))
    (bytes : Bytes) : marksFrom .rest [] (b :: bytes) = marksFrom state [] bytes := by
  rw [marksFrom_cons, step, lead]
  rfl

section Inside

variable {bits six : Nat} {low high : UInt8} (small : six < 64) (above : low.toNat ≤ six + 128)
  (below : six + 128 ≤ high.toNat) (bytes : Bytes)

include small above below

theorem marksFrom_inside_more (owed : Nat) :
    marksFrom (.inside (owed + 2) low high bits) [] (UInt8.ofNat (six + 128) :: bytes) =
      marksFrom (.inside (owed + 1) 0x80 0xBF (bits * 64 + six)) [] bytes := by
  rw [marksFrom_cons, step_inside small above below, if_neg (by omega)]
  rfl

theorem marksFrom_inside_last :
    marksFrom (.inside 1 low high bits) [] (UInt8.ofNat (six + 128) :: bytes) =
      some (Char.ofNat (bits * 64 + six)) :: marksFrom .rest [] bytes := by
  rw [marksFrom_cons, step_inside small above below, if_pos (Nat.le_refl 1)]
  rfl

end Inside

/-! ## The four lengths of a scalar value -/

section Lengths

variable {v : Nat} (rest : Bytes)

theorem mod_lt_64 (n : Nat) : n % 64 < 64 :=
  Nat.mod_lt n (by decide)

/-- Any six bits make a byte that continues a scalar value. -/
theorem tail_bounds (n : Nat) :
    (0x80 : UInt8).toNat ≤ n % 64 + 128 ∧ n % 64 + 128 ≤ (0xBF : UInt8).toNat :=
  ⟨Nat.le_add_left _ _, Nat.add_le_add_right (Nat.le_of_lt_succ (mod_lt_64 n)) _⟩

theorem marksFrom_two (long : ¬ v ≤ 127) (fits : v ≤ 2047) :
    marksFrom .rest [] ([UInt8.ofNat (v / 64 % 32 + 192), UInt8.ofNat (v % 64 + 128)] ++ rest) =
      some (Char.ofNat v) :: marksFrom .rest [] rest := by
  have lead : v / 64 % 32 = v / 64 := by omega
  have whole : v / 64 * 64 + v % 64 = v := by omega
  simp only [List.cons_append, List.nil_append, lead]
  rw [marksFrom_rest_of_lead (start_of_two _ (by omega) (by omega)),
    marksFrom_inside_last (mod_lt_64 v) (tail_bounds v).1 (tail_bounds v).2, whole]

theorem marksFrom_three (long : ¬ v ≤ 2047) (fits : v ≤ 65535)
    (valid : v < 0xD800 ∨ 0xDFFF < v) :
    marksFrom .rest []
        ([UInt8.ofNat (v / 4096 % 16 + 224), UInt8.ofNat (v / 64 % 64 + 128),
          UInt8.ofNat (v % 64 + 128)] ++ rest) =
      some (Char.ofNat v) :: marksFrom .rest [] rest := by
  have lead : v / 4096 % 16 = v / 4096 := by omega
  have whole : (v / 4096 * 64 + v / 64 % 64) * 64 + v % 64 = v := by omega
  have above : (if v / 4096 = 0 then 0xA0 else 0x80 : UInt8).toNat ≤ v / 64 % 64 + 128 := by
    split
    · have least : (0xA0 : UInt8).toNat = 160 := rfl
      omega
    · exact (tail_bounds _).1
  have below : v / 64 % 64 + 128 ≤ (if v / 4096 = 13 then 0x9F else 0xBF : UInt8).toNat := by
    split
    · have greatest : (0x9F : UInt8).toNat = 159 := rfl
      omega
    · exact (tail_bounds _).2
  simp only [List.cons_append, List.nil_append, lead]
  rw [marksFrom_rest_of_lead (start_of_three _ (by omega)),
    marksFrom_inside_more (mod_lt_64 _) above below,
    marksFrom_inside_last (mod_lt_64 v) (tail_bounds v).1 (tail_bounds v).2, whole]

theorem marksFrom_four (long : ¬ v ≤ 65535) (fits : v < 0x110000) :
    marksFrom .rest []
        ([UInt8.ofNat (v / 262144 % 8 + 240), UInt8.ofNat (v / 4096 % 64 + 128),
          UInt8.ofNat (v / 64 % 64 + 128), UInt8.ofNat (v % 64 + 128)] ++ rest) =
      some (Char.ofNat v) :: marksFrom .rest [] rest := by
  have lead : v / 262144 % 8 = v / 262144 := by omega
  have whole : ((v / 262144 * 64 + v / 4096 % 64) * 64 + v / 64 % 64) * 64 + v % 64 = v := by
    omega
  have above : (if v / 262144 = 0 then 0x90 else 0x80 : UInt8).toNat ≤ v / 4096 % 64 + 128 := by
    split
    · have least : (0x90 : UInt8).toNat = 144 := rfl
      omega
    · exact (tail_bounds _).1
  have below : v / 4096 % 64 + 128 ≤ (if v / 262144 = 4 then 0x8F else 0xBF : UInt8).toNat := by
    split
    · have greatest : (0x8F : UInt8).toNat = 143 := rfl
      omega
    · exact (tail_bounds _).2
  simp only [List.cons_append, List.nil_append, lead]
  rw [marksFrom_rest_of_lead (start_of_four _ (by omega)),
    marksFrom_inside_more (mod_lt_64 _) above below,
    marksFrom_inside_more (mod_lt_64 _) (tail_bounds _).1 (tail_bounds _).2,
    marksFrom_inside_last (mod_lt_64 v) (tail_bounds v).1 (tail_bounds v).2, whole]

end Lengths

/-- A scalar value is read from its bytes, whatever follows them. -/
theorem marksFrom_encodeChar_append (c : Char) (rest : Bytes) :
    marksFrom .rest [] (String.utf8EncodeChar c ++ rest) =
      some c :: marksFrom .rest [] rest := by
  have value : Char.ofNat c.val.toNat = c := Char.ofNat_toNat c
  have valid : c.val.toNat < 0xD800 ∨ 0xDFFF < c.val.toNat ∧ c.val.toNat < 0x110000 := c.valid
  unfold String.utf8EncodeChar
  generalize c.val.toNat = v at value valid
  rw [← value]
  dsimp only
  split
  · next one =>
    rw [List.cons_append, List.nil_append, marksFrom_cons, step, start_of_ascii one]
    rfl
  · next long =>
    split
    · next two => exact marksFrom_two rest long two
    · next longer =>
      split
      · next three => exact marksFrom_three rest longer three (valid.imp_right And.left)
      · next longest => exact marksFrom_four rest longest (by omega)

theorem marks_encodeChars_append (cs : List Char) (rest : Bytes) :
    marks (encodeChars cs ++ rest) = cs.map some ++ marks rest := by
  unfold marks encodeChars
  induction cs with
  | nil => rfl
  | cons c cs ih =>
    rw [List.flatMap_cons, List.append_assoc, marksFrom_encodeChar_append, ih]
    rfl

theorem encodeChars_append (cs ds : List Char) :
    encodeChars (cs ++ ds) = encodeChars cs ++ encodeChars ds :=
  List.flatMap_append

theorem encodeChars_cons (c : Char) (cs : List Char) :
    encodeChars (c :: cs) = String.utf8EncodeChar c ++ encodeChars cs :=
  List.flatMap_cons

/-- An ASCII character is its own byte. -/
theorem encodeChar_of_ascii {c : Char} (ascii : c.toNat < 128) :
    String.utf8EncodeChar c = [UInt8.ofNat c.toNat] := by
  have small : c.val.toNat ≤ 127 := Nat.le_of_lt_succ ascii
  rw [String.utf8EncodeChar, if_pos small]
  rfl

theorem encodeChars_of_ascii {cs : List Char} (ascii : ∀ c ∈ cs, c.toNat < 128) :
    encodeChars cs = cs.map fun c => UInt8.ofNat c.toNat := by
  induction cs with
  | nil => rfl
  | cons c cs ih =>
    rw [List.forall_mem_cons] at ascii
    rw [encodeChars_cons, encodeChar_of_ascii ascii.1, ih ascii.2]
    rfl

/-- Every byte of any other character has its high bit set. -/
theorem le_of_mem_encodeChar {c : Char} (wide : ¬ c.toNat < 128) {b : UInt8}
    (member : b ∈ String.utf8EncodeChar c) : 0x80 ≤ b := by
  have high {n : Nat} (set : 128 ≤ n) (fits : n < 256) : 0x80 ≤ UInt8.ofNat n := by
    have value : (UInt8.ofNat n).toNat = n := by
      rw [UInt8.toNat_ofNat']
      exact Nat.mod_eq_of_lt fits
    rw [UInt8.le_iff_toNat_le, value]
    exact set
  have code : c.toNat = c.val.toNat := rfl
  unfold String.utf8EncodeChar at member
  rw [← code] at member
  generalize c.toNat = n at member wide
  dsimp only at member
  repeat' split at member
  all_goals
    simp only [List.mem_cons, List.not_mem_nil, or_false] at member
  · omega
  · rcases member with rfl | rfl <;> exact high (by omega) (by omega)
  · rcases member with rfl | rfl | rfl <;> exact high (by omega) (by omega)
  · rcases member with rfl | rfl | rfl | rfl <;> exact high (by omega) (by omega)

/-- The byte of an ASCII character is in no other character. -/
theorem byte_not_mem_encodeChar {c d : Char} (ascii : d.toNat < 128) (other : c ≠ d) :
    UInt8.ofNat d.toNat ∉ String.utf8EncodeChar c := by
  have value : (UInt8.ofNat d.toNat).toNat = d.toNat := by
    rw [UInt8.toNat_ofNat']
    omega
  intro member
  by_cases narrow : c.toNat < 128
  · rw [encodeChar_of_ascii narrow, List.mem_singleton, ← UInt8.toNat_inj, value,
      UInt8.toNat_ofNat', Nat.mod_eq_of_lt (by omega)] at member
    exact other (Char.toNat_inj.mp member.symm)
  · have wide := UInt8.le_iff_toNat_le.mp (le_of_mem_encodeChar narrow member)
    have least : (0x80 : UInt8).toNat = 128 := rfl
    omega

/-- A text has the byte of an ASCII character exactly if it has the character. -/
theorem byte_mem_encodeChars_iff {d : Char} (ascii : d.toNat < 128) {cs : List Char} :
    UInt8.ofNat d.toNat ∈ encodeChars cs ↔ d ∈ cs := by
  rw [encodeChars, List.mem_flatMap]
  constructor
  · rintro ⟨c, inside, byte⟩
    by_cases same : c = d
    · exact same ▸ inside
    · exact absurd byte (byte_not_mem_encodeChar ascii same)
  · intro inside
    exact ⟨d, inside, by rw [encodeChar_of_ascii ascii]; exact List.mem_singleton_self _⟩

/-- **Texts survive encoding.** -/
theorem decodeLossy_encode (text : String) : decodeLossy (encode text) = text := by
  have read := marks_encodeChars_append text.toList []
  rw [List.append_nil] at read
  rw [decodeLossy, encode, read]
  simp [Function.comp_def, marks, marksFrom, finish]

/-- Only the text itself has its bytes. -/
theorem encode_inj {text other : String} : encode text = encode other ↔ text = other :=
  Function.Injective.eq_iff (Function.LeftInverse.injective decodeLossy_encode)

theorem toNat_ofNat_of_ascii : ∀ n < 128, (Char.ofNat n).toNat = n := by
  decide

/-- ASCII bytes are those of the text that has a character for each of them. -/
theorem encode_ofList_of_ascii {bytes : Bytes} (ascii : ∀ b ∈ bytes, b < 0x80) :
    encode (String.ofList (bytes.map fun b => Char.ofNat b.toNat)) = bytes := by
  have code : ∀ b ∈ bytes, (Char.ofNat b.toNat).toNat = b.toNat := fun b inside =>
    toNat_ofNat_of_ascii _ (UInt8.lt_iff_toNat_lt.mp (ascii b inside))
  have chars : ∀ c ∈ bytes.map fun b => Char.ofNat b.toNat, c.toNat < 128 := by
    rw [List.forall_mem_map]
    intro b inside
    rw [code b inside]
    exact UInt8.lt_iff_toNat_lt.mp (ascii b inside)
  have same : ∀ b ∈ bytes, UInt8.ofNat (Char.ofNat b.toNat).toNat = b := fun b inside => by
    rw [code b inside, UInt8.ofNat_toNat]
  rw [encode, String.toList_ofList, encodeChars_of_ascii chars, List.map_map]
  exact (List.map_congr_left same).trans (List.map_id' bytes)

/-! ## ASCII bytes between others -/

/-- The least byte that continues a scalar value; at rest that is the least that could. -/
def State.low : State → UInt8
  | rest => 0x80
  | inside _ low _ _ => low

theorem le_low_start (b : UInt8) : 0x80 ≤ (start b).2.low := by
  unfold start
  repeat' split
  all_goals exact UInt8.le_iff_toNat_le.mpr (by simp [State.low])

/-- No scalar value is continued by an ASCII byte. -/
theorem le_low_step (state : State) (b : UInt8) : 0x80 ≤ (step state b).2.low := by
  cases state with
  | rest => exact le_low_start b
  | inside owed low high bits =>
    unfold step
    dsimp only
    split
    · split
      · exact UInt8.le_refl _
      · exact UInt8.le_refl _
    · exact le_low_start b

/-- An ASCII byte breaks off what stands before it, and is read for itself. -/
theorem step_of_ascii {state : State} (sound : 0x80 ≤ state.low) {b : UInt8}
    (ascii : b < 0x80) : step state b = (finish state ++ [some (Char.ofNat b.toNat)], .rest) := by
  have single : start b = ([some (Char.ofNat b.toNat)], .rest) := by rw [start, if_pos ascii]
  cases state with
  | rest => exact single
  | inside owed low high bits =>
    have outside : ¬ (low ≤ b && b ≤ high) = true := by
      rw [Bool.and_eq_true, decide_eq_true_eq]
      exact fun within => absurd (UInt8.le_trans sound within.1) (UInt8.not_le.mpr ascii)
    rw [step, if_neg outside, single]
    rfl

theorem marksFrom_append_cons {state : State} (sound : 0x80 ≤ state.low) {b : UInt8}
    (ascii : b < 0x80) (front back : Bytes) :
    marksFrom state [] (front ++ b :: back) =
      marksFrom state [] front ++ some (Char.ofNat b.toNat) :: marksFrom .rest [] back := by
  induction front generalizing state with
  | nil =>
    rw [List.nil_append, marksFrom_cons, step_of_ascii sound ascii]
    simp [marksFrom]
  | cons c front ih =>
    rw [List.cons_append, marksFrom_cons, marksFrom_cons, ih (le_low_step state c),
      List.append_assoc]

/-- Decoding can be done on either side of an ASCII byte. -/
theorem marks_append_cons {b : UInt8} (ascii : b < 0x80) (front back : Bytes) :
    marks (front ++ b :: back) = marks front ++ some (Char.ofNat b.toNat) :: marks back :=
  marksFrom_append_cons (UInt8.le_refl _) ascii front back

theorem toList_decodeLossy_append_cons {b : UInt8} (ascii : b < 0x80) (front back : Bytes) :
    (decodeLossy (front ++ b :: back)).toList =
      (decodeLossy front).toList ++ Char.ofNat b.toNat :: (decodeLossy back).toList := by
  simp [decodeLossy, marks_append_cons ascii]

end Petstore.Utf8
