import Petstore.Json.Reader
import Petstore.Model.Encoding
import Petstore.Proofs.Json.Scanning

/-!
# Reading what was written

A reader reads a value (`Reader.Reads`) if it takes the text of that value, and nothing of what
follows, for its result. The scalars do this for their own values, and what is built of readers that
do does it too (`Reader.Reads.optional`, `Reader.Reads.list`).
-/

namespace Petstore.Json

open Scan

variable {α β : Type}

/-! ## Blanks -/

theorem of_isOpening {b : UInt8} (opening : isOpening b = true) :
    Ascii.isBlank b = false ∧ b ≠ Ascii.letterN ∧ b ≠ Ascii.closeBracket := by
  have all : ∀ n < 256, isOpening (UInt8.ofNat n) = true →
      Ascii.isBlank (UInt8.ofNat n) = false ∧ UInt8.ofNat n ≠ Ascii.letterN ∧
        UInt8.ofNat n ≠ Ascii.closeBracket := by
    decide +kernel
  have value := all b.toNat b.toNat_lt
  rw [UInt8.ofNat_toNat] at value
  exact value opening

theorem skipBlanks_cons {b : UInt8} (visible : Ascii.isBlank b = false) (rest : Bytes) :
    skipBlanks (b :: rest) = b :: rest :=
  List.dropWhile_cons_of_neg (by simp [visible])

namespace Reader

/-- The reader takes the text of a value for the result: it reads just that text, whatever follows
that cannot belong to a number. -/
structure Reads (reader : Reader α) (json : Json) (a : α) : Prop where
  opens : json.Opens
  read : ∀ {rest : Bytes}, Ended rest → reader.read (json.bytes ++ rest) = .ok (a, rest)

variable {reader : Reader α} {json : Json} {a : α}

/-- A whole text is read if the reader reads it. -/
theorem Reads.document (reads : reader.Reads json a) : reader.document json.bytes = .ok a := by
  have read := reads.read ended_nil
  rw [List.append_nil] at read
  rw [Reader.document, read]
  rfl

theorem Reads.map (reads : reader.Reads json a) (f : α → β) : (reader.map f).Reads json (f a) where
  opens := reads.opens
  read ended := by
    simp only [Reader.map, reads.read ended]

/-! ## Scalars -/

/-- A reader that goes by the first byte does so at once if that is no blank. -/
theorem readByFirst_cons {b : UInt8} (visible : Ascii.isBlank b = false)
    (go : UInt8 → Bytes → Scanned α) (rest : Bytes) : readByFirst go (b :: rest) = go b rest := by
  simp only [readByFirst, skipBlanks_cons visible]

theorem reads_string (text : String) : string.Reads (.string text) text where
  opens := opens_string text
  read {rest} _ := by
    rw [bytes_string, List.cons_append]
    simp only [string, byFirst, readByFirst_cons (b := Ascii.quote) rfl, if_true,
      string_quotedTail]

theorem literal_append (expected rest : Bytes) :
    literal expected (expected ++ rest) = .ok rest := by
  induction expected with
  | nil => rfl
  | cons b expected ih => rw [List.cons_append, literal, if_pos rfl, ih]

theorem reads_boolean (b : Bool) : boolean.Reads (.boolean b) b where
  opens := opens_boolean b
  read {rest} _ := by
    cases b with
    | true =>
      change boolean.read (Ascii.letterT :: (trueTail ++ rest)) = _
      simp only [boolean, byFirst, readByFirst_cons (b := Ascii.letterT) rfl, if_true,
        literal_append, Except.map]
    | false =>
      have other : Ascii.letterF ≠ Ascii.letterT := by decide
      change boolean.read (Ascii.letterF :: (falseTail ++ rest)) = _
      simp only [boolean, byFirst, readByFirst_cons (b := Ascii.letterF) rfl, if_neg other,
        if_true, literal_append, Except.map]

theorem bytes_ofInt (n : Int) :
    (ofInt n).bytes = (if n < 0 then [Ascii.minus] else []) ++ digitBytes n.natAbs := by
  have ascii : ∀ c ∈ (toString n).toList, c.toNat < 128 := by
    intro c member
    rcases Text.isDigit_or_minus_of_mem_toString member with digit | rfl
    · exact Nat.lt_of_le_of_lt (isDigit_iff_toNat.mp digit).2 (by decide)
    · decide
  have whole : (ofInt n).bytes = (toString n).toList.map fun c => UInt8.ofNat c.toNat :=
    Utf8.encodeChars_of_ascii ascii
  rw [whole, Text.toList_toString, List.map_append]
  split
  · rfl
  · rfl

theorem isOpening_of_isDigit {b : UInt8} (digit : Ascii.isDigit b = true) :
    isOpening b = true := by
  simp [isOpening, digit]

theorem exists_digitBytes_eq_cons (n : Nat) :
    ∃ b bs, digitBytes n = b :: bs ∧ Ascii.isDigit b = true := by
  cases split : digitBytes n with
  | nil => exact absurd (List.map_eq_nil_iff.mp split) Nat.toDigits_ne_nil
  | cons b bs => exact ⟨b, bs, rfl, isDigit_of_mem_digitBytes (split ▸ List.mem_cons_self)⟩

theorem opens_ofInt (n : Int) : (ofInt n).Opens := by
  rw [Opens, bytes_ofInt]
  split
  · exact ⟨_, _, rfl, rfl⟩
  · obtain ⟨b, bs, split, digit⟩ := exists_digitBytes_eq_cons n.natAbs
    exact ⟨b, bs, split, isOpening_of_isDigit digit⟩

/-- An integer of the range is read, if machine words hold the range. -/
theorem reads_integer {expected : String} {range : Text.IntRange} {n : Int}
    (words : Text.IntRange.int64.low ≤ range.low ∧ range.high ≤ wordMax) (least : range.low ≤ n)
    (greatest : n ≤ range.high) : (integer expected range).Reads (ofInt n) n where
  opens := opens_ofInt n
  read {rest} ended := by
    have checked : inRange expected range (.ok (.integer n, rest)) = .ok (n, rest) :=
      if_pos (by simp [Text.IntRange.contains, least, greatest])
    have lowest : Text.IntRange.int64.low = -9223372036854775808 := rfl
    rw [bytes_ofInt]
    by_cases negative : n < 0
    · have magnitude : -(n.natAbs : Int) = n := by omega
      have scanned := number_of_neg (n := n.natAbs) (by omega) (by omega) ended
      rw [magnitude] at scanned
      rw [if_pos negative, List.singleton_append, List.cons_append]
      simp only [integer, byFirst, readByFirst_cons (b := Ascii.minus) rfl, if_true, scanned,
        checked]
    · have magnitude : (n.natAbs : Int) = n := by omega
      have scanned := number_of_nonneg (n := n.natAbs) (by omega) ended
      obtain ⟨b, bs, split, digit⟩ := exists_digitBytes_eq_cons n.natAbs
      have notMinus : b ≠ Ascii.minus := by
        rintro rfl
        cases digit
      rw [magnitude, split, List.cons_append] at scanned
      have visible := (of_isOpening (isOpening_of_isDigit digit)).1
      rw [if_neg negative, List.nil_append, split, List.cons_append]
      simp only [integer, byFirst, readByFirst_cons visible, if_neg notMinus, digit, if_true,
        scanned, checked]

theorem reads_int64 (n : Int64) : int64.Reads (ofInt64 n) n := by
  have reads : (integer "i64" .int64).Reads (ofInt n.toInt) n.toInt :=
    reads_integer (by decide) n.le_toInt (Int.le_of_lt_add_one n.toInt_lt)
  have reads := reads.map Int64.ofInt
  rwa [Int64.ofInt_toInt] at reads

theorem reads_int32 (n : Int32) : int32.Reads (ofInt32 n) n := by
  have reads : (integer "i32" .int32).Reads (ofInt n.toInt) n.toInt :=
    reads_integer (by decide) n.le_toInt (Int.le_of_lt_add_one n.toInt_lt)
  have reads := reads.map Int32.ofInt
  rwa [Int32.ofInt_toInt] at reads

/-- A value that is not `null` is read where it may be absent. -/
theorem Reads.optional (reads : reader.Reads json a) :
    (Reader.optional reader).Reads json (some a) where
  opens := reads.opens
  read {rest} ended := by
    obtain ⟨b, tail, split, opening⟩ := reads.opens
    obtain ⟨visible, notNull, -⟩ := of_isOpening opening
    have read := (reads.map some).read ended
    rw [split, List.cons_append] at read ⊢
    simp only [Reader.optional, readOptional, skipBlanks_cons visible, if_neg notNull, read]

/-- A name is read as the variant that has it. -/
theorem reads_choice {variants : List (String × α)} {name : String}
    (named : variants.lookup name = some a) : (choice variants).Reads (.string name) a where
  opens := opens_string name
  read {rest} _ := by
    have found : variantNamed variants name rest = .ok (a, rest) := by
      simp only [variantNamed, named]
    rw [bytes_string, List.cons_append]
    simp only [choice, byFirst, readByFirst_cons (b := Ascii.quote) rfl, if_true,
      string_quotedTail, found]

/-! ## Lists -/

/-- What follows a part of a list or an object cannot belong to a number. -/
theorem ended_enclosed {close : UInt8}
    (closes : close = Ascii.closeBracket ∨ close = Ascii.closeBrace) (parts : List Bytes)
    (rest : Bytes) : Ended (enclosed close false parts ++ rest) := by
  cases parts with
  | nil =>
    rcases closes with rfl | rfl
    · exact ended_cons (by decide) rest
    · exact ended_cons (by decide) rest
  | cons part parts => exact ended_cons (by decide) _

section Elements

variable {first : Bool} {done : List α} {s rest after : Bytes}

theorem elements_of_close (found : nextElement first s = .ok (.close rest)) :
    elements reader first done s = .ok (done.reverse, rest) := by
  rw [elements]
  split
  · next failed => cases found.symm.trans failed
  · next found' => cases found.symm.trans found'; rfl
  · next found' => cases found.symm.trans found'

theorem elements_of_item (found : nextElement first s = .ok (.item rest))
    (read : reader.read rest = .ok (a, after)) :
    elements reader first done s = elements reader false (a :: done) after := by
  rw [elements]
  split
  · next failed => cases found.symm.trans failed
  · next found' => cases found.symm.trans found'
  · next found' =>
    cases found.symm.trans found'
    split
    · next failed => cases read.symm.trans failed
    · next read' => cases read.symm.trans read'; rfl

theorem nextElement_close (first : Bool) (rest : Bytes) :
    nextElement first (Ascii.closeBracket :: rest) = .ok (.close rest) := rfl

/-- At each turn the next element of a list is found, behind its comma. -/
theorem nextElement_item (opens : json.Opens) (first : Bool) (parts : List Bytes) (rest : Bytes) :
    nextElement first (enclosed Ascii.closeBracket first (json.bytes :: parts) ++ rest) =
      .ok (.item (json.bytes ++ (enclosed Ascii.closeBracket false parts ++ rest))) := by
  obtain ⟨b, tail, split, opening⟩ := opens
  obtain ⟨visible, -, notClose⟩ := of_isOpening opening
  cases first with
  | true =>
    rw [enclosed, List.append_assoc, split, List.cons_append]
    simp only [nextElement, skipBlanks_cons visible, if_neg notClose, if_true]
  | false =>
    have notEnd : Ascii.comma ≠ Ascii.closeBracket := by decide
    rw [enclosed, List.cons_append, List.append_assoc, split, List.cons_append]
    simp only [nextElement, skipBlanks_cons (b := Ascii.comma) rfl, if_neg notEnd,
      Bool.false_eq_true, if_false, if_true, skipBlanks_cons visible, if_neg notClose]

/-- The items of a list are read one after the other. -/
theorem elements_enclosed {encode : α → Json} {items : List α}
    (each : ∀ a ∈ items, reader.Reads (encode a) a) (first : Bool) (done : List α)
    (rest : Bytes) :
    elements reader first done
        (enclosed Ascii.closeBracket first (items.map fun a => (encode a).bytes) ++ rest) =
      .ok (done.reverse ++ items, rest) := by
  induction items generalizing first done with
  | nil =>
    rw [List.append_nil]
    exact elements_of_close (nextElement_close first rest)
  | cons a items ih =>
    rw [List.forall_mem_cons] at each
    have read := each.1.read (ended_enclosed (Or.inl rfl)
      (items.map fun a => (encode a).bytes) rest)
    rw [List.map_cons, elements_of_item (nextElement_item each.1.opens first _ rest) read,
      ih each.2, List.reverse_cons, List.append_assoc, List.singleton_append]

end Elements

/-- A list is read if each of its items is. -/
theorem reads_list {encode : α → Json} {items : List α}
    (each : ∀ a ∈ items, reader.Reads (encode a) a) :
    (list reader).Reads (.array (items.map encode)) items where
  opens := opens_array _
  read {rest} ended := by
    rw [bytes_array, List.map_map, List.cons_append]
    simp only [list, byFirst, readByFirst_cons (b := Ascii.openBracket) rfl, if_true]
    exact elements_enclosed each true [] rest

end Reader

end Petstore.Json
