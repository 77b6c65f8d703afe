import Mathlib.Data.List.Pairwise
import Petstore.Model.Decoding
import Petstore.Proofs.Json.Members
import Petstore.Proofs.Json.Reading

/-!
# Reading records

An object leads a record from one value to another if each of its members is read by a field of the
record and the changes are made one after the other (`Json.Record.Leads`). Where the changes of
different fields do not depend on their order, neither does what an object without repeated names
leads to (`Json.Record.Leads.perm`), so the record is read from its members in declaration order and
sorted by name alike (`Json.Record.reads_arranged`).
-/

namespace Petstore.Json

open Scan

variable {α β γ : Type}

/-! ## Members in either order -/

/-- In which order the members of an object are written. -/
inductive MemberOrder where
  /-- As the fields are declared. -/
  | declared
  /-- By their names. -/
  | byName

/-- The value with the members of its objects in the given order, where they were declared so. -/
def arranged : MemberOrder → Json → Json
  | .declared, json => json
  | .byName, json => json.sorted

variable {order : MemberOrder}

theorem sortedItems_eq_map (items : List Json) : sortedItems items = items.map sorted := by
  induction items with
  | nil => rfl
  | cons item items ih => rw [sortedItems, ih, List.map_cons]

theorem arranged_array (order : MemberOrder) (items : List Json) :
    (array items).arranged order = .array (items.map (arranged order)) := by
  cases order with
  | declared => exact congrArg array (List.map_id items).symm
  | byName => rw [arranged, sorted, sortedItems_eq_map]; rfl

/-- A value without objects is written in one way only. -/
theorem Reader.Reads.arranged {reader : Reader α} {json : Json} {a : α}
    (reads : reader.Reads json a) (own : json.sorted = json) :
    reader.Reads (json.arranged order) a := by
  cases order with
  | declared => exact reads
  | byName =>
    rw [Json.arranged, own]
    exact reads

/-- The members with their values in the given order. -/
def arrangedMembers (order : MemberOrder) (members : List (String × Json)) :
    List (String × Json) :=
  members.map fun member => (member.1, member.2.arranged order)

theorem names_arrangedMembers (order : MemberOrder) (members : List (String × Json)) :
    (arrangedMembers order members).map (·.1) = members.map (·.1) := by
  rw [arrangedMembers, List.map_map]
  rfl

theorem arrangedMembers_append (members others : List (String × Json)) :
    arrangedMembers order (members ++ others) =
      arrangedMembers order members ++ arrangedMembers order others :=
  List.map_append

/-- An object without repeated names keeps its members, in some order. -/
theorem exists_arranged_object {members : List (String × Json)}
    (distinct : (members.map (·.1)).Nodup) (order : MemberOrder) :
    ∃ written, (object members).arranged order = .object written ∧
      written.Perm (arrangedMembers order members) := by
  cases order with
  | declared =>
    have same : arrangedMembers .declared members = members := List.map_id members
    exact ⟨members, rfl, .of_eq same.symm⟩
  | byName => exact ⟨sortedMembers members, by rw [arranged, sorted], sortedMembers_perm distinct⟩

/-! ## Fields -/

namespace Field

variable {field other : Field α} {name : String} {reader : Reader β} {set : β → α → α}

/-- The change can come of reading the field. -/
def Makes (field : Field α) (change : α → α) : Prop :=
  ∃ s rest, field.reader.read s = .ok (change, rest)

theorem makes_of_reads {json : Json} {change : α → α} (reads : field.reader.Reads json change) :
    field.Makes change :=
  ⟨_, _, reads.read ended_nil⟩

/-- A field sets a part of the record to what was read. -/
theorem exists_of_makes {required : Bool} {change : α → α}
    (makes : (Field.mk name required (reader.map set)).Makes change) : ∃ b, change = set b := by
  obtain ⟨s, rest, read⟩ := makes
  simp only [Reader.map] at read
  split at read
  · next b after scanned =>
    obtain ⟨same, -⟩ := Prod.mk.inj (Except.ok.inj read)
    exact ⟨b, same.symm⟩
  · cases read

/-- It does not matter which of the two fields changes the record first. -/
def Commutes (field other : Field α) : Prop :=
  ∀ ⦃change change' : α → α⦄, field.Makes change → other.Makes change' →
    ∀ a, change (change' a) = change' (change a)

theorem Commutes.symm (commutes : field.Commutes other) : other.Commutes field :=
  fun _ _ makes makes' a => (commutes makes' makes a).symm

instance : Std.Symm (@Commutes α) where
  symm _ _ commutes := commutes.symm

/-- Fields that set different parts of the record commute. -/
theorem commutes_of_set {name' : String} {required required' : Bool} {reader' : Reader γ}
    {set' : γ → α → α} (apart : ∀ b c a, set b (set' c a) = set' c (set b a)) :
    (Field.mk name required (reader.map set)).Commutes
      (Field.mk name' required' (reader'.map set')) := by
  intro change change' makes makes' a
  obtain ⟨b, rfl⟩ := exists_of_makes makes
  obtain ⟨c, rfl⟩ := exists_of_makes makes'
  exact apart b c a

end Field

namespace Record

variable {record : Record α} {members others : List (String × Json)} {value between result : α}

/-- The changes of different fields do not depend on their order. -/
def Independent (record : Record α) : Prop :=
  record.fields.Pairwise Field.Commutes

theorem Independent.commutes (independent : record.Independent) {field other : Field α}
    {name name' : String} (known : record.fields.find? (·.name == name) = some field)
    (known' : record.fields.find? (·.name == name') = some other) (apart : name ≠ name') :
    field.Commutes other := by
  have named : field.name = name := by simpa using List.find?_some known
  have named' : other.name = name' := by simpa using List.find?_some known'
  refine List.Pairwise.forall independent (List.mem_of_find?_eq_some known)
    (List.mem_of_find?_eq_some known') fun same => apart ?_
  exact named.symm.trans ((congrArg Field.name same).trans named')

/-! ## What members lead to -/

/-- Each member is read by the field of its name, and one after the other they change the record
from the one value to the other. -/
inductive Leads (record : Record α) : List (String × Json) → α → α → Prop
  | nil (value : α) : Leads record [] value value
  | cons {name : String} {json : Json} {members : List (String × Json)} {field : Field α}
      {change : α → α} {value result : α}
      (known : record.fields.find? (·.name == name) = some field)
      (reads : field.reader.Reads json change)
      (others : Leads record members (change value) result) :
      Leads record ((name, json) :: members) value result

namespace Leads

theorem append (leads : record.Leads members value between)
    (more : record.Leads others between result) :
    record.Leads (members ++ others) value result := by
  induction leads with
  | nil => exact more
  | cons known reads _ ih => exact .cons known reads (ih more)

/-- Members with different names may come in any order. -/
theorem perm (independent : record.Independent) (leads : record.Leads members value result)
    (moved : members.Perm others) (distinct : (members.map (·.1)).Nodup) :
    record.Leads others value result := by
  induction moved generalizing value with
  | nil => exact leads
  | cons member _ ih =>
    cases leads with
    | cons known reads leads => exact .cons known reads (ih leads distinct.of_cons)
  | swap first second rest =>
    cases leads with
    | cons known reads leads =>
      cases leads with
      | cons known' reads' leads =>
        have apart := List.ne_of_not_mem_cons (List.nodup_cons.mp distinct).1
        have commutes := independent.commutes known known' apart
        refine .cons known' reads' (.cons known reads ?_)
        rw [commutes (Field.makes_of_reads reads) (Field.makes_of_reads reads')]
        exact leads
  | trans moved _ ih ih' =>
    exact ih' (ih leads distinct) ((moved.map (·.1)).nodup_iff.mp distinct)

end Leads

/-! ## Reading an object -/

section Members

variable {first : Bool} {seen : List String} {name : String} {field : Field α} {change : α → α}
  {s rest after start next : Bytes}

theorem members_of_close (found : nextMember first s = .ok (.close rest))
    (complete : record.missing? seen = none) :
    record.members first seen value s = .ok (value, rest) := by
  rw [Record.members]
  split
  · next failed => cases found.symm.trans failed
  · next found' =>
    cases found.symm.trans found'
    simp only [complete]
  · next found' => cases found.symm.trans found'

theorem members_of_item (found : nextMember first s = .ok (.item rest))
    (scanned : Scan.string rest = .ok (name, after))
    (known : record.fields.find? (·.name == name) = some field) (fresh : name ∉ seen)
    (coloned : Skip.colon after = .ok start)
    (read : field.reader.read start = .ok (change, next)) :
    record.members first seen value s =
      record.members false (name :: seen) (change value) next := by
  rw [Record.members]
  split
  · next failed => cases found.symm.trans failed
  · next found' => cases found.symm.trans found'
  · next found' =>
    cases found.symm.trans found'
    split
    · next failed => cases scanned.symm.trans failed
    · next scanned' =>
      cases scanned.symm.trans scanned'
      split
      · next unknown => cases known.symm.trans unknown
      · next known' =>
        cases known.symm.trans known'
        split
        · next taken => exact absurd (List.contains_iff_mem.mp taken) fresh
        · split
          · next failed => cases coloned.symm.trans failed
          · next coloned' =>
            cases coloned.symm.trans coloned'
            split
            · next failed => cases read.symm.trans failed
            · next read' => cases read.symm.trans read'; rfl

theorem nextMember_close (first : Bool) (rest : Bytes) :
    nextMember first (Ascii.closeBrace :: rest) = .ok (.close rest) := rfl

/-- At each turn the next member of an object is found, behind its comma and its opening quote. -/
theorem nextMember_item (first : Bool) (name : String) (json : Json) (parts : List Bytes)
    (rest : Bytes) :
    nextMember first (enclosed Ascii.closeBrace first (memberBytes (name, json) :: parts) ++ rest) =
      .ok (.item (quotedTail name ++
        Ascii.colon :: (json.bytes ++ (enclosed Ascii.closeBrace false parts ++ rest)))) := by
  have apart : memberBytes (name, json) ++ (enclosed Ascii.closeBrace false parts ++ rest) =
      Ascii.quote :: (quotedTail name ++
        Ascii.colon :: (json.bytes ++ (enclosed Ascii.closeBrace false parts ++ rest))) := by
    rw [memberBytes, List.cons_append, List.append_assoc, List.cons_append]
  cases first with
  | true => rw [enclosed, List.append_assoc, apart]; rfl
  | false => rw [enclosed, List.cons_append, List.append_assoc, apart]; rfl

/-- No required field is missing if each of them is among the names. -/
theorem missing?_eq_none
    (named : ∀ field ∈ record.fields, field.required = true → field.name ∈ seen) :
    record.missing? seen = none := by
  rw [missing?, Option.map_eq_none_iff, List.find?_eq_none]
  intro field inside
  cases required : field.required with
  | false => simp
  | true => simp [named field inside required]

/-- The members of an object are read one after the other. -/
theorem members_enclosed (leads : record.Leads members value result)
    (distinct : (members.map (·.1)).Nodup) (unseen : ∀ name ∈ members.map (·.1), name ∉ seen)
    (named : ∀ field ∈ record.fields, field.required = true →
      field.name ∈ seen ∨ field.name ∈ members.map (·.1)) (first : Bool) (rest : Bytes) :
    record.members first seen value
        (enclosed Ascii.closeBrace first (members.map memberBytes) ++ rest) =
      .ok (result, rest) := by
  induction leads generalizing seen first with
  | nil value =>
    refine members_of_close (nextMember_close first rest) (missing?_eq_none ?_)
    intro field inside required
    exact (named field inside required).resolve_right List.not_mem_nil
  | @cons name json members field change value result known reads leads ih =>
    rw [List.map_cons, List.nodup_cons] at distinct
    rw [List.map_cons, List.forall_mem_cons] at unseen
    have read := reads.read (Reader.ended_enclosed (Or.inr rfl) (members.map memberBytes) rest)
    rw [List.map_cons, members_of_item (nextMember_item first name json _ rest)
      (string_quotedTail name _) known unseen.1 rfl read]
    refine ih distinct.2 ?_ ?_ false
    · intro other inside
      rw [List.mem_cons, not_or]
      exact ⟨fun same => distinct.1 (same ▸ inside), unseen.2 other inside⟩
    · intro field inside required
      rcases named field inside required with old | new
      · exact Or.inl (List.mem_cons_of_mem name old)
      · rcases List.mem_cons.mp new with same | later
        · exact Or.inl (same ▸ List.mem_cons_self)
        · exact Or.inr later

end Members

/-- An object is read for what its members make of the blank record, if it repeats no name and
names each required field. -/
theorem reads_object (leads : record.Leads members record.blank result)
    (distinct : (members.map (·.1)).Nodup)
    (named : ∀ field ∈ record.fields, field.required = true → field.name ∈ members.map (·.1)) :
    record.reader.Reads (.object members) result where
  opens := opens_object members
  read {rest} _ := by
    have notList : Ascii.openBrace ≠ Ascii.openBracket := by decide
    rw [bytes_object, List.cons_append]
    simp only [reader, Reader.byFirst, Reader.readByFirst_cons (b := Ascii.openBrace) rfl,
      if_neg notList, if_true]
    exact members_enclosed leads distinct (fun _ _ => List.not_mem_nil)
      (fun field inside required => Or.inr (named field inside required)) true rest

/-! ## Reading what was written -/

/-- The members, their values in the given order, lead from the one value to the other. Their names
are among the given ones and come like these. -/
structure Fills (record : Record α) (order : MemberOrder) (names : List String)
    (members : List (String × Json)) (value result : α) : Prop where
  leads : record.Leads (arrangedMembers order members) value result
  ordered : (members.map (·.1)).Sublist names

namespace Fills

variable {names names' : List String} {name : String} {required : Bool}

theorem append (fills : record.Fills order names members value between)
    (more : record.Fills order names' others between result) :
    record.Fills order (names ++ names') (members ++ others) value result where
  leads := by
    rw [arrangedMembers_append]
    exact fills.leads.append more.leads
  ordered := by
    rw [List.map_append]
    exact fills.ordered.append more.ordered

/-- A member that gives a part of the record. -/
theorem member {reader : Reader β} {set : β → α → α} {json : Json} {b : β}
    (reads : reader.Reads (json.arranged order) b)
    (known : record.fields.find? (·.name == name) = some ⟨name, required, reader.map set⟩ := by rfl)
    (sets : set b value = result := by rfl) :
    record.Fills order [name] [(name, json)] value result where
  leads := .cons known (reads.map set) (sets ▸ .nil _)
  ordered := .refl _

/-- A member that is left out if its part of the record is absent. -/
theorem member? {reader : Reader β} {set : Option β → α → α} {encode : β → Json}
    {given : Option β} (reads : ∀ b, reader.Reads ((encode b).arranged order) b)
    (known : record.fields.find? (·.name == name) =
      some ⟨name, required, (Reader.optional reader).map set⟩ := by rfl)
    (absent : set none value = value := by rfl) (sets : set given value = result := by rfl) :
    record.Fills order [name] (Json.member? name encode given) value result := by
  cases given with
  | none =>
    rw [← sets, absent]
    exact ⟨.nil value, List.nil_sublist _⟩
  | some b => exact member (reads b).optional known sets

end Fills

/-- A record is read from its members in either order, if they come like the fields and include the
required ones. -/
theorem reads_arranged (independent : record.Independent)
    (distinct : (record.fields.map (·.name)).Nodup)
    (fills : record.Fills order (record.fields.map (·.name)) members record.blank result)
    (named : ∀ field ∈ record.fields, field.required = true → field.name ∈ members.map (·.1)) :
    record.reader.Reads ((Json.object members).arranged order) result := by
  have distinct := fills.ordered.nodup distinct
  obtain ⟨written, same, moved⟩ := exists_arranged_object distinct order
  have names := moved.map (·.1)
  rw [names_arrangedMembers] at names
  rw [same]
  refine reads_object (fills.leads.perm independent moved.symm ?_) (names.nodup_iff.mpr distinct) ?_
  · rwa [names_arrangedMembers]
  · intro field inside required
    exact names.mem_iff.mpr (named field inside required)

end Record

end Petstore.Json
