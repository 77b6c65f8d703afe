import Petstore.Proofs.Json.Records

/-!
# Objects read as they are

`Json.Reader.entries` reads an object for its members, all of them and in the order in which they
come, where their values are of one type. So it tells what exactly an object consists of, which a
record with its fields does not: what is read of an object that was written are its own members
(`Json.Reader.reads_entries`).
-/

namespace Petstore.Json.Reader

open Scan Record

variable {α : Type} {reader : Reader α}

/-- The members of an object from one of its turns on; `done` holds those before, latest first. -/
def entriesFrom (reader : Reader α) (first : Bool) (done : List (String × α)) (s : Bytes) :
    Scanned (List (String × α)) :=
  match _h : nextMember first s with
  | .error fault => .error fault
  | .ok (.close rest) => .ok (done.reverse, rest)
  | .ok (.item rest) =>
    match _hn : Scan.string rest with
    | .error fault => .error fault
    | .ok (name, after) =>
      match _hc : Skip.colon after with
      | .error fault => .error fault
      | .ok start =>
        match _hv : reader.read start with
        | .error fault => .error fault
        | .ok (a, next) => entriesFrom reader false ((name, a) :: done) next
termination_by s.length
decreasing_by
  have found := length_nextMember_lt _h
  have := length_string_lt _hn
  have := Skip.length_colon_lt _hc
  have := reader.shrinks _hv
  simp only [Next.rest] at found
  omega

theorem length_entriesFrom_le {first : Bool} {done members : List (String × α)} {s r : Bytes}
    (h : entriesFrom reader first done s = .ok (members, r)) : r.length ≤ s.length := by
  fun_induction entriesFrom reader first done s with
  | case2 first done s rest found =>
    have := length_nextMember_lt found
    simp_all only [Next.rest, Except.ok.injEq, Prod.mk.injEq]
    omega
  | case6 first done s rest found name after scanned start coloned a next valued ih =>
    have := length_nextMember_lt found
    have := length_string_lt scanned
    have := Skip.length_colon_lt coloned
    have := reader.shrinks valued
    have := ih h
    simp only [Next.rest] at *
    omega
  | _ => simp at h

/-- An object as its members, in their order. -/
def entries (reader : Reader α) : Reader (List (String × α)) :=
  byFirst
    (fun b rest =>
      if b = Ascii.openBrace then entriesFrom reader true [] rest
      else .error (mismatch "a map" b rest))
    (by
      intro b rest r members h
      split at h
      · exact length_entriesFrom_le h
      · simp at h)

/-! ## Reading what was written -/

section Turns

variable {first : Bool} {done : List (String × α)} {name : String} {a : α}
  {s rest after start next : Bytes}

theorem entriesFrom_of_close (found : nextMember first s = .ok (.close rest)) :
    entriesFrom reader first done s = .ok (done.reverse, rest) := by
  rw [entriesFrom]
  split
  · next failed => cases found.symm.trans failed
  · next found' => cases found.symm.trans found'; rfl
  · next found' => cases found.symm.trans found'

theorem entriesFrom_of_item (found : nextMember first s = .ok (.item rest))
    (scanned : Scan.string rest = .ok (name, after)) (coloned : Skip.colon after = .ok start)
    (read : reader.read start = .ok (a, next)) :
    entriesFrom reader first done s = entriesFrom reader false ((name, a) :: done) next := by
  rw [entriesFrom]
  split
  · next failed => cases found.symm.trans failed
  · next found' => cases found.symm.trans found'
  · next found' =>
    cases found.symm.trans found'
    split
    · next failed => cases scanned.symm.trans failed
    · next scanned' =>
      cases scanned.symm.trans scanned'
      split
      · next failed => cases coloned.symm.trans failed
      · next coloned' =>
        cases coloned.symm.trans coloned'
        split
        · next failed => cases read.symm.trans failed
        · next read' => cases read.symm.trans read'; rfl

/-- The members of an object are read one after the other. -/
theorem entriesFrom_enclosed {encode : α → Json} {members : List (String × α)}
    (each : ∀ member ∈ members, reader.Reads (encode member.2) member.2) (first : Bool)
    (done : List (String × α)) (rest : Bytes) :
    entriesFrom reader first done
        (enclosed Ascii.closeBrace first
          (members.map fun member => memberBytes (member.1, encode member.2)) ++ rest) =
      .ok (done.reverse ++ members, rest) := by
  induction members generalizing first done with
  | nil =>
    rw [List.append_nil]
    exact entriesFrom_of_close (nextMember_close first rest)
  | cons member members ih =>
    rw [List.forall_mem_cons] at each
    have read := each.1.read (ended_enclosed (Or.inr rfl)
      (members.map fun member => memberBytes (member.1, encode member.2)) rest)
    rw [List.map_cons, entriesFrom_of_item (nextMember_item first _ _ _ rest)
      (string_quotedTail member.1 _) rfl read, ih each.2, List.reverse_cons, List.append_assoc,
      List.singleton_append]

end Turns

/-- An object is read for its own members, if their values are read. -/
theorem reads_entries {encode : α → Json} {members : List (String × α)}
    (each : ∀ member ∈ members, reader.Reads (encode member.2) member.2) :
    (entries reader).Reads (.object (members.map fun member => (member.1, encode member.2)))
      members where
  opens := opens_object _
  read {rest} _ := by
    rw [bytes_object, List.map_map, List.cons_append]
    simp only [entries, byFirst, readByFirst_cons (b := Ascii.openBrace) rfl, if_true]
    exact entriesFrom_enclosed each true [] rest

end Petstore.Json.Reader
