import Petstore.Model.Encoding

/-!
# Members of sorted objects

Sorting an object makes up no member and loses no name, so a member that stands alone under its name
can be told from the sorted object. In the replies for pets and orders the id is such a member
(`Pet.id_of_sorted_toJson`, `Order.id_of_sorted_toJson`).
-/

namespace Petstore

namespace Json

variable {name : String} {value : Json} {members : List (String × Json)} {member : String × Json}

theorem eq_or_mem_of_mem_placeMember (inside : member ∈ placeMember name value members) :
    member = (name, value) ∨ member ∈ members := by
  induction members with
  | nil => exact Or.inl (List.mem_singleton.mp inside)
  | cons first rest ih =>
    rw [placeMember] at inside
    split at inside
    · exact List.mem_cons.mp inside
    · split at inside
      · exact Or.inr inside
      · rcases List.mem_cons.mp inside with rfl | inside
        · exact Or.inr List.mem_cons_self
        · exact (ih inside).imp_right (List.mem_cons_of_mem first)

/-- A member is put in its place unless its name is taken. -/
theorem mem_placeMember (fresh : name ∉ members.map (·.1)) :
    (name, value) ∈ placeMember name value members := by
  induction members with
  | nil => exact List.mem_singleton.mpr rfl
  | cons first rest ih =>
    rw [List.map_cons, List.mem_cons, not_or] at fresh
    rw [placeMember]
    split
    · exact List.mem_cons_self
    · rw [if_neg fresh.1]
      exact List.mem_cons_of_mem first (ih fresh.2)

/-- Every member of a sorted object was one before. -/
theorem exists_mem_of_mem_sortedMembers (inside : member ∈ sortedMembers members) :
    ∃ value, (member.1, value) ∈ members ∧ member.2 = value.sorted := by
  induction members with
  | nil => cases inside
  | cons first rest ih =>
    rw [sortedMembers] at inside
    rcases eq_or_mem_of_mem_placeMember inside with rfl | inside
    · exact ⟨first.2, List.mem_cons_self, rfl⟩
    · obtain ⟨value, before, same⟩ := ih inside
      exact ⟨value, List.mem_cons_of_mem first before, same⟩

/-- A member with a name of its own is added to the others. -/
theorem placeMember_perm (fresh : name ∉ members.map (·.1)) :
    (placeMember name value members).Perm ((name, value) :: members) := by
  induction members with
  | nil => exact .refl _
  | cons first rest ih =>
    rw [List.map_cons, List.mem_cons, not_or] at fresh
    rw [placeMember]
    split
    · exact .refl _
    · rw [if_neg fresh.1]
      exact ((ih fresh.2).cons first).trans (.swap _ _ _)

/-- Without repeated names, sorting an object only sorts its values and moves its members. -/
theorem sortedMembers_perm (distinct : (members.map (·.1)).Nodup) :
    (sortedMembers members).Perm (members.map fun member => (member.1, member.2.sorted)) := by
  induction members with
  | nil => exact .refl _
  | cons first rest ih =>
    rw [List.map_cons, List.nodup_cons] at distinct
    have moved := ih distinct.2
    have names : (rest.map fun member => (member.1, member.2.sorted)).map (·.1) =
        rest.map (·.1) := by
      rw [List.map_map]
      rfl
    have fresh : first.1 ∉ (sortedMembers rest).map (·.1) := fun taken =>
      distinct.1 (names ▸ (moved.map (·.1)).mem_iff.mp taken)
    rw [sortedMembers, List.map_cons]
    exact (placeMember_perm fresh).trans (moved.cons _)

/-- Of an object with at most one id, first of all, the sorted object tells the id. -/
theorem mem_sortedMembers_id_iff {id : Option Int64} {n : Int64}
    (unnamed : "id" ∉ members.map (·.1)) :
    ("id", ofInt64 n) ∈ sortedMembers (member? "id" ofInt64 id ++ members) ↔ id = some n := by
  have others {value : Json} (inside : ("id", value) ∈ members) : False :=
    unnamed (List.mem_map_of_mem inside)
  constructor
  · intro inside
    obtain ⟨value, before, same⟩ := exists_mem_of_mem_sortedMembers inside
    rcases List.mem_append.mp before with own | other
    · cases id with
      | none => cases own
      | some k =>
        obtain ⟨-, rfl⟩ := Prod.mk.inj (List.mem_singleton.mp own)
        have same : n.toInt = k.toInt := by
          simpa [ofInt64, ofInt, sorted] using same
        rw [Int64.toInt_inj.mp same]
    · exact (others other).elim
  · rintro rfl
    refine mem_placeMember fun taken => ?_
    obtain ⟨found, inside, named⟩ := List.mem_map.mp taken
    obtain ⟨value, before, -⟩ := exists_mem_of_mem_sortedMembers inside
    exact others (named ▸ before)

theorem id_eq_of_sorted_eq {id other : Option Int64} {others : List (String × Json)}
    (unnamed : "id" ∉ members.map (·.1)) (unnamed' : "id" ∉ others.map (·.1))
    (same : (Json.object (member? "id" ofInt64 id ++ members)).sorted =
      (Json.object (member? "id" ofInt64 other ++ others)).sorted) : id = other := by
  have same : sortedMembers (member? "id" ofInt64 id ++ members) =
      sortedMembers (member? "id" ofInt64 other ++ others) := by
    simpa only [sorted, object.injEq] using same
  refine Option.ext fun n => ?_
  rw [← mem_sortedMembers_id_iff unnamed, same, mem_sortedMembers_id_iff unnamed']

theorem mem_map_member?_iff {α : Type} {other : String} {encode : α → Json} {given : Option α} :
    name ∈ (member? other encode given).map (·.1) ↔ name = other ∧ given.isSome := by
  cases given with
  | none => simp [member?]
  | some value => simp [member?]

end Json

/-- The id of a pet can be told from its reply. -/
theorem Pet.id_of_sorted_toJson {pet other : Pet}
    (same : pet.toJson.sorted = other.toJson.sorted) : pet.id = other.id := by
  simp only [toJson, List.append_assoc] at same
  refine Json.id_eq_of_sorted_eq ?_ ?_ same
  · simp [Json.mem_map_member?_iff, -List.mem_map]
  · simp [Json.mem_map_member?_iff, -List.mem_map]

/-- The id of an order can be told from its reply. -/
theorem Order.id_of_sorted_toJson {order other : Order}
    (same : order.toJson.sorted = other.toJson.sorted) : order.id = other.id := by
  simp only [toJson, List.append_assoc] at same
  refine Json.id_eq_of_sorted_eq ?_ ?_ same
  · simp [Json.mem_map_member?_iff, -List.mem_map]
  · simp [Json.mem_map_member?_iff, -List.mem_map]

end Petstore
