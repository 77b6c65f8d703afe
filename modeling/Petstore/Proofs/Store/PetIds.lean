import Petstore.Proofs.Store.Runs

/-!
# Ids of pets over a run

The counter of the pets stays beyond every id under which a pet was ever stored, or both stand at
the end of the ids. An id from outside may be any, so the counter is raised for it, and at the end
of the ids it stays; an id that is given out is the counter itself, which then moves on. `Passed`
says this of one id and is kept by every call, whether the pet is still there or not; freshness of
the ids that are given out follows from it alone (`ids_over_runs`).
-/

namespace Petstore

namespace PetStore

open Petstore.Action

variable {store left : PetStore} {kind : ResultKind} {capability : Capability kind} {id : Int64}
  {pet : Pet}

/-! ## The counter -/

/-- The counter is beyond the id, or both stand at the end of the ids. -/
def Passed (store : PetStore) (id : Int64) : Prop :=
  id < store.nextId ∨ id = Int64.maxValue ∧ store.nextId = Int64.maxValue

theorem le_nextBeyond (next id : Int64) : next ≤ nextBeyond next id := by
  unfold nextBeyond
  grind

/-- An id from outside is passed once it was taken into account. -/
theorem passed_nextBeyond (pets : Std.ExtTreeMap Int64 Pet) (next id : Int64) :
    Passed ⟨pets, nextBeyond next id⟩ id := by
  unfold Passed nextBeyond successor
  grind

theorem lt_add_one_of_ne (room : id ≠ Int64.maxValue) : id < id + 1 := by grind

/-- What is passed stays so. -/
theorem Passed.of_le (passed : store.Passed id) (le : store.nextId ≤ left.nextId) :
    left.Passed id := by
  unfold Passed at passed ⊢
  grind

/-- The counter never moves back. -/
theorem Step.nextId_le (step : Step store capability left) : store.nextId ≤ left.nextId := by
  cases step with
  | keep capability => exact Int64.le_refl _
  | claim own named => exact le_nextBeyond _ _
  | allocate unnumbered named room => exact Int64.le_of_lt (lt_add_one_of_ne room)
  | replace own named held => exact Int64.le_refl _
  | amend held newStatus => exact Int64.le_refl _
  | remove petId apiKey => exact Int64.le_refl _

/-! ## Numbered stores -/

/-- Every pet is stored under its own id, which the counter has passed. -/
structure Numbered (store : PetStore) : Prop where
  own : ∀ {id : Int64} {pet : Pet}, store.pets[id]? = some pet → pet.id = some id
  counted : 1 ≤ store.nextId
  passed : ∀ {id : Int64} {pet : Pet}, store.pets[id]? = some pet → store.Passed id

theorem numbered_empty : Numbered {} where
  own held := by simp at held
  counted := by decide
  passed held := by simp at held

/-- A pet that is put under its own id keeps a store numbered, if the counter has passed the id. -/
theorem Numbered.insert (numbered : store.Numbered) {next : Int64} (le : store.nextId ≤ next)
    (own : pet.id = some id) (passed : Passed ⟨store.pets.insert id pet, next⟩ id) :
    Numbered ⟨store.pets.insert id pet, next⟩ where
  own held := by
    rcases eq_or_held_of_insert held with ⟨rfl, rfl⟩ | kept
    · exact own
    · exact numbered.own kept
  counted := Int64.le_trans numbered.counted le
  passed held := by
    rcases eq_or_held_of_insert held with ⟨rfl, -⟩ | kept
    · exact passed
    · exact (numbered.passed kept).of_le le

/-- Every call keeps a store numbered. -/
theorem Step.numbered (step : Step store capability left) (numbered : store.Numbered) :
    left.Numbered := by
  have le := step.nextId_le
  cases step with
  | keep capability => exact numbered
  | claim own named => exact numbered.insert le own (passed_nextBeyond _ _ _)
  | allocate unnumbered named room =>
    exact numbered.insert le rfl (Or.inl (lt_add_one_of_ne room))
  | replace own named held => exact numbered.insert le own (numbered.passed held)
  | amend held newStatus =>
    have own := numbered.own held
    exact numbered.insert le own (numbered.passed held)
  | remove petId apiKey =>
    exact ⟨fun held => numbered.own (held_of_erase held), numbered.counted,
      fun held => numbered.passed (held_of_erase held)⟩

/-- The next id is free, unless the ids have come to their end. -/
theorem Numbered.getElem?_nextId (numbered : store.Numbered)
    (room : store.nextId ≠ Int64.maxValue) : store.pets[store.nextId]? = none := by
  cases held : store.pets[store.nextId]? with
  | none => rfl
  | some pet =>
    rcases numbered.passed held with beyond | ⟨last, -⟩
    · exact (Int64.lt_irrefl beyond).elim
    · exact absurd last room

end PetStore

/-! ## Runs -/

namespace Store

open PetStore

theorem numbered_afterCalls (session : String) {store : Store} (numbered : store.pets.Numbered)
    (calls : List Call) : (afterCalls session store calls).pets.Numbered :=
  afterCalls_induction
    (fun store call numbered => (step_pets session call.capability store).numbered numbered)
    numbered calls

theorem nextId_le_afterCalls (session : String) (store : Store) (calls : List Call) :
    store.pets.nextId ≤ (afterCalls session store calls).pets.nextId :=
  afterCalls_induction
    (fun store call le => Int64.le_trans le (step_pets session call.capability store).nextId_le)
    (Int64.le_refl _) calls

/-- In a run from the empty store, a pet was stored under the id at some time. -/
def EverHeld (session : String) (calls : List Call) (id : Int64) : Prop :=
  ∃ earlier, earlier <+: calls ∧ id ∈ (afterCalls session {} earlier).pets.pets

/-- An id under which a pet was ever stored is passed ever after. -/
theorem EverHeld.passed {session : String} {calls : List Call} {id : Int64}
    (held : EverHeld session calls id) : (afterCalls session {} calls).pets.Passed id := by
  obtain ⟨earlier, ⟨later, rfl⟩, stored⟩ := held
  rw [Std.ExtTreeMap.mem_iff_isSome_getElem?, Option.isSome_iff_exists] at stored
  obtain ⟨pet, stored⟩ := stored
  rw [afterCalls_append]
  exact ((numbered_afterCalls session numbered_empty earlier).passed stored).of_le
    (nextId_le_afterCalls session _ later)

end Store

namespace PetStore

open Petstore.Action

variable {store left : PetStore} {pet added : Pet}

/-- A pet without an id that is added gets the next one. -/
theorem add_eq_ok (unnumbered : pet.id = none)
    (success : outcome (add pet) store = (.ok added, left)) :
    store.nextId ≠ Int64.maxValue ∧ added = { pet with id := some store.nextId } ∧
      left.pets = store.pets.insert store.nextId added := by
  rw [outcome_add_of_no_id unnumbered] at success
  split at success
  · cases success
  · split at success
    · cases success
    · next room =>
      cases success
      exact ⟨room, rfl, rfl⟩

/-- A pet without an id, but with a name, is refused at the end of the ids and only there. -/
theorem add_eq_error_iff (unnumbered : pet.id = none) (named : pet.Named)
    {error : ControllerError} :
    (outcome (add pet) store).1 = .error error ↔
      store.nextId = Int64.maxValue ∧ error = .internal "pet id space exhausted" := by
  rw [outcome_add_of_no_id unnumbered, if_neg named]
  split
  · next full => simp [full, eq_comm]
  · next room => simp [room]

/-- **Ids over a run.** After any calls, every pet is stored under its own id, and the counter is
beyond every id under which a pet was ever stored, or at the end of the ids with it; it never moves
back. So an id that is given out is beyond all ids before it and takes no pet's place, and only at
the end of the ids there is none to give out. -/
theorem ids_over_runs (session : String) (calls : List Call) :
    let store := (Store.afterCalls session {} calls).pets
    (∀ (id : Int64) (pet : Pet), store.pets[id]? = some pet → pet.id = some id) ∧
    (1 ≤ store.nextId ∧ store.nextId ≤ Int64.maxValue) ∧
    (∀ id, Store.EverHeld session calls id →
      id < store.nextId ∨ id = Int64.maxValue ∧ store.nextId = Int64.maxValue) ∧
    (∀ earlier, earlier <+: calls →
      (Store.afterCalls session {} earlier).pets.nextId ≤ store.nextId) ∧
    ∀ pet : Pet, pet.id = none →
      (∀ added left, (add pet).outcome store = (.ok added, left) →
        ∃ id, added = { pet with id := some id } ∧ left.pets[id]? = some added ∧
          (∀ old, Store.EverHeld session calls old → old < id) ∧
          ∀ (other : Int64) (held : Pet),
            store.pets[other]? = some held → left.pets[other]? = some held) ∧
      (pet.Named →
        ((∃ error, ((add pet).outcome store).1 = .error error) ↔ store.nextId = Int64.maxValue) ∧
        ∀ error, ((add pet).outcome store).1 = .error error →
          error = .internal "pet id space exhausted") := by
  intro store
  have numbered : store.Numbered := Store.numbered_afterCalls session numbered_empty calls
  refine ⟨fun id pet held => numbered.own held, ⟨numbered.counted, Int64.le_maxValue _⟩,
    fun id held => held.passed, ?_, ?_⟩
  · rintro earlier ⟨later, rfl⟩
    have le := Store.nextId_le_afterCalls session (Store.afterCalls session {} earlier) later
    rwa [← Store.afterCalls_append] at le
  · intro pet unnumbered
    refine ⟨fun added left success => ?_, fun named => ⟨?_, fun error failed => ?_⟩⟩
    · obtain ⟨room, rfl, left_eq⟩ := add_eq_ok unnumbered success
      refine ⟨store.nextId, rfl, by rw [left_eq, Std.ExtTreeMap.getElem?_insert_self], ?_, ?_⟩
      · exact fun old held => held.passed.resolve_right fun last => room last.2
      · intro other held stored
        have different : store.nextId ≠ other := by
          rintro rfl
          rw [numbered.getElem?_nextId room] at stored
          cases stored
        rw [left_eq, getElem?_insert_of_ne _ different, stored]
    · simp only [add_eq_error_iff unnumbered named, exists_and_left, exists_eq, and_true]
    · exact ((add_eq_error_iff unnumbered named).mp failed).2

/-- A pet with the id 5 comes and goes, and the next one gets the id 6. Once a pet has the last id
of all, there is none to give out. -/
theorem ids_over_runs_deleted_and_last :
    let deleted : List Call := [⟨.addPet { id := some 5, name := "rex" }⟩, ⟨.deletePet 5 none⟩]
    let last : List Call := [⟨.addPet { id := some Int64.maxValue, name := "max" }⟩]
    let gap := (Store.afterCalls "session" {} deleted).pets
    let full := (Store.afterCalls "session" {} last).pets
    (gap.pets[(5 : Int64)]? = none ∧ Store.EverHeld "session" deleted 5 ∧
      ∃ id, ((add { name := "tom" }).outcome gap).1 = .ok { id := some id, name := "tom" } ∧
        5 < id) ∧
    full.nextId = Int64.maxValue ∧
      ((add { name := "tom" }).outcome full).1 = .error (.internal "pet id space exhausted") := by
  intro deleted last gap full
  have given : (add { name := "tom" }).outcome gap =
      (.ok { id := some 6, name := "tom" },
        ⟨gap.pets.insert 6 { id := some 6, name := "tom" }, 7⟩) := by
    rfl
  have held : Store.EverHeld "session" deleted 5 := ⟨_, List.prefix_append [_] [_], by decide⟩
  have named : Pet.Named { name := "tom" } := by decide
  have refused : ((add { name := "tom" }).outcome full).1 =
      .error (.internal "pet id space exhausted") := by
    rfl
  obtain ⟨-, -, -, -, fresh⟩ := ids_over_runs "session" deleted
  obtain ⟨id, same, -, beyond, -⟩ := (fresh { name := "tom" } rfl).1 _ _ given
  obtain ⟨-, -, -, -, exhausted⟩ := ids_over_runs "session" last
  have ended := ((exhausted { name := "tom" } rfl).2 named).1
  refine ⟨⟨rfl, held, id, ?_, beyond 5 held⟩, ended.mp ⟨_, refused⟩, refused⟩
  rw [given, same]

end PetStore

end Petstore
