import Mathlib.Data.List.Induction
import Petstore.Proofs.Api.Requests
import Petstore.Proofs.Store.PetIds

/-!
# Names of pets over a run

Adding a pet and replacing one look at its name; a form that renames a pet does not. So a pet whose
name is blank got it from a form, and from the last call that named it, and every form with a blank
name for a pet that is there leaves such a pet (`names_over_runs`).
-/

namespace Petstore

/-- The call of a form that gives a pet another name. -/
def Call.renaming (petId : Int64) (name : String) (status : Option String) : Call :=
  ⟨.updatePetWithForm petId (some name) status⟩

namespace PetStore

open Petstore.Action

variable {store left : PetStore} {kind : ResultKind} {capability : Capability kind} {id : Int64}
  {pet : Pet}

theorem mem_all_iff : pet ∈ store.all ↔ ∃ id : Int64, store.pets[id]? = some pet := by
  simp [all, Std.ExtTreeMap.mem_toList_iff_getElem?_eq_some]

/-- A pet that is held after a call has a name that was looked at, or the name that it had before,
or a name from a form. -/
theorem Step.name_cases (step : Step store capability left) (held : left.pets[id]? = some pet) :
    pet.Named ∨ (∃ old, store.pets[id]? = some old ∧ old.name = pet.name) ∨
      ∃ status, ⟨capability⟩ = Call.renaming id pet.name status := by
  have before (kept : store.pets[id]? = some pet) :
      ∃ old, store.pets[id]? = some old ∧ old.name = pet.name := ⟨pet, kept, rfl⟩
  cases step with
  | keep capability => exact Or.inr (Or.inl (before held))
  | claim own named =>
    rcases eq_or_held_of_insert held with ⟨-, rfl⟩ | kept
    · exact Or.inl named
    · exact Or.inr (Or.inl (before kept))
  | allocate unnumbered named room =>
    rcases eq_or_held_of_insert held with ⟨-, rfl⟩ | kept
    · exact Or.inl named
    · exact Or.inr (Or.inl (before kept))
  | replace own named stored =>
    rcases eq_or_held_of_insert held with ⟨-, rfl⟩ | kept
    · exact Or.inl named
    · exact Or.inr (Or.inl (before kept))
  | @amend petId name status old stored newStatus =>
    rcases eq_or_held_of_insert held with ⟨rfl, rfl⟩ | kept
    · cases name with
      | none => exact Or.inr (Or.inl ⟨old, stored, rfl⟩)
      | some given => exact Or.inr (Or.inr ⟨status, rfl⟩)
    · exact Or.inr (Or.inl (before kept))
  | remove petId apiKey => exact Or.inr (Or.inl (before (held_of_erase held)))

/-- A form stores the name that it brings, whatever that is. -/
theorem updateWithForm_of_held {status : Option String} {newStatus : Option PetStatus}
    (held : store.pets[id]? = some pet) (readable : readStatus? status = .ok newStatus)
    (name : String) :
    outcome (updateWithForm id (some name) status) store =
      (.ok ⟨⟩,
        { store with
          pets := store.pets.insert id { pet with name, status := newStatus.or pet.status } }) := by
  rw [outcome_updateWithForm, readable]
  simp only [held, Option.getD_some]

end PetStore

namespace Store

open PetStore

/-- The calls have a form that gave the pet of an id its name, and the pet has kept it since. -/
def NamedByForm (session : String) (calls : List Call) (id : Int64) (name : String) : Prop :=
  ∃ before status after, calls = before ++ Call.renaming id name status :: after ∧
    ∀ more, more <+: after → ∃ pet,
      (afterCalls session {} (before ++ Call.renaming id name status :: more)).pets.pets[id]? =
        some pet ∧ pet.name = name

/-- A blank name comes from a form, and no call since has taken it away. -/
theorem namedByForm_of_blank {session : String} {calls : List Call} {id : Int64} {pet : Pet}
    (held : (afterCalls session {} calls).pets.pets[id]? = some pet) (blank : ¬ pet.Named) :
    NamedByForm session calls id pet.name := by
  induction calls using List.reverseRecOn generalizing pet with
  | nil => simp [afterCalls] at held
  | append_singleton calls call ih =>
    have now : ∃ pet', (afterCalls session {} (calls ++ [call])).pets.pets[id]? = some pet' ∧
        pet'.name = pet.name := ⟨pet, held, rfl⟩
    rw [afterCalls_append] at held
    rcases (step_pets session call.capability _).name_cases held with
      named | ⟨old, stored, same⟩ | ⟨status, form⟩
    · exact absurd named blank
    · -- The name is older than the last call, which extends what came after the form.
      obtain ⟨before, status, after, rfl, kept⟩ := ih stored (by rwa [Pet.Named, same])
      rw [same] at kept now ⊢
      refine ⟨before, status, after ++ [call], by simp, fun more prior => ?_⟩
      rcases List.prefix_concat_iff.mp prior with rfl | prior
      · simpa using now
      · exact kept more prior
    · have form : call = Call.renaming id pet.name status := form
      subst form
      refine ⟨calls, status, [], rfl, fun more prior => ?_⟩
      rw [List.prefix_nil.mp prior]
      exact now

theorem NamedByForm.held {session : String} {calls : List Call} {id : Int64} {name : String}
    (named : NamedByForm session calls id name) :
    ∃ pet, (afterCalls session {} calls).pets.pets[id]? = some pet ∧ pet.name = name := by
  obtain ⟨before, status, after, rfl, kept⟩ := named
  exact kept after (List.prefix_refl after)

/-- All pets have names exactly if no pet has a blank name from a form. -/
theorem forall_named_iff (session : String) (calls : List Call) :
    (∀ pet ∈ (afterCalls session {} calls).pets.all, pet.Named) ↔
      ∀ id name, NamedByForm session calls id name → Text.trim name ≠ "" := by
  constructor
  · intro all id name named
    obtain ⟨pet, held, rfl⟩ := named.held
    exact all pet (mem_all_iff.mpr ⟨id, held⟩)
  · intro forms pet member
    by_contra blank
    obtain ⟨id, held⟩ := mem_all_iff.mp member
    exact forms id pet.name (namedByForm_of_blank held blank) (not_not.mp blank)

/-- The form that named a pet was among the calls. -/
theorem NamedByForm.exists_mem {session : String} {calls : List Call} {id : Int64} {name : String}
    (named : NamedByForm session calls id name) :
    ∃ status, Call.renaming id name status ∈ calls := by
  obtain ⟨before, status, after, rfl, -⟩ := named
  exact ⟨status, by simp⟩

end Store

/-! ## All runs -/

/-- **Names over a run.** After any calls on an empty store, all pets have names exactly if no pet
has a blank name from a form, and has had it ever since. So it is after any requests, and all pets
have names if no request comes to a form with a blank name. Every form for a pet that is there, with
a status that can be read, is accepted and stores its name, blank or not. -/
theorem PetStore.names_over_runs (session : String) (calls : List Call) (visits : List Visit) :
    ((∀ pet ∈ (Store.afterCalls session {} calls).pets.all, pet.Named) ↔
      ∀ id name, Store.NamedByForm session calls id name → Text.trim name ≠ "") ∧
    ((∀ pet ∈ (({} : Store).afterVisits visits).pets.all, pet.Named) ↔
      ∀ id name, Store.NamedByForm session (visits.filterMap Visit.call?) id name →
        Text.trim name ≠ "") ∧
    ((∀ visit ∈ visits, ∀ id name status,
        serviceRouter.call visit.request = .ok (Call.renaming id name status) →
          Text.trim name ≠ "") →
      ∀ pet ∈ (({} : Store).afterVisits visits).pets.all, pet.Named) ∧
    ∀ (store : PetStore) (id : Int64) (pet : Pet) (name : String) (status : Option String)
      (newStatus : Option PetStatus),
      store.pets[id]? = some pet → readStatus? status = .ok newStatus →
      (updateWithForm id (some name) status).outcome store =
        (.ok ⟨⟩,
          { store with
            pets := store.pets.insert id
              { pet with name, status := newStatus.or pet.status } }) := by
  have byVisits : (∀ pet ∈ (({} : Store).afterVisits visits).pets.all, pet.Named) ↔
      ∀ id name, Store.NamedByForm session (visits.filterMap Visit.call?) id name →
        Text.trim name ≠ "" := by
    rw [Store.afterVisits_eq_afterCalls session]
    exact Store.forall_named_iff session _
  refine ⟨Store.forall_named_iff session calls, byVisits, fun forms => ?_, ?_⟩
  · refine byVisits.mpr fun id name named => ?_
    obtain ⟨status, made⟩ := named.exists_mem
    obtain ⟨visit, inside, called⟩ := List.mem_filterMap.mp made
    exact forms visit inside id name status (Visit.call?_eq_some_iff.mp called)
  · exact fun store id pet name status newStatus held readable =>
      updateWithForm_of_held held readable name

/-- A pet is added with a name, and a form takes it away, by calls and by requests. -/
theorem PetStore.names_over_runs_taken_away :
    let calls : List Call := [⟨.addPet { name := "rex" }⟩, Call.renaming 1 " " none]
    let add : Visit :=
      ⟨{ method := .post, path := "/pet", body := (Pet.toJson { name := "rex" }).bytes }, "a"⟩
    let form : Visit := ⟨{ method := .post, path := "/pet/1", query := some "name=+" }, "b"⟩
    (∃ id name, Store.NamedByForm "session" calls id name ∧ Text.trim name = "") ∧
    (¬ ∀ pet ∈ (({} : Store).afterVisits [add, form]).pets.all, pet.Named) ∧
    (∀ pet ∈ (({} : Store).afterVisits [add]).pets.all, pet.Named) ∧
    ((updateWithForm 1 (some " ") none).outcome
      (Store.afterCalls "session" {} [⟨.addPet { name := "rex" }⟩]).pets).1 = .ok ⟨⟩ := by
  intro calls add form
  have read : Pet.reader.document (Pet.toJson { name := "rex" }).bytes = .ok { name := "rex" } :=
    toOption_eq_some_iff.mp (by decide +kernel)
  have adds : serviceRouter.call add.request = .ok ⟨.addPet { name := "rex" }⟩ :=
    (call_post_pet rfl rfl).mpr ⟨_, read, rfl⟩
  have renames : serviceRouter.call { method := .post, path := "/pet/1", query := some "name=+" } =
      .ok (Call.renaming 1 " " none) := by
    rfl
  have come : [add, form].filterMap Visit.call? = calls := by
    rw [List.filterMap_cons_some (Visit.call?_eq_some_iff.mpr adds),
      List.filterMap_cons_some (Visit.call?_eq_some_iff.mpr renames), List.filterMap_nil]
  have stored : { id := some 1, name := " " } ∈ (Store.afterCalls "session" {} calls).pets.all := by
    decide
  obtain ⟨byCalls, byVisits, -, forms⟩ := PetStore.names_over_runs "session" calls [add, form]
  have taken : ∃ id name, Store.NamedByForm "session" calls id name ∧ Text.trim name = "" := by
    by_contra none
    have forms := fun id name named blank => none ⟨id, name, named, blank⟩
    exact byCalls.mpr forms _ stored (by decide)
  obtain ⟨-, -, kept, -⟩ := PetStore.names_over_runs "session" calls [add]
  refine ⟨taken, fun all => ?_, kept ?_, ?_⟩
  · obtain ⟨id, name, named, blank⟩ := taken
    exact byVisits.mp all id name (come ▸ named) blank
  · refine List.forall_mem_singleton.mpr fun id name status called => ?_
    cases adds.symm.trans called
  · rw [forms _ 1 { id := some 1, name := "rex" } " " none none rfl rfl]

end Petstore
