import Petstore.Proofs.Model.RoundTrip
import Petstore.Proofs.Store.UserPersistence

/-!
# Usernames over a run

A user is written in three ways: put in under its own name, put over the user of the name that a
request is for, and brought under a new name while the old one is released. Each looks at the
username first, with the name of the path filled in where there is none, so that every user stands
under its own name and no name is blank (`UserStore.Keyed`). Every call keeps this, a batch that
fails halfway as well (`usernames_over_runs`).
-/

namespace Petstore

namespace UserStore

open Petstore.Action

variable {store left : UserStore} {kind : ResultKind} {capability : Capability kind} {user : User}

/-- Every user is stored under its username, which is not blank. -/
def Keyed (store : UserStore) : Prop :=
  ∀ ⦃name : String⦄ ⦃user : User⦄,
    store.users[name]? = some user → user.username = name ∧ user.Named

theorem keyed_empty : Keyed {} := by
  intro name user held
  simp at held

/-- A user with a name is put in its own place. -/
theorem Keyed.insert (keyed : store.Keyed) (named : user.Named) :
    Keyed ⟨store.users.insert user.username user⟩ := by
  intro name found held
  rcases eq_or_held_of_insert held with ⟨own, rfl⟩ | kept
  · exact ⟨own, named⟩
  · exact keyed kept

theorem Keyed.erase (keyed : store.Keyed) (name : String) : Keyed ⟨store.users.erase name⟩ :=
  fun _ _ held => keyed (held_of_erase held)

theorem Keyed.withAll (keyed : store.Keyed) {users : List User}
    (named : ∀ user ∈ users, user.Named) : (store.withAll users).Keyed := by
  induction users generalizing store with
  | nil => exact keyed
  | cons user users ih =>
    rw [List.forall_mem_cons] at named
    exact ih (keyed.insert named.1) named.2

/-- Every call keeps the users under their names. -/
theorem Step.keyed (step : Step store capability left) (keyed : store.Keyed) : left.Keyed := by
  have batch (users : List User) : (store.withAll (users.takeWhile (·.Named))).Keyed :=
    keyed.withAll fun user stored => by simpa using List.mem_takeWhile_imp stored
  cases step with
  | keep capability => exact keyed
  | create named => exact keyed.insert named
  | createArray users => exact batch users
  | createList users => exact batch users
  | @replace username user old held named own =>
    have kept := keyed.insert named
    rwa [own] at kept
  | rename held named other free => exact (keyed.insert named).erase _
  | remove username => exact keyed.erase username

theorem keyed_afterCalls (session : String) {store : Store} (keyed : store.users.Keyed)
    (calls : List Call) : (Store.afterCalls session store calls).users.Keyed :=
  Store.afterCalls_induction
    (fun store call keyed => (Store.step_users session call.capability store).keyed keyed)
    keyed calls

/-- The user that is found under a name has it. -/
theorem Keyed.username_of_find (keyed : store.Keyed) {name : String}
    (found : (outcome (find name) store).1 = .ok user) : user.username = name := by
  rw [outcome_find] at found
  cases held : store.users[name]? with
  | none => simp [held] at found
  | some other =>
    simp only [held, Except.ok.injEq] at found
    exact found ▸ (keyed held).1

/-- **Usernames over a run.** After any calls and after any requests from the empty store, each user
stands under its own username, which is not blank. So no two users have one username, and the user
that is found by a name has that name. -/
theorem usernames_over_runs (session : String) (calls : List Call) (visits : List Visit) :
    ∀ store ∈ [Store.afterCalls session {} calls, ({} : Store).afterVisits visits],
      (∀ (name : String) (user : User), store.users.users[name]? = some user →
        user.username = name ∧ Text.trim name ≠ "") ∧
      (∀ (name other : String) (user rival : User), store.users.users[name]? = some user →
        store.users.users[other]? = some rival → user.username = rival.username → name = other) ∧
      ∀ (name : String) (user : User),
        ((Store.answer session (.getUserByName name)).outcome store).1 = .ok user →
          user.username = name := by
  have keyed : ∀ store ∈ [Store.afterCalls session {} calls, ({} : Store).afterVisits visits],
      store.users.Keyed := by
    rw [Store.afterVisits_eq_afterCalls session, List.forall_mem_cons, List.forall_mem_singleton]
    exact ⟨keyed_afterCalls session keyed_empty _, keyed_afterCalls session keyed_empty _⟩
  intro store reached
  have keyed := keyed store reached
  refine ⟨?_, ?_, ?_⟩
  · intro name user held
    obtain ⟨own, named⟩ := keyed held
    exact ⟨own, own ▸ named⟩
  · intro name other user rival held held' same
    rw [← (keyed held).1, same, (keyed held').1]
  · intro name user found
    exact keyed.username_of_find found

/-- A list stores its first user and fails at the second. An update without a username keeps the
name, and one with another username changes it; the blank name of a path gives nobody a name. -/
theorem usernames_over_runs_renamed :
    let ann : User := { username := "ann" }
    let eve : User := { username := "eve" }
    let bob : User := { username := "bob" }
    let calls : List Call :=
      [⟨.createUsersWithListInput [ann, { username := " " }, bob]⟩,
        ⟨.updateUser "ann" { phone := some "1" }⟩, ⟨.updateUser "ann" eve⟩, ⟨.updateUser " " {}⟩]
    let create : Visit := ⟨{ method := .post, path := "/user", body := bob.toJson.bytes }, "a"⟩
    let called := Store.afterCalls "session" {} calls
    let visited := ({} : Store).afterVisits [create]
    (called.users.users["eve"]? = some eve ∧ eve.username = "eve") ∧
      (visited.users.users["bob"]? = some bob ∧ bob.username = "bob") ∧
      called.users.users["ann"]? = none ∧ called.users.users["bob"]? = none := by
  intro ann eve bob calls create called visited
  have read : User.reader.document bob.toJson.bytes = .ok bob :=
    (@User.reads .declared bob).document
  have created : visited.users.users["bob"]? = some bob := by
    have created : ({} : Store).visit create = _ := Store.visit_create {} rfl rfl read
    have named : bob.Named := by decide
    rw [if_pos named] at created
    change ((({} : Store).visit create).2).users.users["bob"]? = some bob
    rw [created]
    exact Std.ExtTreeMap.getElem?_insert_self
  have renamed : called.users.users["eve"]? = some eve := by decide +kernel
  have all := usernames_over_runs "session" calls [create]
  rw [List.forall_mem_cons, List.forall_mem_singleton] at all
  obtain ⟨⟨byCalls, -, -⟩, byVisits, -, -⟩ := all
  exact ⟨⟨renamed, (byCalls "eve" eve renamed).1⟩, ⟨created, (byVisits "bob" bob created).1⟩,
    by decide +kernel, by decide +kernel⟩

end UserStore

end Petstore
