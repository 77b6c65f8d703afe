import Mathlib.Data.List.TakeWhile
import Petstore.Proofs.Api.Requests
import Petstore.Proofs.Store.Runs

/-!
# Creating several users

The users of a list are stored one after the other up to the first whose username is blank. That one
fails the call, and the users before it stay: `outcome_batch` says which users are stored, and what
is found under a name afterwards. So a call that succeeds stores the whole list, and one that fails
may have stored a part of it (`outcome_batch_keeps_first`).
-/

namespace Petstore

/-- The username has a character that is not blank. -/
def User.Named (user : User) : Prop :=
  Text.trim user.username ≠ ""

instance (user : User) : Decidable user.Named :=
  inferInstanceAs (Decidable (Text.trim user.username ≠ ""))

namespace UserStore

open Petstore.Action

/-- The users with those of a list put in, one after the other. -/
def withAll (store : UserStore) (users : List User) : UserStore :=
  users.foldl (fun store user => ⟨store.users.insert user.username user⟩) store

/-- Under a name stands the last user of that name in the list, or else the one from before. -/
theorem getElem?_withAll (store : UserStore) (users : List User) (name : String) :
    (store.withAll users).users[name]? =
      (users.filter (·.username = name)).getLast?.or store.users[name]? := by
  induction users using List.reverseRecOn with
  | nil => rfl
  | append_singleton users user ih =>
    have last : store.withAll (users ++ [user]) =
        ⟨(store.withAll users).users.insert user.username user⟩ := List.foldl_concat ..
    rw [last, getElem?_insert_ite, List.filter_append]
    by_cases own : user.username = name
    · simp [own]
    · simp [own, ih]

/-- What follows the check of a username starts from the same store, unless the name is blank. -/
theorem outcome_checkUsername_bind {α : Type} (user : User) (next : Unit → Action UserStore α)
    (store : UserStore) :
    outcome (liftM (checkUsername user) >>= next) store =
      if user.Named then outcome (next ()) store
      else (.error (.validation "username must not be empty"), store) := by
  rw [outcome_liftM_bind]
  by_cases named : user.Named
  · have checked : checkUsername user = .ok () := if_neg named
    rw [if_pos named, checked]
  · have checked : checkUsername user = .error (.validation "username must not be empty") :=
      if_pos (not_not.mp named)
    rw [if_neg named, checked]

/-- A user is stored in the place of its username, unless that is blank. -/
theorem outcome_create (user : User) (store : UserStore) :
    outcome (create user) store =
      if user.Named then (.ok ⟨⟩, ⟨store.users.insert user.username user⟩)
      else (.error (.validation "username must not be empty"), store) :=
  outcome_checkUsername_bind user (fun _ => put user) store

/-- The users before the first without a name are stored, and that one fails the call. -/
theorem outcome_createAll (users : List User) (store : UserStore) :
    outcome (createAll users) store =
      (if ∀ user ∈ users, user.Named then .ok ⟨⟩
        else .error (.validation "username must not be empty"),
        store.withAll (users.takeWhile (·.Named))) := by
  induction users generalizing store with
  | nil => rfl
  | cons user users ih =>
    have step : createAll (user :: users) = create user >>= fun _ => createAll users := rfl
    rw [step, outcome_bind, outcome_create]
    by_cases named : user.Named
    · rw [if_pos named]
      simp [ih, named, withAll]
    · rw [if_neg named]
      simp [named, withAll]

/-- What is stored of a list in which a user has no name is followed by the first such user. -/
theorem exists_unnamed_of_takeWhile {users : List User} (failed : ¬ ∀ user ∈ users, user.Named) :
    ∃ unnamed rest, users = users.takeWhile (·.Named) ++ unnamed :: rest ∧ ¬ unnamed.Named := by
  cases split : users.dropWhile (·.Named) with
  | nil =>
    rw [List.dropWhile_eq_nil_iff] at split
    exact absurd (fun user member => of_decide_eq_true (split user member)) failed
  | cons unnamed rest =>
    refine ⟨unnamed, rest, ?_, ?_⟩
    · rw [← split, List.takeWhile_append_dropWhile]
    · have first := List.head?_dropWhile_not (fun user : User => decide user.Named) users
      simpa [split] using first

end UserStore

/-! ## Calls and requests -/

/-- A request with a list of users to create. -/
def Request.CreatesUsers (request : Request) (users : List User) : Prop :=
  request.method = .post ∧
    (request.path = "/user/createWithArray" ∨ request.path = "/user/createWithList") ∧
    (Json.Reader.list User.reader).document request.body = .ok users

namespace Store

variable {session : String} {store left : Store} {request : Request}

/-- A request that comes to a call without a result gets an empty reply, or the error of that
call. -/
theorem dispatch_done {capability : Capability .done}
    (called : serviceRouter.call request = .ok ⟨capability⟩) (session : String) (store : Store) :
    serviceRouter.dispatch (controllers session) request store =
      let answered := (answer session capability).outcome store
      ((answered.1.mapError .controller).map fun _ => .empty, answered.2) := by
  rw [Router.dispatch, called]
  refine (Call.perform_eq _ session store).trans ?_
  rw [afterCall]
  dsimp only
  cases ((answer session capability).outcome store).1 with
  | ok result => rfl
  | error error => rfl

theorem dispatch_of_done {capability : Capability .done} {success : Prop} [Decidable success]
    {error : ControllerError}
    (answered : (answer session capability).outcome store =
      (if success then .ok ⟨⟩ else .error error, left))
    (called : serviceRouter.call request = .ok ⟨capability⟩) :
    serviceRouter.dispatch (controllers session) request store =
      (if success then .ok .empty else .error (.controller error), left) := by
  rw [dispatch_done called, answered]
  by_cases succeeds : success
  · rw [if_pos succeeds, if_pos succeeds]
    rfl
  · rw [if_neg succeeds, if_neg succeeds]
    rfl

/-- **Batches of users.** Both calls for a list of users, and the requests that come to them, store
the users before the first whose username is blank, each under its username and in the place of an
earlier one of that name, and leave the rest of the store alone. They succeed exactly if no username
is blank, so that all are stored, and fail otherwise with what was stored before. -/
theorem outcome_batch (session : String) (store : Store) (users : List User) :
    let stored := users.takeWhile (·.Named)
    let left : Store := { store with users := store.users.withAll stored }
    let invalid : ControllerError := .validation "username must not be empty"
    (answer session (.createUsersWithArrayInput users)).outcome store =
      (if stored = users then .ok ⟨⟩ else .error invalid, left) ∧
    (answer session (.createUsersWithListInput users)).outcome store =
      (if stored = users then .ok ⟨⟩ else .error invalid, left) ∧
    (∀ request : Request, request.CreatesUsers users →
      serviceRouter.dispatch (controllers session) request store =
        (if stored = users then .ok .empty else .error (.controller invalid), left)) ∧
    (stored = users ↔ ∀ user ∈ users, user.Named) ∧
    (stored ≠ users → ∃ unnamed rest, users = stored ++ unnamed :: rest ∧ ¬ unnamed.Named) ∧
    ∀ name : String, left.users.users[name]? =
      (stored.filter (·.username = name)).getLast?.or store.users.users[name]? := by
  intro stored left invalid
  have whole : stored = users ↔ ∀ user ∈ users, user.Named := by
    rw [List.takeWhile_eq_self_iff]
    simp
  have created : (UserStore.createAll users).outcome store.users =
      (if stored = users then .ok ⟨⟩ else .error invalid, store.users.withAll stored) := by
    rw [UserStore.outcome_createAll]
    simp only [whole, stored, invalid]
  have array : (answer session (.createUsersWithArrayInput users)).outcome store =
      (if stored = users then .ok ⟨⟩ else .error invalid, left) := by
    rw [answer, outcome_onUsers, created]
  have list : (answer session (.createUsersWithListInput users)).outcome store =
      (if stored = users then .ok ⟨⟩ else .error invalid, left) := by
    rw [answer, outcome_onUsers, created]
  refine ⟨array, list, ?_, whole, ?_, UserStore.getElem?_withAll store.users stored⟩
  · rintro request ⟨method, path | path, read⟩
    · exact dispatch_of_done array ((call_post_users_array method path).mpr ⟨users, read, rfl⟩)
    · exact dispatch_of_done list ((call_post_users_list method path).mpr ⟨users, read, rfl⟩)
  · exact fun part => UserStore.exists_unnamed_of_takeWhile (mt whole.mpr part)

/-- Of two users of one name the second is kept. -/
theorem outcome_batch_same_name :
    let users : List User := [{ username := "bob" }, { username := "bob", password := some "b" }]
    let request : Request :=
      { method := .post, path := "/user/createWithList",
        body := (Json.ofList User.toJson users).bytes }
    let answered := serviceRouter.dispatch (controllers "session") request {}
    answered.1 = .ok .empty ∧
      answered.2.users.users["bob"]? = some { username := "bob", password := some "b" } := by
  intro users request answered
  have read : (Json.Reader.list User.reader).document
      (Json.ofList User.toJson
        [{ username := "bob" }, { username := "bob", password := some "b" }]).bytes =
        .ok [{ username := "bob" }, { username := "bob", password := some "b" }] :=
    toOption_eq_some_iff.mp (by decide +kernel)
  obtain ⟨-, -, replied, whole, -, found⟩ := outcome_batch "session" {} users
  have all : users.takeWhile (·.Named) = users := by decide
  have answer : answered = _ := replied request ⟨rfl, Or.inr rfl, read⟩
  rw [answer, if_pos all]
  exact ⟨rfl, (found "bob").trans (by decide)⟩

/-- A batch that fails has stored the user before the one without a name. -/
theorem outcome_batch_keeps_first :
    let request : Request :=
      { method := .post, path := "/user/createWithArray",
        body := (Json.ofList User.toJson [{ username := "alice" }, { username := " " }]).bytes }
    let answered := serviceRouter.dispatch (controllers "session") request {}
    answered.1 = .error (.controller (.validation "username must not be empty")) ∧
      ({} : Store).users.users["alice"]? = none ∧
      answered.2.users.users["alice"]? = some { username := "alice" } := by
  intro request answered
  have read : (Json.Reader.list User.reader).document
      (Json.ofList User.toJson [{ username := "alice" }, { username := " " }]).bytes =
        .ok [{ username := "alice" }, { username := " " }] :=
    toOption_eq_some_iff.mp (by decide +kernel)
  have called : serviceRouter.call request =
      .ok ⟨.createUsersWithArrayInput [{ username := "alice" }, { username := " " }]⟩ :=
    (call_post_users_array rfl rfl).mpr ⟨_, read, rfl⟩
  have answer : answered =
      (.error (.controller (.validation "username must not be empty")),
        { users := ⟨(∅ : Std.ExtTreeMap String User).insert "alice"
          { username := "alice" }⟩ }) := by
    simp only [answered, Router.dispatch, called]
    rfl
  rw [answer]
  exact ⟨rfl, rfl, by decide⟩

end Store

end Petstore
