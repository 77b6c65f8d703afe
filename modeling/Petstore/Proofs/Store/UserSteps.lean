import Petstore.Proofs.Store.Batches

/-!
# What one call does to the users

As for pets and orders, each operation on the users comes down to one equation, and the steps gather
them: a capability keeps the users or makes one of six writes (`UserStore.Step`). A write concerns
the names that the capability names, so the user of any other name stays as it is
(`UserStore.Step.frame`). An update may concern two names at once, the one it goes to and the one
that it brings.
-/

namespace Petstore

/-- The user as it is stored by an update of the user of a name: without a username of its own it
keeps that name. -/
def User.keeping (user : User) (username : String) : User :=
  if user.username = "" then { user with username } else user

theorem User.username_keeping (user : User) (username : String) :
    (user.keeping username).username =
      if user.username = "" then username else user.username := by
  rw [keeping, apply_ite User.username]

/-- The capability writes the user of a name: it brings a user of that name, alone or in a list, or
it is for the user of that name, to update or to delete it. -/
def Capability.WritesUser {kind : ResultKind} (name : String) : Capability kind → Prop
  | createUser user => user.username = name
  | createUsersWithArrayInput users => ∃ user ∈ users, user.username = name
  | createUsersWithListInput users => ∃ user ∈ users, user.username = name
  | updateUser username user => username = name ∨ user.username = name
  | deleteUser username => username = name
  | _ => False

namespace UserStore

open Petstore.Action

/-! ## Outcomes -/

theorem outcome_find (username : String) (store : UserStore) :
    outcome (find username) store =
      (match store.users[username]? with
        | some user => .ok user
        | none => .error (noUser username), store) := by
  rw [find, outcome_get_bind]
  cases held : store.users[username]? with
  | none => rfl
  | some user => rfl

/-- A session is opened for a user whose password is the given one. -/
theorem outcome_login (session username password : String) (store : UserStore) :
    outcome (login session username password) store =
      (if (store.users[username]?).any (·.password = some password) then
          .ok s!"logged in user session:{session}"
        else .error (.invalidInput "invalid username/password supplied"), store) := by
  rw [login, outcome_get_bind]
  split
  · rfl
  · rfl

/-- The user is stored under the new name, if that is free, and no longer under the old one. -/
theorem outcome_rename (username : String) (user : User) (store : UserStore) :
    outcome (rename username user) store =
      if store.users.contains user.username then
        (.error (.validation s!"username `{user.username}` is already taken"), store)
      else (.ok ⟨⟩, ⟨(store.users.insert user.username user).erase username⟩) := by
  rw [rename, outcome_get_bind]
  by_cases taken : store.users.contains user.username = true
  · rw [if_pos taken, if_pos taken]
    rfl
  · rw [if_neg taken, if_neg taken]
    rfl

/-- The user of a name is replaced or renamed, if there is one. -/
theorem outcome_update (username : String) (user : User) (store : UserStore) :
    outcome (update username user) store =
      let kept := user.keeping username
      if kept.Named then
        match store.users[username]? with
        | none => (.error (noUser username), store)
        | some _ =>
          if kept.username = username then (.ok ⟨⟩, ⟨store.users.insert username kept⟩)
          else outcome (rename username kept) store
      else (.error (.validation "username must not be empty"), store) := by
  have kept : (if user.username = "" then { user with username } else user) =
      user.keeping username := rfl
  unfold update
  dsimp only
  rw [kept]
  generalize user.keeping username = kept
  rw [outcome_checkUsername_bind, outcome_bind, discard_eq_map, outcome_map, outcome_find]
  cases held : store.users[username]? with
  | none => rfl
  | some old =>
    by_cases own : kept.username = username
    · simp only [← own]
      rfl
    · simp only [if_neg own]
      rfl

theorem outcome_delete (username : String) (store : UserStore) :
    outcome (delete username) store =
      (if store.users[username]?.isNone then .error (noUser username) else .ok ⟨⟩,
        ⟨store.users.erase username⟩) := by
  rw [delete, remove, outcome_bind, outcome_modifyGet]
  dsimp only
  split
  · rfl
  · rfl

/-! ## Steps -/

/-- What a capability may do to the users. -/
inductive Step (store : UserStore) : {kind : ResultKind} → Capability kind → UserStore → Prop where
  | keep {kind : ResultKind} (capability : Capability kind) : Step store capability store
  | create {user : User} (named : user.Named) :
      Step store (.createUser user) ⟨store.users.insert user.username user⟩
  | createArray (users : List User) :
      Step store (.createUsersWithArrayInput users) (store.withAll (users.takeWhile (·.Named)))
  | createList (users : List User) :
      Step store (.createUsersWithListInput users) (store.withAll (users.takeWhile (·.Named)))
  | replace {username : String} {user old : User} (held : store.users[username]? = some old)
      (named : (user.keeping username).Named)
      (own : (user.keeping username).username = username) :
      Step store (.updateUser username user)
        ⟨store.users.insert username (user.keeping username)⟩
  | rename {username : String} {user old : User} (held : store.users[username]? = some old)
      (named : (user.keeping username).Named)
      (other : (user.keeping username).username ≠ username)
      (free : ¬ store.users.contains (user.keeping username).username) :
      Step store (.updateUser username user)
        ⟨(store.users.insert (user.keeping username).username (user.keeping username)).erase
          username⟩
  | remove (username : String) :
      Step store (.deleteUser username) ⟨store.users.erase username⟩

theorem Step.of_readOnly {α : Type} {action : Action UserStore α} (reads : action.ReadOnly)
    {kind : ResultKind} (capability : Capability kind) (store : UserStore) :
    Step store capability (outcome action store).2 := by
  rw [reads store]
  exact .keep capability

theorem step_create (user : User) (store : UserStore) :
    Step store (.createUser user) (outcome (create user) store).2 := by
  rw [outcome_create]
  split
  · next named => exact .create named
  · exact .keep _

theorem step_update (username : String) (user : User) (store : UserStore) :
    Step store (.updateUser username user) (outcome (update username user) store).2 := by
  rw [outcome_update]
  dsimp only
  split
  · next named =>
    split
    · exact .keep _
    · next old held =>
      split
      · next own => exact .replace held named own
      · next other =>
        rw [outcome_rename]
        split
        · exact .keep _
        · next free => exact .rename held named other free
  · exact .keep _

theorem step_delete (username : String) (store : UserStore) :
    Step store (.deleteUser username) (outcome (delete username) store).2 := by
  rw [outcome_delete]
  exact .remove username

variable {store left : UserStore} {kind : ResultKind} {capability : Capability kind} {name : String}

/-- Users of other names do not show under a name. -/
theorem getElem?_withAll_of_ne {users : List User}
    (others : ∀ user ∈ users, user.username ≠ name) :
    (store.withAll users).users[name]? = store.users[name]? := by
  have none : users.filter (·.username = name) = [] := by
    rw [List.filter_eq_nil_iff]
    exact fun user member own => others user member (of_decide_eq_true own)
  rw [getElem?_withAll, none]
  rfl

/-- A call that does not write the user of a name leaves what is stored under it. -/
theorem Step.frame (step : Step store capability left) (other : ¬ capability.WritesUser name) :
    left.users[name]? = store.users[name]? := by
  have stored {users : List User} (others : ¬ ∃ user ∈ users, user.username = name) :
      ∀ user ∈ users.takeWhile (·.Named), user.username ≠ name :=
    fun user member own => others ⟨user, (List.takeWhile_prefix _).mem member, own⟩
  cases step with
  | keep capability => rfl
  | create named => exact getElem?_insert_of_ne _ other
  | createArray users => exact getElem?_withAll_of_ne (stored other)
  | createList users => exact getElem?_withAll_of_ne (stored other)
  | replace held named own => exact getElem?_insert_of_ne _ fun same => other (Or.inl same)
  | @rename username user old held named apart free =>
    have different : (user.keeping username).username ≠ name := by
      rw [User.username_keeping]
      split
      · exact fun same => other (Or.inl same)
      · exact fun same => other (Or.inr same)
    rw [getElem?_erase_of_ne fun same => other (Or.inl same), getElem?_insert_of_ne _ different]
  | remove username => exact getElem?_erase_of_ne other

end UserStore

/-! ## The whole store -/

namespace Store

open Petstore.Action

/-- Every capability keeps the users or makes one of the six writes. -/
theorem step_users (session : String) {kind : ResultKind} (capability : Capability kind)
    (store : Store) :
    UserStore.Step store.users capability ((answer session capability).outcome store).2.users := by
  cases capability with
  | createUser user =>
    rw [answer, users_onUsers]
    exact UserStore.step_create user store.users
  | createUsersWithArrayInput users =>
    rw [answer, users_onUsers, UserStore.outcome_createAll]
    exact .createArray users
  | createUsersWithListInput users =>
    rw [answer, users_onUsers, UserStore.outcome_createAll]
    exact .createList users
  | updateUser username user =>
    rw [answer, users_onUsers]
    exact UserStore.step_update username user store.users
  | deleteUser username =>
    rw [answer, users_onUsers]
    exact UserStore.step_delete username store.users
  | loginUser username password =>
    rw [answer, users_onUsers]
    exact .of_readOnly (UserStore.readOnly_login session username password) _ store.users
  | getUserByName username =>
    rw [answer, users_onUsers]
    exact .of_readOnly (UserStore.readOnly_find username) _ store.users
  | getInventory =>
    rw [answer, outcome_map]
    exact .keep _
  | logoutUser => exact .keep _
  | placeOrder | getOrderById | deleteOrder =>
    rw [answer, outcome_onOrders]
    exact .keep _
  | addPet | updatePet | findPetsByStatus | findPetsByTags | getPetById | updatePetWithForm
  | deletePet | uploadFile =>
    rw [answer, outcome_onPets]
    exact .keep _

end Store

end Petstore
