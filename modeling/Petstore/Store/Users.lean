import Petstore.Model.Basic
import Petstore.Store.Action
import Petstore.Text.Blank
import Std.Data.ExtTreeMap

/-!
# The users of the store

Users by their username.
-/

namespace Petstore

/-- The users of the store by username. -/
structure UserStore where
  users : Std.ExtTreeMap String User := ∅

namespace UserStore

/-- The complaint about a username that nobody has. -/
def noUser (username : String) : ControllerError :=
  .notFound s!"user {username}"

/-- A username has to have a character that is not blank. -/
def checkUsername (user : User) : Except ControllerError Unit :=
  if Text.trim user.username = "" then .error (.validation "username must not be empty")
  else .ok ()

/-- Put a user in the place of its username. -/
def put (user : User) : Action UserStore Unit :=
  modify fun store => ⟨store.users.insert user.username user⟩

/-- Take away the user of a name, if there is one. -/
def remove (username : String) : Action UserStore (Option User) :=
  modifyGet fun store => (store.users[username]?, ⟨store.users.erase username⟩)

/-- The user of a name. -/
def find (username : String) : Action UserStore User := do
  match (← get).users[username]? with
  | some user => return user
  | none => throw (noUser username)

/-- Store a user under its username, in the place of an earlier one of that name. -/
def create (user : User) : Action UserStore Unit := do
  checkUsername user
  put user

/-- Store the users of a list one after the other, up to the first that is refused. -/
def createAll (users : List User) : Action UserStore Unit :=
  users.forM create

/-- Open a session for a user who gives the right password. -/
def login (session username password : String) : Action UserStore String := do
  if ((← get).users[username]?).any (·.password = some password) then
    return s!"logged in user session:{session}"
  else throw (.invalidInput "invalid username/password supplied")

/-- Give a user another username, if that name is free: the new name is claimed before the old one
is released. -/
def rename (username : String) (user : User) : Action UserStore Unit := do
  if (← get).users.contains user.username then
    throw (.validation s!"username `{user.username}` is already taken")
  put user
  discard (remove username)

/-- Replace the user of a name. A user without a username keeps the name; one with another username
is renamed, if that name is free. -/
def update (username : String) (user : User) : Action UserStore Unit := do
  let user := if user.username = "" then { user with username } else user
  checkUsername user
  discard (find username)
  if user.username = username then put user else rename username user

/-- Remove a user. -/
def delete (username : String) : Action UserStore Unit := do
  if (← remove username).isNone then throw (noUser username)

end UserStore

end Petstore
