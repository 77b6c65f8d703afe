import Petstore.Proofs.Store.UserSteps

/-!
# A user that was created can be read and can log in

A user that the service has accepted is what a later request for its name gets, and its password is
the one that logs it in, as long as no request in between names that user (`user_persists`). Every
text that decodes to the name leads to the user, but for the two that are paths of their own: `GET`
on `/user/login` and `/user/logout` goes to other operations.
-/

namespace Petstore

/-! ## Requests for one user -/

/-- The segment of a path stands for a text, once it is decoded. -/
def Spells (segment text : String) : Prop :=
  '/' ∉ segment.toList ∧ Percent.decode segment = text

instance (segment text : String) : Decidable (Spells segment text) :=
  inferInstanceAs (Decidable ('/' ∉ segment.toList ∧ Percent.decode segment = text))

theorem fill_user (values : String → String) :
    PathTemplate.fill ⟨[.literal "user", .param "username"]⟩ values =
      "/user/" ++ values "username" := by
  rw [← String.toList_inj]
  simp [PathTemplate.fill, Text.join, Segment.fill]

/-- The request writes the user of a name: it creates a user of that name, alone or in a list, it
goes to the path of the user to update or to delete it, or it gives its name to another one. -/
inductive Request.WritesUser (request : Request) (name : String) : Prop where
  | create {user : User} (method : request.method = .post) (path : request.path = "/user")
      (body : User.reader.document request.body = .ok user) (own : user.username = name)
  | batch {users : List User} (creates : request.CreatesUsers users)
      (among : ∃ user ∈ users, user.username = name)
  | address {segment : String} (method : request.method = .put ∨ request.method = .delete)
      (path : request.path = "/user/" ++ segment) (spells : Spells segment name)
  | rename {segment other : String} {user : User} (method : request.method = .put)
      (path : request.path = "/user/" ++ segment) (spells : Spells segment other)
      (body : User.reader.document request.body = .ok user) (own : user.username = name)

section Requests

variable {request : Request} {call : Call} {name username password segment : String}

/-- A segment that is decoded to a username spells it, since it fits its template. -/
theorem spells_of_fits (operation : Operation) {values : String → String}
    (fits : operation.template.Fits values) (member : "username" ∈ operation.template.paramNames)
    (decoded : Percent.decode (values "username") = username) :
    Spells (values "username") username :=
  ⟨(fits _ member).2, decoded⟩

/-- Only a request that writes a user comes to a call that does. -/
theorem writesUser_of_call (called : serviceRouter.call request = .ok call)
    (writes : call.capability.WritesUser name) : request.WritesUser name := by
  obtain ⟨values, path, fits, method, takes⟩ := takes_of_call called
  obtain ⟨capability⟩ := call
  cases capability with
  | createUser user => exact .create (method_eq_of_ne_get method (by decide)) path takes writes
  | createUsersWithArrayInput users =>
    exact .batch ⟨method_eq_of_ne_get method (by decide), Or.inl path, takes⟩ writes
  | createUsersWithListInput users =>
    exact .batch ⟨method_eq_of_ne_get method (by decide), Or.inr path, takes⟩ writes
  | updateUser username user =>
    have path := path.trans (fill_user values)
    have method := method_eq_of_ne_get method (by decide : Operation.updateUser.method ≠ .get)
    have spells := spells_of_fits .updateUser fits (by decide) takes.1
    rcases writes with rfl | own
    · exact .address (Or.inl method) path spells
    · exact .rename method path spells takes.2 own
  | deleteUser username =>
    cases writes
    exact .address (Or.inr (method_eq_of_ne_get method (by decide))) (path.trans (fill_user values))
      (spells_of_fits .deleteUser fits (by decide) takes)
  | _ => exact writes.elim

/-- The segment of a user can be told from the path. -/
theorem segment_eq_of_user_path {other : String}
    (same : "/user/" ++ segment = "/user/" ++ other) : segment = other := by
  have letters := congrArg String.toList same
  rw [String.toList_append, String.toList_append] at letters
  exact String.toList_inj.mp (List.append_cancel_left letters)

/-- An update writes the user that it goes to and the one whose name it brings, and no other. -/
theorem writesUser_iff_of_put {user : User} (method : request.method = .put)
    (path : request.path = "/user/" ++ segment) (spells : Spells segment username)
    (body : User.reader.document request.body = .ok user) :
    request.WritesUser name ↔ username = name ∨ user.username = name := by
  constructor
  · rintro (⟨post, -, -, -⟩ | ⟨⟨post, -⟩, -⟩ | ⟨-, path', spells'⟩ | ⟨-, -, -, body', own⟩)
    · exact absurd (method.symm.trans post) (by decide)
    · exact absurd (method.symm.trans post) (by decide)
    · obtain rfl := segment_eq_of_user_path (path.symm.trans path')
      exact Or.inl (spells.2.symm.trans spells'.2)
    · obtain rfl := Except.ok.inj (body.symm.trans body')
      exact Or.inr own
  · rintro (rfl | own)
    · exact .address (Or.inl method) path spells
    · exact .rename method path spells body own

theorem call_post_user (method : request.method = .post) (path : request.path = "/user") :
    serviceRouter.call request = .ok call ↔
      ∃ user, User.reader.document request.body = .ok user ∧ call = ⟨.createUser user⟩ :=
  call_of_body .createUser rfl (fun _ => rfl) method path

/-- A segment other than the two literal ones leads to the user that it spells. -/
theorem call_getUserByName (method : request.method = .get)
    (path : request.path = "/user/" ++ segment) (spells : Spells segment username)
    (nonempty : segment ≠ "") (notLogin : segment ≠ "login") (notLogout : segment ≠ "logout") :
    serviceRouter.call request = .ok ⟨.getUserByName username⟩ := by
  let values : String → String := fun _ => segment
  have fits : Operation.getUserByName.template.Fits values :=
    fun _ _ => ⟨nonempty, spells.1⟩
  have notLogin : "login".toList ≠ segment.toList := mt String.toList_inj.mp notLogin.symm
  have notLogout : "logout".toList ≠ segment.toList := mt String.toList_inj.mp notLogout.symm
  have only : ∀ other : Operation, other.method = .get →
      List.Forall₂ Segment.Accepts other.segments ["user".toList, segment.toList] →
        other = .getUserByName := by
    intro other own accepted
    cases other with
    | getUserByName => rfl
    | findPetsByStatus | findPetsByTags | getPetById | getInventory | getOrderById | loginUser
    | logoutUser => simp_all [Operation.segments, Segment.Accepts]
    | _ => exact absurd own (by decide)
  exact call_of_takes fits only method (path.trans (fill_user values).symm) spells.2

/-- A login is for the first username and the first password of the query. -/
theorem call_loginUser (method : request.method = .get) (path : request.path = "/user/login")
    (forUser : (Invocation.ofRequest ∅ request).queryValue? "username" = some username)
    (byPassword : (Invocation.ofRequest ∅ request).queryValue? "password" = some password) :
    serviceRouter.call request = .ok ⟨.loginUser username password⟩ := by
  have resolved := Operation.resolve_text (rfl : Operation.loginUser.template.paramNames = [])
  rw [Invocation.queryValue?_ofRequest] at forUser byPassword
  have takes : (Capability.loginUser username password).Takes (fun _ => "") request :=
    ⟨forUser, byPassword⟩
  have bound : Operation.loginUser.bind (.ofRequest ∅ request) =
      .ok ⟨.loginUser username password⟩ :=
    Operation.bind_operation_eq_ok_iff.mpr takes
  have same : request.path = Operation.loginUser.template.text := path
  rw [← same, ← show request.method = Operation.loginUser.method from method] at resolved
  rw [call_of_resolve resolved, bound]
  rfl

end Requests

/-! ## Runs -/

namespace Store

variable {session : String} {store : Store} {visit : Visit} {name segment : String} {user : User}

/-- Calls that do not write a user leave it alone. -/
theorem user_afterCalls {calls : List Call}
    (others : ∀ call ∈ calls, ¬ call.capability.WritesUser name) :
    (afterCalls session store calls).users.users[name]? = store.users.users[name]? := by
  induction calls generalizing store with
  | nil => rfl
  | cons call calls ih =>
    rw [List.forall_mem_cons] at others
    exact (ih others.2).trans ((step_users session call.capability store).frame others.1)

/-- A user stays as it is as long as no request writes it. -/
theorem user_afterVisits {visits : List Visit}
    (others : ∀ visit ∈ visits, ¬ visit.request.WritesUser name) :
    (store.afterVisits visits).users.users[name]? = store.users.users[name]? := by
  rw [afterVisits_eq_afterCalls ""]
  refine user_afterCalls fun call member writes => ?_
  obtain ⟨visit, inside, called⟩ := List.mem_filterMap.mp member
  exact others visit inside (writesUser_of_call (Visit.call?_eq_some_iff.mp called) writes)

/-- A user is created unless its username is blank, and replaces an earlier one of that name. -/
theorem visit_create (store : Store) (method : visit.request.method = .post)
    (path : visit.request.path = "/user")
    (body : User.reader.document visit.request.body = .ok user) :
    store.visit visit =
      if user.Named then
        (.ok .empty,
          { store with users := ⟨store.users.users.insert user.username user⟩ })
      else (.error (.controller (.validation "username must not be empty")), store) := by
  have called := (call_post_user method path).mpr ⟨user, body, rfl⟩
  rw [visit_of_call (Visit.call?_eq_some_iff.mpr called), Call.perform_eq, afterCall, answer,
    outcome_onUsers, UserStore.outcome_create]
  by_cases named : user.Named
  · rw [if_pos named, if_pos named]
    rfl
  · rw [if_neg named, if_neg named]

/-- A request for a user that is stored gets a reply made of it. -/
theorem reply_of_user_held (method : visit.request.method = .get)
    (path : visit.request.path = "/user/" ++ segment) (spells : Spells segment user.username)
    (named : user.Named) (notLogin : segment ≠ "login") (notLogout : segment ≠ "logout")
    (held : store.users.users[user.username]? = some user) :
    (store.visit visit).1 = .ok (.json user.toJson.sorted) := by
  have nonempty : segment ≠ "" := by
    rintro rfl
    have blank : user.username = "" := spells.2.symm
    exact named (by rw [blank]; decide)
  have called := call_getUserByName method path spells nonempty notLogin notLogout
  rw [visit_of_call (Visit.call?_eq_some_iff.mpr called), Call.perform_eq, answer, outcome_onUsers,
    UserStore.outcome_find, held]
  rfl

/-- A user that is stored can log in by its password alone. -/
theorem login_of_user_held {password : String} (method : visit.request.method = .get)
    (path : visit.request.path = "/user/login")
    (forUser :
      (Invocation.ofRequest ∅ visit.request).queryValue? "username" = some user.username)
    (byPassword : (Invocation.ofRequest ∅ visit.request).queryValue? "password" = some password)
    (held : store.users.users[user.username]? = some user) :
    (store.visit visit).1 =
      if user.password = some password then
        .ok (.json (.string s!"logged in user session:{visit.session}"))
      else .error (.controller (.invalidInput "invalid username/password supplied")) := by
  have called := call_loginUser method path forUser byPassword
  rw [visit_of_call (Visit.call?_eq_some_iff.mpr called), Call.perform_eq, answer, outcome_onUsers,
    UserStore.outcome_login, held]
  by_cases right : user.password = some password
  · simp only [Option.any_some, right, decide_true, if_pos]
    rfl
  · simp only [Option.any_some, right, decide_false, if_neg, Bool.false_eq_true, not_false_eq_true]

/-- **No created user is lost.** From whatever store, the service accepts a user exactly if its
username is not blank. Once it has accepted one, and after further requests none of which writes the
user of that name, the user is what a request for a text of its name gets, and its password is the
one that logs it in. -/
theorem user_persists (store : Store) (write : Visit) (further : List Visit) (user : User)
    (method : write.request.method = .post) (path : write.request.path = "/user")
    (body : User.reader.document write.request.body = .ok user) :
    ((store.visit write).1 = .ok .empty ↔ user.Named) ∧
    ((store.visit write).1 = .ok .empty →
      (∀ visit ∈ further, ¬ visit.request.WritesUser user.username) →
      (∀ (read : Visit) (segment : String), read.request.method = .get →
        read.request.path = "/user/" ++ segment → Spells segment user.username →
        segment ≠ "login" → segment ≠ "logout" →
        ((store.afterVisits (write :: further)).visit read).1 =
          .ok (.json user.toJson.sorted)) ∧
      ∀ (login : Visit) (password : String), login.request.method = .get →
        login.request.path = "/user/login" →
        (Invocation.ofRequest ∅ login.request).queryValue? "username" = some user.username →
        (Invocation.ofRequest ∅ login.request).queryValue? "password" = some password →
        ((store.afterVisits (write :: further)).visit login).1 =
          if user.password = some password then
            .ok (.json (.string s!"logged in user session:{login.session}"))
          else .error (.controller (.invalidInput "invalid username/password supplied"))) := by
  have created := visit_create store method path body
  have accepted : (store.visit write).1 = .ok .empty ↔ user.Named := by
    rw [created]
    split
    · next named => exact iff_of_true rfl named
    · next blank => exact iff_of_false (fun same => nomatch same) blank
  refine ⟨accepted, fun replied others => ?_⟩
  have named := accepted.mp replied
  have held : (store.afterVisits (write :: further)).users.users[user.username]? = some user := by
    rw [if_pos named] at created
    calc (store.afterVisits (write :: further)).users.users[user.username]?
      _ = (store.visit write).2.users.users[user.username]? := user_afterVisits others
      _ = some user := by rw [created, Std.ExtTreeMap.getElem?_insert_self]
  refine ⟨?_, ?_⟩
  · intro read segment method path spells notLogin notLogout
    exact reply_of_user_held method path spells named notLogin notLogout held
  · intro login password method path forUser byPassword
    exact login_of_user_held method path forUser byPassword held

/-- A user by the name of a path of its own outlives the renaming of another user. -/
theorem user_persists_named_login :
    let store : Store :=
      { users := ⟨(∅ : Std.ExtTreeMap String User).insert "bob" { username := "bob" }⟩ }
    let user : User := { username := "login", password := some "secret" }
    let write : Visit := ⟨{ method := .post, path := "/user", body := user.toJson.bytes }, "a"⟩
    let rename : Visit :=
      ⟨{ method := .put, path := "/user/bob",
         body := (User.toJson { username := "rob" }).bytes }, "b"⟩
    let read : Visit := ⟨{ method := .get, path := "/user/%6Cogin" }, "c"⟩
    let login : Visit :=
      ⟨{ method := .get, path := "/user/login",
         query := some "username=login&password=secret" }, "d"⟩
    let left := store.afterVisits [write, rename]
    (left.visit read).1 = .ok (.json user.toJson.sorted) ∧
      (left.visit login).1 = .ok (.json (.string "logged in user session:d")) := by
  intro store user write rename read login left
  have readUser : User.reader.document
      (User.toJson { username := "login", password := some "secret" }).bytes = .ok user :=
    toOption_eq_some_iff.mp (by decide +kernel)
  have readRob : User.reader.document (User.toJson { username := "rob" }).bytes =
      .ok { username := "rob" } :=
    toOption_eq_some_iff.mp (by decide +kernel)
  have others : ∀ visit ∈ [rename], ¬ visit.request.WritesUser user.username := by
    rw [List.forall_mem_singleton,
      writesUser_iff_of_put rfl (by rfl : _ = "/user/" ++ "bob") ⟨by decide, rfl⟩ readRob]
    decide
  obtain ⟨accepted, kept⟩ := user_persists store write [rename] user rfl rfl readUser
  have named : user.Named := by decide
  obtain ⟨found, admitted⟩ := kept (accepted.mpr named) others
  exact ⟨found read "%6Cogin" rfl rfl (by decide) (by decide) (by decide),
    admitted login "secret" rfl rfl (by decide) (by decide)⟩

end Store

end Petstore
