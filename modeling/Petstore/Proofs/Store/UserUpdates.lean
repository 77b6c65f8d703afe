import Petstore.Proofs.Store.UserPersistence

/-!
# Updating a user

An update may put a user in the place of another of its name, or bring it under a new name. Either
way the map of the users loses the old name and gets the user under the name that it has now, so
that as many users are there as before, and all others are as they were. What may go wrong is looked
at first, in one order for both ways: a blank name, a user who is not there, a name that is taken
(`Store.update_user_exact`).
-/

namespace Petstore

/-! ## One key in the place of another -/

section Maps

variable {κ β : Type} {cmp : κ → κ → Ordering} [Std.TransCmp cmp] [Std.LawfulEqCmp cmp]
  {map : Std.ExtTreeMap κ β cmp} {old new : κ} {value : β}

theorem insert_eq_insert_erase [DecidableEq κ] (map : Std.ExtTreeMap κ β cmp) (key : κ)
    (value : β) : map.insert key value = (map.erase key).insert key value := by
  refine Std.ExtTreeMap.ext_getElem? fun other => ?_
  rw [getElem?_insert_ite, getElem?_insert_ite, getElem?_erase_ite]
  split
  · rfl
  · rfl

/-- To put in the new before the old is taken out comes to the same as the other way round. -/
theorem erase_insert_of_ne [DecidableEq κ] (different : new ≠ old) :
    (map.insert new value).erase old = (map.erase old).insert new value := by
  refine Std.ExtTreeMap.ext_getElem? fun other => ?_
  rw [getElem?_erase_ite, getElem?_insert_ite, getElem?_insert_ite, getElem?_erase_ite]
  by_cases isOld : old = other
  · subst isOld
    rw [if_pos rfl, if_neg different, if_pos rfl]
  · rw [if_neg isOld, if_neg isOld]

theorem getElem?_insert_erase_of_ne [DecidableEq κ] {key : κ} (notOld : key ≠ old)
    (notNew : key ≠ new) : ((map.erase old).insert new value)[key]? = map[key]? := by
  rw [getElem?_insert_of_ne _ notNew.symm, getElem?_erase_of_ne notOld.symm]

/-- A key that is there gives way to one that is new: the map stays as large as it was. -/
theorem size_insert_erase (held : old ∈ map) (free : new ≠ old → new ∉ map) :
    ((map.erase old).insert new value).size = map.size := by
  have inhabited : map.size ≠ 0 := by
    intro none
    rw [Std.ExtTreeMap.eq_empty_iff_size_eq_zero.mpr none] at held
    exact Std.ExtTreeMap.not_mem_empty held
  have absent : ¬ (map.erase old).contains new = true := by
    rw [Std.ExtTreeMap.contains_iff_mem, Std.ExtTreeMap.mem_erase]
    rintro ⟨different, member⟩
    exact free (fun same => different (same ▸ Std.ReflCmp.compare_self)) member
  rw [Std.ExtTreeMap.size_insert, if_neg absent, Std.ExtTreeMap.size_erase,
    if_pos (Std.ExtTreeMap.contains_iff_mem.mpr held)]
  omega

end Maps

/-! ## Requests -/

section Requests

variable {request : Request} {segment username : String} {user : User}

/-- An update goes to the user whom the segment spells, with the user in the body. -/
theorem call_put_user (method : request.method = .put)
    (path : request.path = "/user/" ++ segment) (spells : Spells segment username)
    (nonempty : segment ≠ "") (body : User.reader.document request.body = .ok user) :
    serviceRouter.call request = .ok ⟨.updateUser username user⟩ := by
  let values : String → String := fun _ => segment
  have fits : Operation.updateUser.template.Fits values := fun _ _ => ⟨nonempty, spells.1⟩
  have only : ∀ other : Operation, other.method = .put →
      List.Forall₂ Segment.Accepts other.segments ["user".toList, segment.toList] →
        other = .updateUser := by
    intro other own accepted
    cases other with
    | updateUser => rfl
    | updatePet => cases accepted with | cons _ rest => cases rest
    | _ => exact absurd own (by decide)
  exact call_of_takes fits only method (path.trans (fill_user values).symm) ⟨spells.2, body⟩

end Requests

/-! ## Calls -/

theorem User.keeping_eq (user : User) (username : String) :
    user.keeping username =
      { user with username := if user.username = "" then username else user.username } := by
  unfold keeping
  split
  · rfl
  · rfl

namespace UserStore

open Petstore.Action

/-- What is wrong with an update of the user of a name that is to have a name from then on: that one
is blank, or there is no such user, or the name is another one's. The first of these counts. -/
def updateFault? (store : UserStore) (username name : String) : Option ControllerError :=
  if Text.trim name = "" then some (.validation "username must not be empty")
  else if username ∉ store.users then some (.notFound s!"user {username}")
  else if name ≠ username ∧ name ∈ store.users then
    some (.validation s!"username `{name}` is already taken")
  else none

section Faults

variable {store : UserStore} {username name : String}

theorem updateFault?_of_blank (blank : Text.trim name = "") :
    store.updateFault? username name = some (.validation "username must not be empty") :=
  if_pos blank

theorem updateFault?_of_absent (unblank : Text.trim name ≠ "") (absent : username ∉ store.users) :
    store.updateFault? username name = some (noUser username) := by
  rw [updateFault?, if_neg unblank, if_pos absent]
  rfl

theorem updateFault?_of_held (unblank : Text.trim name ≠ "") (held : username ∈ store.users) :
    store.updateFault? username name =
      if name ≠ username ∧ name ∈ store.users then
        some (.validation s!"username `{name}` is already taken")
      else none := by
  rw [updateFault?, if_neg unblank, if_neg (not_not.mpr held)]

theorem of_updateFault?_eq_none (sound : store.updateFault? username name = none) :
    username ∈ store.users ∧ (name ≠ username → name ∉ store.users) := by
  unfold updateFault? at sound
  split at sound
  · cases sound
  · split at sound
    · cases sound
    · next held =>
      split at sound
      · cases sound
      · next free => exact ⟨not_not.mp held, fun other taken => free ⟨other, taken⟩⟩

end Faults

/-- An update fails with its fault and changes nothing, or else the new user stands under its name
in the place of the old one. -/
theorem outcome_update_eq (username : String) (user : User) (store : UserStore) :
    outcome (update username user) store =
      let kept := user.keeping username
      match store.updateFault? username kept.username with
      | some error => (.error error, store)
      | none => (.ok ⟨⟩, ⟨(store.users.erase username).insert kept.username kept⟩) := by
  rw [outcome_update]
  generalize user.keeping username = kept
  dsimp only
  by_cases named : kept.Named
  · rw [if_pos named]
    cases held : store.users[username]? with
    | none =>
      have absent : username ∉ store.users := by
        rw [Std.ExtTreeMap.mem_iff_isSome_getElem?, held]
        exact Bool.false_ne_true
      rw [updateFault?_of_absent named absent]
    | some old =>
      have member : username ∈ store.users := by
        rw [Std.ExtTreeMap.mem_iff_isSome_getElem?, held]
        rfl
      rw [updateFault?_of_held named member]
      dsimp only
      by_cases own : kept.username = username
      · rw [if_pos own, if_neg fun taken => taken.1 own, own, insert_eq_insert_erase]
      · rw [if_neg own, outcome_rename, erase_insert_of_ne own]
        by_cases taken : kept.username ∈ store.users
        · rw [if_pos (Std.ExtTreeMap.contains_iff_mem.mpr taken), if_pos ⟨own, taken⟩]
        · rw [if_neg (mt Std.ExtTreeMap.contains_iff_mem.mp taken), if_neg fun both => taken both.2]
  · rw [if_neg named, updateFault?_of_blank (not_not.mp named)]

end UserStore

namespace Store

open Petstore.Action

theorem outcome_updateUser (session : String) (store : Store) (username : String) (user : User) :
    (answer session (.updateUser username user)).outcome store =
      let kept := user.keeping username
      match store.users.updateFault? username kept.username with
      | some error => (.error error, store)
      | none => (.ok ⟨⟩,
          { store with
            users := ⟨(store.users.users.erase username).insert kept.username kept⟩ }) := by
  rw [answer, outcome_onUsers, UserStore.outcome_update_eq]
  dsimp only
  cases store.users.updateFault? username (user.keeping username).username with
  | none => rfl
  | some error => rfl

theorem outcome_getUserByName (session : String) (store : Store) (username : String) :
    (answer session (.getUserByName username)).outcome store =
      (match store.users.users[username]? with
        | some user => .ok user
        | none => .error (.notFound s!"user {username}"), store) := by
  rw [answer, outcome_onUsers, UserStore.outcome_find]
  rfl

/-- **Updating a user.** The new user has its own username, or that of the path where it has none.
An update fails if that name is blank, else if no user has the name of the path, else if the new
name is another user's, and then it changes nothing. Otherwise the user stands under the new name in
the place of the old one: the other users are as before, there are as many, the old name is given up
if the new one is another, and the new user is what is found under its name. A request for the user
comes to the same. -/
theorem update_user_exact (session : String) (store : Store) (username : String) (user : User) :
    let users := store.users.users
    let name := if user.username = "" then username else user.username
    let kept : User := { user with username := name }
    let left : Store := { store with users := ⟨(users.erase username).insert name kept⟩ }
    let answered := (answer session (.updateUser username user)).outcome store
    (∀ error, store.users.updateFault? username name = some error →
      answered = (.error error, store)) ∧
    (store.users.updateFault? username name = none → answered = (.ok ⟨⟩, left) ∧
      (∀ other, other ≠ username → other ≠ name →
        left.users.users[other]? = users[other]?) ∧
      left.users.users.size = users.size ∧
      (name ≠ username → (answer session (.getUserByName username)).outcome left =
        (.error (.notFound s!"user {username}"), left)) ∧
      (answer session (.getUserByName name)).outcome left = (.ok kept, left)) ∧
    ∀ (request : Request) (segment : String), request.method = .put →
      request.path = "/user/" ++ segment → segment ≠ "" → Spells segment username →
      User.reader.document request.body = .ok user →
      serviceRouter.dispatch (controllers session) request store =
        ((answered.1.mapError .controller).map fun _ => .empty, answered.2) := by
  have updated := outcome_updateUser session store username user
  rw [User.keeping_eq] at updated
  intro users name kept left answered
  refine ⟨fun error fault => ?_, fun sound => ⟨?_, ?_, ?_, ?_, ?_⟩, ?_⟩
  · refine updated.trans ?_
    dsimp only
    rw [fault]
  · refine updated.trans ?_
    dsimp only
    rw [sound]
  · exact fun other notOld notNew => getElem?_insert_erase_of_ne notOld notNew
  · obtain ⟨held, free⟩ := UserStore.of_updateFault?_eq_none sound
    exact size_insert_erase held free
  · intro renamed
    have gone : left.users.users[username]? = none := by
      rw [getElem?_insert_of_ne _ renamed, Std.ExtTreeMap.getElem?_erase_self]
    rw [outcome_getUserByName, gone]
  · have found : left.users.users[name]? = some kept := Std.ExtTreeMap.getElem?_insert_self
    rw [outcome_getUserByName, found]
  · intro request segment method path nonempty spells body
    exact dispatch_done (call_put_user method path spells nonempty body) session store

/-- A request gives a user another name: it is found under the new one only, and the user beside it
stays. -/
theorem update_user_exact_renamed :
    let bob : User := { username := "bob" }
    let eve : User := { username := "eve", password := some "secret" }
    let store : Store :=
      { users := ⟨((∅ : Std.ExtTreeMap String User).insert "ann" { username := "ann" }).insert
          "bob" bob⟩ }
    let request : Request := { method := .put, path := "/user/ann", body := eve.toJson.bytes }
    let answered := serviceRouter.dispatch (controllers "session") request store
    answered.1 = .ok .empty ∧ answered.2.users.users["bob"]? = some bob ∧
      answered.2.users.users.size = 2 ∧
      ((answer "session" (.getUserByName "eve")).outcome answered.2).1 = .ok eve ∧
      ((answer "session" (.getUserByName "ann")).outcome answered.2).1 =
        .error (.notFound "user ann") := by
  intro bob eve store request answered
  have read : User.reader.document
      (User.toJson { username := "eve", password := some "secret" }).bytes = .ok eve :=
    toOption_eq_some_iff.mp (by decide +kernel)
  obtain ⟨-, sound, replied⟩ := update_user_exact "session" store "ann" eve
  obtain ⟨done, others, size, gone, found⟩ := sound (by decide)
  have reply : answered = _ := replied request "ann" rfl rfl (by decide) ⟨by decide, rfl⟩ read
  rw [done] at reply
  rw [reply]
  exact ⟨rfl, (others "bob" (by decide) (by decide)).trans (by decide), size.trans (by decide),
    congrArg Prod.fst found, congrArg Prod.fst (gone (by decide))⟩

/-- That there is no such user counts before the name that is taken. -/
example :
    let store : UserStore := ⟨(∅ : Std.ExtTreeMap String User).insert "ann" { username := "ann" }⟩
    store.updateFault? "bob" "ann" = some (.notFound "user bob") ∧
      store.updateFault? "ann" "bob" = none := by decide

end Store

end Petstore
