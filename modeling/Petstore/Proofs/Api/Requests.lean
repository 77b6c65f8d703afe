import Petstore.Proofs.Api.Binding
import Petstore.Proofs.Text.Percent

/-!
# Requests for pets and orders

Which requests come to a call that writes one pet or removes one order, and which call the requests
for pets, orders and lists of users come to. Pets and orders are addressed by their ids, and an id
may be written in more than one way (`Denotes`).
-/

namespace Petstore

/-! ## Ids in paths -/

/-- The segment of a path is a text of the id, once it is decoded. -/
def Denotes (segment : String) (id : Int64) : Prop :=
  '/' ∉ segment.toList ∧ (Text.readInt? .int64 (Percent.decode segment)).map Int64.ofInt = some id

instance (segment : String) (id : Int64) : Decidable (Denotes segment id) :=
  inferInstanceAs (Decidable ('/' ∉ segment.toList ∧
    (Text.readInt? .int64 (Percent.decode segment)).map Int64.ofInt = some id))

theorem Denotes.ne {segment other : String} {id : Int64} (denotes : Denotes segment id)
    (unreadable : Text.readInt? .int64 (Percent.decode other) = none) : segment ≠ other := by
  rintro rfl
  have read := denotes.2
  rw [unreadable] at read
  cases read

/-- An id is denoted by its decimal text. -/
theorem denotes_toString (id : Int64) : Denotes (toString id.toInt) id := by
  have plain {c : Char} (member : c ∈ (toString id.toInt).toList) : c ≠ '%' ∧ c ≠ '/' := by
    rcases Text.isDigit_or_minus_of_mem_toString member with digit | rfl
    · constructor
      · rintro rfl
        exact absurd digit (by decide)
      · rintro rfl
        exact absurd digit (by decide)
    · decide
  refine ⟨fun slash => (plain slash).2 rfl, identifies_iff.mp ?_⟩
  rw [Identifies, Percent.decode_of_not_mem fun percent => (plain percent).1 rfl]
  exact Text.decimal_toString id.toInt

/-! ## Requests for one pet or one order -/

theorem fill_pet (values : String → String) :
    PathTemplate.fill ⟨[.literal "pet", .param "petId"]⟩ values = "/pet/" ++ values "petId" := by
  rw [← String.toList_inj]
  simp [PathTemplate.fill, Text.join, Segment.fill]

theorem fill_order (values : String → String) :
    PathTemplate.fill ⟨[.literal "store", .literal "order", .param "orderId"]⟩ values =
      "/store/order/" ++ values "orderId" := by
  rw [← String.toList_inj]
  simp [PathTemplate.fill, Text.join, Segment.fill]

/-- The request writes the pet of an id: it brings a pet of that id, or goes to the path of the pet
with a form or to delete it. -/
inductive Request.WritesPet (request : Request) (id : Int64) : Prop where
  | bring {pet : Pet} (method : request.method = .post ∨ request.method = .put)
      (path : request.path = "/pet") (body : Pet.reader.document request.body = .ok pet)
      (own : pet.id = some id)
  | address {segment : String} (method : request.method = .post ∨ request.method = .delete)
      (path : request.path = "/pet/" ++ segment) (denotes : Denotes segment id)

/-- The request deletes the order of an id. -/
structure Request.RemovesOrder (request : Request) (id : Int64) : Prop where
  method : request.method = .delete
  path : ∃ segment, request.path = "/store/order/" ++ segment ∧ Denotes segment id

/-- The capability writes the pet of an id. -/
def Capability.WritesPet {kind : ResultKind} (id : Int64) : Capability kind → Prop
  | addPet pet => pet.id = some id
  | updatePet pet => pet.id = some id
  | updatePetWithForm petId _ _ => petId = id
  | deletePet petId _ => petId = id
  | _ => False

/-- The capability removes the order of an id. -/
def Capability.RemovesOrder {kind : ResultKind} (id : Int64) : Capability kind → Prop
  | deleteOrder orderId => orderId = id
  | _ => False

section Requests

variable {request : Request} {call : Call} {id : Int64}

/-- A segment that identifies an id denotes it, since it fits its template. -/
theorem denotes_of_identifies (operation : Operation) {name : String} {values : String → String}
    (fits : operation.template.Fits values) (member : name ∈ operation.template.paramNames)
    (identifies : Identifies (values name) id) : Denotes (values name) id :=
  ⟨(fits name member).2, identifies_iff.mp identifies⟩

/-- Only a request that writes a pet comes to a call that does. -/
theorem writesPet_of_call (called : serviceRouter.call request = .ok call)
    (writes : call.capability.WritesPet id) : request.WritesPet id := by
  obtain ⟨values, path, fits, method, takes⟩ := takes_of_call called
  obtain ⟨capability⟩ := call
  cases capability with
  | addPet pet => exact .bring (Or.inl (method_eq_of_ne_get method (by decide))) path takes writes
  | updatePet pet =>
    exact .bring (Or.inr (method_eq_of_ne_get method (by decide))) path takes writes
  | updatePetWithForm petId name status =>
    cases writes
    exact .address (Or.inl (method_eq_of_ne_get method (by decide))) (path.trans (fill_pet values))
      (denotes_of_identifies .updatePetWithForm fits (by decide) takes.1)
  | deletePet petId apiKey =>
    cases writes
    exact .address (Or.inr (method_eq_of_ne_get method (by decide))) (path.trans (fill_pet values))
      (denotes_of_identifies .deletePet fits (by decide) takes.1)
  | _ => exact writes.elim

/-- Only a request that deletes an order comes to a call that does. -/
theorem removesOrder_of_call (called : serviceRouter.call request = .ok call)
    (removes : call.capability.RemovesOrder id) : request.RemovesOrder id := by
  obtain ⟨values, path, fits, method, takes⟩ := takes_of_call called
  obtain ⟨capability⟩ := call
  cases capability with
  | deleteOrder orderId =>
    cases removes
    exact ⟨method_eq_of_ne_get method (by decide), _, path.trans (fill_order values),
      denotes_of_identifies .deleteOrder fits (by decide) takes⟩
  | _ => exact removes.elim

/-- Only a request to place an order comes to a call that places one. -/
theorem of_call_placeOrder {order : Order}
    (called : serviceRouter.call request = .ok ⟨.placeOrder order⟩) :
    request.method = .post ∧ request.path = "/store/order" := by
  obtain ⟨_, path, _, method, _⟩ := takes_of_call called
  exact ⟨method_eq_of_ne_get method (by decide), path⟩

/-- A request for an operation that takes nothing but a body comes to a call exactly if the body can
be read. -/
theorem call_of_body {α : Type} {reader : Json.Reader α} {make : α → Call} (operation : Operation)
    (plain : operation.template.paramNames = [])
    (binds : ∀ invocation, operation.bind invocation = do return make (← invocation.json reader))
    (method : request.method = operation.method) (path : request.path = operation.template.text) :
    serviceRouter.call request = .ok call ↔
      ∃ value, reader.document request.body = .ok value ∧ call = make value := by
  have resolved := Operation.resolve_text plain
  rw [← method, ← path] at resolved
  rw [call_of_resolve resolved, mapError_eq_ok_iff, binds]
  constructor
  · intro bound
    obtain ⟨value, read, bound⟩ := bind_eq_ok bound
    exact ⟨value, Invocation.json_eq_ok_iff.mp read, (Except.ok.inj bound).symm⟩
  · rintro ⟨value, read, rfl⟩
    have read : (Invocation.ofRequest ∅ request).json reader = .ok value :=
      Invocation.json_eq_ok_iff.mpr read
    rw [read]
    rfl

theorem call_post_pet (method : request.method = .post) (path : request.path = "/pet") :
    serviceRouter.call request = .ok call ↔
      ∃ pet, Pet.reader.document request.body = .ok pet ∧ call = ⟨.addPet pet⟩ :=
  call_of_body .addPet rfl (fun _ => rfl) method path

theorem call_put_pet (method : request.method = .put) (path : request.path = "/pet") :
    serviceRouter.call request = .ok call ↔
      ∃ pet, Pet.reader.document request.body = .ok pet ∧ call = ⟨.updatePet pet⟩ :=
  call_of_body .updatePet rfl (fun _ => rfl) method path

theorem call_post_order (method : request.method = .post) (path : request.path = "/store/order") :
    serviceRouter.call request = .ok call ↔
      ∃ order, Order.reader.document request.body = .ok order ∧ call = ⟨.placeOrder order⟩ :=
  call_of_body .placeOrder rfl (fun _ => rfl) method path

theorem call_post_users_array (method : request.method = .post)
    (path : request.path = "/user/createWithArray") :
    serviceRouter.call request = .ok call ↔
      ∃ users, (Json.Reader.list User.reader).document request.body = .ok users ∧
        call = ⟨.createUsersWithArrayInput users⟩ :=
  call_of_body .createUsersWithArrayInput rfl (fun _ => rfl) method path

theorem call_post_users_list (method : request.method = .post)
    (path : request.path = "/user/createWithList") :
    serviceRouter.call request = .ok call ↔
      ∃ users, (Json.Reader.list User.reader).document request.body = .ok users ∧
        call = ⟨.createUsersWithListInput users⟩ :=
  call_of_body .createUsersWithListInput rfl (fun _ => rfl) method path

/-- A pet that comes without an id is not written in the place of another one. -/
theorem not_writesPet_of_no_id {pet : Pet} (path : request.path = "/pet")
    (body : Pet.reader.document request.body = .ok pet) (unnumbered : pet.id = none) :
    ¬ request.WritesPet id := by
  rintro (⟨_, _, other, own⟩ | ⟨_, longer, _⟩)
  · rw [Except.ok.inj (body.symm.trans other), own] at unnumbered
    cases unnumbered
  · rw [path] at longer
    have lengths := congrArg String.length longer
    rw [String.length_append] at lengths
    have short : "/pet".length < "/pet/".length := by decide
    omega

/-- A segment that denotes an id is no other text, so its path is that of one pet. -/
theorem call_getPetById {segment : String} (method : request.method = .get)
    (path : request.path = "/pet/" ++ segment) (denotes : Denotes segment id) :
    serviceRouter.call request = .ok ⟨.getPetById id⟩ := by
  let values : String → String := fun _ => segment
  have fits : Operation.getPetById.template.Fits values :=
    fun _ _ => ⟨denotes.ne (by decide), denotes.1⟩
  have takes : (Capability.getPetById id).Takes values request := identifies_iff.mpr denotes.2
  have notStatus : "findByStatus".toList ≠ segment.toList :=
    mt String.toList_inj.mp (denotes.ne (by decide)).symm
  have notTags : "findByTags".toList ≠ segment.toList :=
    mt String.toList_inj.mp (denotes.ne (by decide)).symm
  have only : ∀ other : Operation, other.method = .get →
      List.Forall₂ Segment.Accepts other.segments ["pet".toList, segment.toList] →
        other = .getPetById := by
    intro other own accepted
    cases other with
    | getPetById => rfl
    | findPetsByStatus | findPetsByTags | getInventory | getOrderById | loginUser | logoutUser
    | getUserByName => simp_all [Operation.segments, Segment.Accepts]
    | _ => exact absurd own (by decide)
  exact call_of_takes fits only method (path.trans (fill_pet values).symm) takes

/-- A form for a pet comes to its call with the fields that the form or the query gives. -/
theorem call_updatePetWithForm {segment : String} (method : request.method = .post)
    (path : request.path = "/pet/" ++ segment) (denotes : Denotes segment id)
    {name status : Option String}
    (forName : request.field? "name" = name) (forStatus : request.field? "status" = status) :
    serviceRouter.call request = .ok ⟨.updatePetWithForm id name status⟩ := by
  let values : String → String := fun _ => segment
  have fits : Operation.updatePetWithForm.template.Fits values :=
    fun _ _ => ⟨denotes.ne (by decide), denotes.1⟩
  have takes : (Capability.updatePetWithForm id name status).Takes values request :=
    ⟨identifies_iff.mpr denotes.2, forName, forStatus⟩
  have only : ∀ other : Operation, other.method = .post →
      List.Forall₂ Segment.Accepts other.segments ["pet".toList, segment.toList] →
        other = .updatePetWithForm := by
    intro other own accepted
    cases other with
    | updatePetWithForm => rfl
    | addPet | uploadFile | placeOrder | createUser | createUsersWithArrayInput
    | createUsersWithListInput => simp_all [Operation.segments, Segment.Accepts]
    | _ => exact absurd own (by decide)
  exact call_of_takes fits only method (path.trans (fill_pet values).symm) takes

theorem call_getOrderById {segment : String} (method : request.method = .get)
    (path : request.path = "/store/order/" ++ segment) (denotes : Denotes segment id) :
    serviceRouter.call request = .ok ⟨.getOrderById id⟩ := by
  let values : String → String := fun _ => segment
  have fits : Operation.getOrderById.template.Fits values :=
    fun _ _ => ⟨denotes.ne (by decide), denotes.1⟩
  have takes : (Capability.getOrderById id).Takes values request := identifies_iff.mpr denotes.2
  have only : ∀ other : Operation, other.method = .get →
      List.Forall₂ Segment.Accepts other.segments
        ["store".toList, "order".toList, segment.toList] → other = .getOrderById := by
    intro other own accepted
    cases other with
    | getOrderById => rfl
    | findPetsByStatus | findPetsByTags | getPetById | getInventory | loginUser | logoutUser
    | getUserByName => simp_all [Operation.segments]
    | _ => exact absurd own (by decide)
  exact call_of_takes fits only method (path.trans (fill_order values).symm) takes

end Requests

end Petstore
