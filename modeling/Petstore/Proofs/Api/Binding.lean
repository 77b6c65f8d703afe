import Petstore.Api.Recording
import Petstore.Proofs.Api.Calls
import Petstore.Proofs.Api.Inputs
import Petstore.Proofs.Api.Replies

/-!
# One call per request

A request makes the call of the operation that it resolves to, with the inputs that it brings, or it
makes no call at all (`dispatch_calls`). What a call takes from a request (`Capability.Takes`), and
when a request lacks something that its operation needs (`Operation.Lacks`), is said of the request
as it came, without regard to how inputs are bound; `Operation.bind_eq_ok_iff_takes` says that
binding comes to the same.
-/

namespace Petstore

/-! ## What calls take -/

/-- The inputs of the capability are those of the request, with the given segments for the
parameters of its path: ids and usernames are what the segments stand for, pets, orders and users
are read from the body, and the rest comes from the query, a form, the first header of a name or the
bytes of the body. -/
def Capability.Takes {kind : ResultKind} (values : String → String) (request : Request) :
    Capability kind → Prop
  | addPet pet => Pet.reader.document request.body = .ok pet
  | updatePet pet => Pet.reader.document request.body = .ok pet
  | findPetsByStatus statuses =>
    Urlencoded.values "status" request.asked = statuses ∧ statuses ≠ []
  | findPetsByTags tags => Urlencoded.values "tags" request.asked = tags ∧ tags ≠ []
  | getPetById petId => Identifies (values "petId") petId
  | updatePetWithForm petId name status =>
    Identifies (values "petId") petId ∧ request.field? "name" = name ∧
      request.field? "status" = status
  | deletePet petId apiKey =>
    Identifies (values "petId") petId ∧ request.HasHeader "api_key" apiKey
  | uploadFile petId additionalMetadata file =>
    Identifies (values "petId") petId ∧
      request.asked.lookup "additionalMetadata" = additionalMetadata ∧ request.body = file
  | getInventory => True
  | placeOrder order => Order.reader.document request.body = .ok order
  | getOrderById orderId => Identifies (values "orderId") orderId
  | deleteOrder orderId => Identifies (values "orderId") orderId
  | createUser user => User.reader.document request.body = .ok user
  | createUsersWithArrayInput users =>
    (Json.Reader.list User.reader).document request.body = .ok users
  | createUsersWithListInput users =>
    (Json.Reader.list User.reader).document request.body = .ok users
  | loginUser username password =>
    request.asked.lookup "username" = some username ∧
      request.asked.lookup "password" = some password
  | logoutUser => True
  | getUserByName username => Percent.decode (values "username") = username
  | updateUser username user =>
    Percent.decode (values "username") = username ∧ User.reader.document request.body = .ok user
  | deleteUser username => Percent.decode (values "username") = username

/-- Some input that the operation needs is missing or cannot be read: an id that is no 64-bit
integer, a body of another type, no status or no tag at all, no username or no password. -/
def Operation.Lacks (values : String → String) (request : Request) : Operation → Prop
  | updatePet | addPet => request.Unreadable Pet.reader
  | findPetsByStatus => Urlencoded.values "status" request.asked = []
  | findPetsByTags => Urlencoded.values "tags" request.asked = []
  | getPetById | updatePetWithForm | deletePet | uploadFile =>
    ¬ ∃ petId, Identifies (values "petId") petId
  | placeOrder => request.Unreadable Order.reader
  | getOrderById | deleteOrder => ¬ ∃ orderId, Identifies (values "orderId") orderId
  | createUser | updateUser => request.Unreadable User.reader
  | createUsersWithArrayInput | createUsersWithListInput =>
    request.Unreadable (Json.Reader.list User.reader)
  | loginUser =>
    request.asked.lookup "username" = none ∨ request.asked.lookup "password" = none
  | getInventory | logoutUser | getUserByName | deleteUser => False

/-! ## Whole calls -/

theorem bind_eq_ok_iff {ε β γ : Type} {first : Except ε β} {next : β → Except ε γ} {result : γ} :
    first >>= next = .ok result ↔ ∃ value, first = .ok value ∧ next value = .ok result := by
  constructor
  · exact bind_eq_ok
  · rintro ⟨value, rfl, success⟩
    exact success

namespace Operation

variable {operation : Operation} {values : String → String} {request : Request} {kind : ResultKind}

open Invocation

/-- A capability is bound by its operation exactly if it takes the inputs of the request. -/
theorem bind_operation_eq_ok_iff {capability : Capability kind} :
    capability.operation.bind
        (.ofRequest (capability.operation.template.captures values) request) = .ok ⟨capability⟩ ↔
      capability.Takes values request := by
  unfold Capability.operation Capability.Takes
  cases capability with
  | getInventory | logoutUser => simp [bind, pure, Except.pure]
  | addPet | updatePet | placeOrder | createUser | createUsersWithArrayInput
  | createUsersWithListInput =>
    simp [bind, bind_eq_ok_iff, json_eq_ok_iff, body_ofRequest, pure, Except.pure]
  | findPetsByStatus | findPetsByTags =>
    simp [bind, bind_eq_ok_iff, requireQueryList_eq_ok_iff, queryList_ofRequest, pure, Except.pure]
  | getPetById | getOrderById | deleteOrder =>
    simp (disch := decide) [bind, bind_eq_ok_iff, int64Param_eq_ok_iff, pure, Except.pure]
  | updatePetWithForm =>
    simp (disch := decide) [bind, bind_eq_ok_iff, int64Param_eq_ok_iff, formField?_ofRequest, pure,
      Except.pure]
  | deletePet =>
    have lower : "api_key".toLower = "api_key" := by decide +kernel
    simp (disch := decide) [bind, bind_eq_ok_iff, int64Param_eq_ok_iff,
      header?_ofRequest_iff _ request lower, pure, Except.pure]
  | uploadFile =>
    simp (disch := decide) [bind, bind_eq_ok_iff, int64Param_eq_ok_iff, queryValue?_ofRequest,
      body_ofRequest, pure, Except.pure]
  | loginUser =>
    simp [bind, bind_eq_ok_iff, requireQuery_eq_ok_iff, queryValue?_ofRequest, pure, Except.pure]
  | getUserByName | deleteUser =>
    simp (disch := decide) [bind, bind_eq_ok_iff, textParam_eq_ok_iff, pure, Except.pure]
  | updateUser =>
    simp (disch := decide) [bind, bind_eq_ok_iff, textParam_eq_ok_iff, json_eq_ok_iff,
      body_ofRequest, pure, Except.pure, and_comm]

/-- **What is bound.** The call is one of the operation, and takes the inputs of the request. -/
theorem bind_eq_ok_iff_takes {call : Call} :
    operation.bind (.ofRequest (operation.template.captures values) request) = .ok call ↔
      call.capability.operation = operation ∧ call.capability.Takes values request := by
  constructor
  · intro bound
    obtain rfl := operation_of_bind bound
    exact ⟨rfl, bind_operation_eq_ok_iff.mp bound⟩
  · rintro ⟨rfl, takes⟩
    exact bind_operation_eq_ok_iff.mpr takes

/-- The inputs of a request determine the call. -/
theorem call_unique {call other : Call} (own : call.capability.operation = operation)
    (takes : call.capability.Takes values request) (own' : other.capability.operation = operation)
    (takes' : other.capability.Takes values request) : other = call :=
  Except.ok.inj ((bind_eq_ok_iff_takes.mpr ⟨own', takes'⟩).symm.trans
    (bind_eq_ok_iff_takes.mpr ⟨own, takes⟩))

/-- What a capability takes from a request is there. -/
theorem not_lacks_of_takes {capability : Capability kind}
    (takes : capability.Takes values request) : ¬ capability.operation.Lacks values request := by
  unfold Capability.operation Lacks
  unfold Capability.Takes at takes
  cases capability with
  | getInventory | logoutUser | getUserByName | deleteUser => exact id
  | addPet | updatePet | placeOrder | createUser | createUsersWithArrayInput
  | createUsersWithListInput => exact fun unreadable => unreadable _ takes
  | findPetsByStatus | findPetsByTags => exact fun empty => takes.2 (takes.1.symm.trans empty)
  | getPetById | getOrderById | deleteOrder => exact fun missing => missing ⟨_, takes⟩
  | updatePetWithForm | deletePet | uploadFile => exact fun missing => missing ⟨_, takes.1⟩
  | loginUser => simp [takes.1, takes.2]
  | updateUser => exact fun unreadable => unreadable _ takes.2

/-- Where nothing is lacking, a call takes it all. -/
theorem exists_takes_of_not_lacks (complete : ¬ operation.Lacks values request) :
    ∃ call : Call, call.capability.operation = operation ∧
      call.capability.Takes values request := by
  unfold Lacks at complete
  cases operation with
  | getInventory => exact ⟨⟨.getInventory⟩, rfl, trivial⟩
  | logoutUser => exact ⟨⟨.logoutUser⟩, rfl, trivial⟩
  | addPet =>
    obtain ⟨pet, read⟩ := not_forall_not.mp complete
    exact ⟨⟨.addPet pet⟩, rfl, read⟩
  | updatePet =>
    obtain ⟨pet, read⟩ := not_forall_not.mp complete
    exact ⟨⟨.updatePet pet⟩, rfl, read⟩
  | placeOrder =>
    obtain ⟨order, read⟩ := not_forall_not.mp complete
    exact ⟨⟨.placeOrder order⟩, rfl, read⟩
  | createUser =>
    obtain ⟨user, read⟩ := not_forall_not.mp complete
    exact ⟨⟨.createUser user⟩, rfl, read⟩
  | createUsersWithArrayInput =>
    obtain ⟨users, read⟩ := not_forall_not.mp complete
    exact ⟨⟨.createUsersWithArrayInput users⟩, rfl, read⟩
  | createUsersWithListInput =>
    obtain ⟨users, read⟩ := not_forall_not.mp complete
    exact ⟨⟨.createUsersWithListInput users⟩, rfl, read⟩
  | findPetsByStatus =>
    exact ⟨⟨.findPetsByStatus (Urlencoded.values "status" request.asked)⟩, rfl, rfl, complete⟩
  | findPetsByTags =>
    exact ⟨⟨.findPetsByTags (Urlencoded.values "tags" request.asked)⟩, rfl, rfl, complete⟩
  | getPetById =>
    obtain ⟨petId, identified⟩ := not_not.mp complete
    exact ⟨⟨.getPetById petId⟩, rfl, identified⟩
  | updatePetWithForm =>
    obtain ⟨petId, identified⟩ := not_not.mp complete
    exact ⟨⟨.updatePetWithForm petId (request.field? "name") (request.field? "status")⟩, rfl,
      identified, rfl, rfl⟩
  | deletePet =>
    obtain ⟨petId, identified⟩ := not_not.mp complete
    obtain ⟨apiKey, given⟩ := request.exists_hasHeader "api_key"
    exact ⟨⟨.deletePet petId apiKey⟩, rfl, identified, given⟩
  | uploadFile =>
    obtain ⟨petId, identified⟩ := not_not.mp complete
    exact ⟨⟨.uploadFile petId (request.asked.lookup "additionalMetadata") request.body⟩, rfl,
      identified, rfl, rfl⟩
  | getOrderById =>
    obtain ⟨orderId, identified⟩ := not_not.mp complete
    exact ⟨⟨.getOrderById orderId⟩, rfl, identified⟩
  | deleteOrder =>
    obtain ⟨orderId, identified⟩ := not_not.mp complete
    exact ⟨⟨.deleteOrder orderId⟩, rfl, identified⟩
  | loginUser =>
    obtain ⟨noUsername, noPassword⟩ := not_or.mp complete
    obtain ⟨username, given⟩ := Option.ne_none_iff_exists'.mp noUsername
    obtain ⟨password, given'⟩ := Option.ne_none_iff_exists'.mp noPassword
    exact ⟨⟨.loginUser username password⟩, rfl, given, given'⟩
  | getUserByName => exact ⟨⟨.getUserByName (Percent.decode (values "username"))⟩, rfl, rfl⟩
  | deleteUser => exact ⟨⟨.deleteUser (Percent.decode (values "username"))⟩, rfl, rfl⟩
  | updateUser =>
    obtain ⟨user, read⟩ := not_forall_not.mp complete
    exact ⟨⟨.updateUser (Percent.decode (values "username")) user⟩, rfl, rfl, read⟩

/-- An operation refuses to bind what lacks something. -/
theorem bind_of_lacks (lacks : operation.Lacks values request) :
    ∃ reason,
      operation.bind (.ofRequest (operation.template.captures values) request) = .error reason := by
  cases bound : operation.bind (.ofRequest (operation.template.captures values) request) with
  | error reason => exact ⟨reason, rfl⟩
  | ok call =>
    obtain ⟨rfl, takes⟩ := bind_eq_ok_iff_takes.mp bound
    exact absurd lacks (not_lacks_of_takes takes)

end Operation

/-! ## Requests -/

section Calls

variable {request : Request} {call : Call}

/-- **What a call takes from its request.** The path fills the template of the operation, the method
is the operation's own or `HEAD` in the place of `GET`, and the call takes the inputs. -/
theorem takes_of_call (called : serviceRouter.call request = .ok call) :
    let operation := call.capability.operation
    ∃ values, request.path = operation.template.fill values ∧ operation.template.Fits values ∧
      (operation.method = request.method ∨ request.method = .head ∧ operation.method = .get) ∧
      call.capability.Takes values request := by
  obtain ⟨values, path, fits, method, bound⟩ := call_eq_ok called
  exact ⟨values, path, fits, method, (Operation.bind_eq_ok_iff_takes.mp bound).2⟩

/-- A request comes to a call that takes its inputs if the path matches no other operation of the
method. -/
theorem call_of_takes {values : String → String}
    (fits : call.capability.operation.template.Fits values)
    (only : ∀ other : Operation, other.method = call.capability.operation.method →
      List.Forall₂ Segment.Accepts other.segments
        (call.capability.operation.segments.map fun segment => (segment.fill values).toList) →
      other = call.capability.operation)
    (own : request.method = call.capability.operation.method)
    (filled : request.path = call.capability.operation.template.fill values)
    (takes : call.capability.Takes values request) :
    serviceRouter.call request = .ok call := by
  rw [call_of_only fits only own filled, Operation.bind_eq_ok_iff_takes.mpr ⟨rfl, takes⟩]
  rfl

end Calls

/-- Controllers that also note every call that is made to them, in order. -/
def Controllers.noting {σ : Type} (controllers : Controllers σ) : Controllers (List Call × σ) where
  run capability noted :=
    ((controllers.run capability noted.2).1, noted.1 ++ [⟨capability⟩],
      (controllers.run capability noted.2).2)

section Requests

variable {σ : Type} {controllers : Controllers σ} {request : Request}

theorem Call.perform_noting (call : Call) (controllers : Controllers σ) (calls : List Call)
    (state : σ) :
    call.perform controllers.noting (calls, state) =
      ((call.perform controllers state).1, calls ++ [call],
        (call.perform controllers state).2) := by
  have run : controllers.noting.run call.capability (calls, state) =
      ((controllers.run call.capability state).1, calls ++ [call],
        (controllers.run call.capability state).2) := rfl
  rw [perform_eq_run, perform_eq_run, run]

namespace Router

/-- Noting the calls changes nothing else, and there is one of them at most. -/
theorem dispatch_noting (router : Router Operation) (controllers : Controllers σ)
    (request : Request) (state : σ) :
    let answered := router.dispatch controllers.noting request ([], state)
    (answered.1, answered.2.2) = router.dispatch controllers request state ∧
      answered.2.1.length ≤ 1 := by
  cases called : router.call request with
  | error reason =>
    rw [dispatch_of_call_error called, dispatch_of_call_error called]
    exact ⟨rfl, Nat.zero_le 1⟩
  | ok call =>
    rw [dispatch_of_call_ok called, dispatch_of_call_ok called, Call.perform_noting]
    exact ⟨rfl, Nat.le_refl 1⟩

/-- A request that lacks an input of its operation is refused before any call. -/
theorem call_of_lacks {operation : Operation} {values : String → String}
    (resolved : serviceRouter.resolve request.method request.path =
      .matched operation.route (operation.template.captures values))
    (lacks : operation.Lacks values request) :
    ∃ reason, serviceRouter.call request = .error (.invalidInput reason) := by
  obtain ⟨reason, unbound⟩ := Operation.bind_of_lacks lacks
  refine ⟨reason, ?_⟩
  rw [call_of_resolve resolved, unbound]
  rfl

/-- A request with every input of its operation comes to a call of it that takes them. -/
theorem call_of_not_lacks {operation : Operation} {values : String → String}
    (resolved : serviceRouter.resolve request.method request.path =
      .matched operation.route (operation.template.captures values))
    (complete : ¬ operation.Lacks values request) :
    ∃ call : Call, serviceRouter.call request = .ok call ∧
      call.capability.operation = operation ∧ call.capability.Takes values request := by
  obtain ⟨call, own, takes⟩ := Operation.exists_takes_of_not_lacks complete
  refine ⟨call, ?_, own, takes⟩
  rw [call_of_resolve resolved, Operation.bind_eq_ok_iff_takes.mpr ⟨own, takes⟩]
  rfl

/-- **One call per request, and only after binding.** Over any controllers, a request makes one call
at most. It makes none, and leaves their state alone, if it comes to no operation or lacks an input
of the one that it comes to. Otherwise it makes one call, the only one of that operation that takes
the inputs of the request: ids and usernames from the segments of its path, and the rest from its
query, its headers and its body. A failure of that call is passed on as it is, and its result is
answered with the JSON of the value, or with nothing to say where there is no value. -/
theorem dispatch_calls (controllers : Controllers σ) (request : Request) (state : σ) :
    let answered := serviceRouter.dispatch controllers.noting request ([], state)
    (answered.1, answered.2.2) = serviceRouter.dispatch controllers request state ∧
      answered.2.1.length ≤ 1 ∧
      match serviceRouter.resolve request.method request.path with
      | .notFound =>
        answered = (.error (.routeNotFound request.method request.path), [], state)
      | .methodNotAllowed allowed =>
        answered = (.error (.methodNotAllowed request.method request.path allowed), [], state)
      | .matched route params =>
        ∃ (operation : Operation) (values : String → String),
          route = operation.route ∧ request.path = operation.template.fill values ∧
          operation.template.Fits values ∧ params = operation.template.captures values ∧
          (∀ name ∈ operation.template.paramNames,
            params[name]? = some (Percent.decode (values name))) ∧
          (operation.Lacks values request →
            ∃ reason, answered = (.error (.invalidInput reason), [], state)) ∧
          (¬ operation.Lacks values request →
            ∃ call : Call, call.capability.operation = operation ∧
              call.capability.Takes values request ∧
              (∀ other : Call, other.capability.operation = operation →
                other.capability.Takes values request → other = call) ∧
              answered.2 = ([call], (controllers.run call.capability state).2) ∧
              match (controllers.run call.capability state).1 with
              | .error error => answered.1 = .error (.controller error)
              | .ok value =>
                ∃ reply, answered.1 = .ok reply ∧ call.kind.Answers reply value) := by
  intro answered
  obtain ⟨unchanged, atMostOne⟩ := dispatch_noting serviceRouter controllers request state
  refine ⟨unchanged, atMostOne, ?_⟩
  cases resolved : serviceRouter.resolve request.method request.path with
  | notFound => exact dispatch_of_call_error (call_of_notFound resolved)
  | methodNotAllowed allowed =>
    exact dispatch_of_call_error (call_of_methodNotAllowed resolved)
  | matched route params =>
    obtain ⟨mounted, matched, -⟩ := of_resolve_eq_matched resolved
    obtain ⟨operation, rfl⟩ := Operation.mem_routes_iff.mp mounted
    obtain ⟨values, fits, filled, rfl⟩ :=
      (PathTemplate.matches?_eq_some_iff operation.wellFormed_template).mp matched
    refine ⟨operation, values, rfl, filled, fits, rfl,
      fun name member => PathTemplate.getElem?_captures member values, fun lacks => ?_,
      fun complete => ?_⟩
    · obtain ⟨reason, missed⟩ := call_of_lacks resolved lacks
      exact ⟨reason, dispatch_of_call_error missed⟩
    · obtain ⟨call, called, own, takes⟩ := call_of_not_lacks resolved complete
      have performed : answered = ((call.perform controllers state).1, [call],
          (call.perform controllers state).2) :=
        (dispatch_of_call_ok called).trans (call.perform_noting controllers [] state)
      rw [Call.perform_eq_run] at performed
      refine ⟨call, own, takes, fun other own' takes' => Operation.call_unique own takes own' takes',
        congrArg Prod.snd performed, ?_⟩
      have answer := congrArg Prod.fst performed
      cases outcome : (controllers.run call.capability state).1 with
      | error error =>
        rw [outcome] at answer
        exact answer
      | ok value =>
        rw [outcome] at answer
        exact ⟨_, answer, ResultKind.answers_reply call.kind value⟩

/-- An upload takes the id from an escaped segment, the first value of the query and the bytes of
the body; a deletion takes the first of two headers; and a pet that is added is read from the body
and is the answer. -/
theorem dispatch_calls_three_requests :
    let controllers := Controllers.recording none
    let upload : Request :=
      { method := .post, path := "/pet/%37/uploadImage",
        query := some "additionalMetadata=front+view%26side&additionalMetadata=back",
        headers := ⟨[("content-type", Utf8.encode "image/png")]⟩, body := [0x89, 0x50, 0x4E, 0x47] }
    let remove : Request :=
      { method := .delete, path := "/pet/+7",
        headers := ⟨[("api_key", Utf8.encode "first"), ("api_key", Utf8.encode "second")]⟩ }
    let add : Request :=
      { method := .post, path := "/pet",
        body := Utf8.encode "\x7b\"name\": \"rex\", \"id\": 7\x7d" }
    let answered (request : Request) :=
      serviceRouter.dispatch controllers.noting request ([], [])
    ((answered upload).1 = .ok (.json (.object
          [("code", .number (.integer 200)), ("message", .string ""),
            ("type", .string "stub")])) ∧
        (answered upload).2.1 =
          [⟨.uploadFile 7 (some "front view&side") [0x89, 0x50, 0x4E, 0x47]⟩]) ∧
      ((answered remove).1 = .ok .empty ∧
        (answered remove).2.1 = [⟨.deletePet 7 (some "first")⟩]) ∧
      (answered add).1 = .ok (.json (.object
          [("id", .number (.integer 7)), ("name", .string "rex"), ("photoUrls", .array []),
            ("tags", .array [])])) ∧
        (answered add).2.1 = [⟨.addPet { id := some 7, name := "rex" }⟩] := by
  intro controllers upload remove add answered
  -- These controllers never fail, so a call that takes the inputs is noted and its result answered.
  have served (request : Request) (call : Call) {params : PathParams}
      (resolved : serviceRouter.resolve request.method request.path =
        .matched call.capability.operation.route params)
      (takes : ∀ values : String → String,
        (∀ name ∈ call.capability.operation.template.paramNames,
          params[name]? = some (Percent.decode (values name))) →
        call.capability.Takes values request) :
      (answered request).2.1 = [call] ∧
        ∃ reply, (answered request).1 = .ok reply ∧
          call.kind.Answers reply call.capability.plainResult := by
    have calls := (dispatch_calls controllers request []).2.2
    rw [resolved] at calls
    obtain ⟨operation, values, same, -, -, -, captured, -, called⟩ := calls
    obtain rfl : call.capability.operation = operation := congrArg Route.action same
    have takes := takes values captured
    obtain ⟨made, own, -, only, noted, answer⟩ := called (Operation.not_lacks_of_takes takes)
    obtain rfl := only call rfl takes
    exact ⟨congrArg Prod.fst noted, answer⟩
  have identifies {raw segment : String} {id : Int64}
      (captured : some raw = some (Percent.decode segment))
      (read : (Text.readInt? .int64 raw).map Int64.ofInt = some id) : Identifies segment id := by
    rw [identifies_iff, ← Option.some_inj.mp captured, read]
  refine ⟨?_, ?_, ?_⟩
  · have resolved : serviceRouter.resolve .post "/pet/%37/uploadImage" =
        .matched Operation.uploadFile.route ((∅ : PathParams).insert "petId" "7") := by
      rfl
    have asked : upload.asked.lookup "additionalMetadata" = some "front view&side" := by decide
    obtain ⟨made, reply, replied, answers⟩ := served upload
      ⟨.uploadFile 7 (some "front view&side") [0x89, 0x50, 0x4E, 0x47]⟩ resolved
      fun values captured => ⟨identifies (captured "petId" (by decide)) (by decide), asked, rfl⟩
    exact ⟨answers.1 ▸ replied, made⟩
  · have resolved : serviceRouter.resolve .delete "/pet/+7" =
        .matched Operation.deletePet.route ((∅ : PathParams).insert "petId" "+7") := by
      rfl
    have given : remove.HasHeader "api_key" (some "first") := ⟨rfl, by decide +kernel⟩
    obtain ⟨made, reply, replied, answers⟩ := served remove ⟨.deletePet 7 (some "first")⟩ resolved
      fun values captured => ⟨identifies (captured "petId" (by decide)) (by decide), given⟩
    exact ⟨answers ▸ replied, made⟩
  · have resolved : serviceRouter.resolve .post "/pet" = .matched Operation.addPet.route ∅ := by
      rfl
    have read : Pet.reader.document (Utf8.encode "\x7b\"name\": \"rex\", \"id\": 7\x7d") =
        .ok { id := some 7, name := "rex" } :=
      toOption_eq_some_iff.mp (by decide +kernel)
    obtain ⟨made, reply, replied, answers⟩ := served add
      ⟨.addPet { id := some 7, name := "rex" }⟩ resolved fun values captured => read
    exact ⟨answers.1 ▸ replied, made⟩

end Router

end Requests

end Petstore
