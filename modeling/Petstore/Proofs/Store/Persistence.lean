import Mathlib.Algebra.Ring.Nat
import Petstore.Proofs.Api.Requests
import Petstore.Proofs.Json.Members
import Petstore.Proofs.Store.PetIds

/-!
# What was written can be read

A pet or an order that the service has accepted is what a later request for its id gets, as long as
no request in between is for that pet or that order (`writes_persist`). For pets this rests on two
facts about one call: it writes only the pet that it names, and the id that a new pet gets is free
(`PetStore.Step.frame`). Orders get their ids from a counter that moves on with every order and
comes round to an id only after as many orders as there are ids, so for them the accepted orders are
counted.
-/

namespace Petstore

/-! ## Pets -/

namespace PetStore

open Petstore.Action

variable {store left : PetStore} {kind : ResultKind} {capability : Capability kind} {id : Int64}
  {pet given : Pet}

/-- A pet that is added is stored under its id, under which it comes back. -/
theorem held_of_add (success : outcome (add given) store = (.ok pet, left)) :
    ∃ id, pet.id = some id ∧ left.pets[id]? = some pet := by
  cases own : given.id with
  | some id =>
    rw [outcome_add_of_id own] at success
    split at success
    · cases success
    · cases success
      exact ⟨id, own, Std.ExtTreeMap.getElem?_insert_self⟩
  | none =>
    obtain ⟨-, rfl, pets⟩ := add_eq_ok own success
    exact ⟨store.nextId, rfl, by rw [pets, Std.ExtTreeMap.getElem?_insert_self]⟩

/-- So is a pet that replaces another one. -/
theorem held_of_update (success : outcome (update given) store = (.ok pet, left)) :
    ∃ id, pet.id = some id ∧ left.pets[id]? = some pet := by
  rw [outcome_update] at success
  split at success
  · cases success
  · next id own =>
    split at success
    · cases success
    · split at success
      · cases success
      · cases success
        exact ⟨id, own, Std.ExtTreeMap.getElem?_insert_self⟩

/-- A call that does not write a pet leaves it as it is. -/
theorem Step.frame (step : Step store capability left) (numbered : store.Numbered)
    (other : ¬ capability.WritesPet id) (held : store.pets[id]? = some pet) :
    left.pets[id]? = some pet := by
  cases step with
  | keep capability => exact held
  | claim own named =>
    have different := fun same => other (own.trans (congrArg some same))
    rw [getElem?_insert_of_ne _ different, held]
  | allocate unnumbered named room =>
    have different : store.nextId ≠ id := by
      rintro rfl
      rw [numbered.getElem?_nextId room] at held
      cases held
    rw [getElem?_insert_of_ne _ different, held]
  | replace own named stored =>
    have different := fun same => other (own.trans (congrArg some same))
    rw [getElem?_insert_of_ne _ different, held]
  | amend stored newStatus =>
    rw [getElem?_insert_of_ne _ other, held]
  | remove petId apiKey =>
    rw [getElem?_erase_of_ne other, held]

end PetStore

namespace Store

open PetStore

variable {store : Store} {id : Int64} {pet : Pet}

theorem pet_afterCalls (session : String) {calls : List Call} (numbered : store.pets.Numbered)
    (others : ∀ call ∈ calls, ¬ call.capability.WritesPet id)
    (held : store.pets.pets[id]? = some pet) :
    (afterCalls session store calls).pets.pets[id]? = some pet := by
  induction calls generalizing store with
  | nil => exact held
  | cons call calls ih =>
    rw [List.forall_mem_cons] at others
    have step := step_pets session call.capability store
    exact ih (step.numbered numbered) others.2 (step.frame numbered others.1 held)

/-- A pet stays as it is as long as no request writes it. -/
theorem pet_afterVisits {visits : List Visit} (numbered : store.pets.Numbered)
    (others : ∀ visit ∈ visits, ¬ visit.request.WritesPet id)
    (held : store.pets.pets[id]? = some pet) :
    (store.afterVisits visits).pets.pets[id]? = some pet := by
  rw [afterVisits_eq_afterCalls ""]
  refine pet_afterCalls "" numbered (fun call member writes => ?_) held
  obtain ⟨visit, inside, called⟩ := List.mem_filterMap.mp member
  exact others visit inside (writesPet_of_call (Visit.call?_eq_some_iff.mp called) writes)

theorem numbered_afterVisits (numbered : store.pets.Numbered) (visits : List Visit) :
    (store.afterVisits visits).pets.Numbered := by
  rw [afterVisits_eq_afterCalls ""]
  exact numbered_afterCalls "" numbered _

/-- Where a pet is stored can be told from the reply that is made of it. -/
theorem getElem?_of_sorted_eq {stored : Pet} {left : PetStore}
    (held : ∃ key, stored.id = some key ∧ left.pets[key]? = some stored)
    (same : stored.toJson.sorted = pet.toJson.sorted) (own : pet.id = some id) :
    left.pets[id]? = some stored := by
  obtain ⟨key, named, held⟩ := held
  have alike : some key = some id := by rw [← named, Pet.id_of_sorted_toJson same, own]
  rw [← Option.some_inj.mp alike, held]

/-- The pet of which a reply to a write is made is stored under its id. -/
theorem held_of_reply {visit : Visit}
    (method : visit.request.method = .post ∨ visit.request.method = .put)
    (path : visit.request.path = "/pet") (own : pet.id = some id)
    (replied : (store.visit visit).1 = .ok (.json pet.toJson.sorted)) :
    ∃ stored, (store.visit visit).2.pets.pets[id]? = some stored ∧
      stored.toJson.sorted = pet.toJson.sorted := by
  obtain ⟨call, called⟩ := exists_call_of_reply replied
  rw [visit_of_call called] at replied ⊢
  rw [Call.perform_eq]
  rcases method with post | put
  · obtain ⟨given, -, rfl⟩ := (call_post_pet post path).mp (Visit.call?_eq_some_iff.mp called)
    obtain ⟨stored, success, reply⟩ := Call.of_perform_eq_ok replied
    have same : stored.toJson.sorted = pet.toJson.sorted := Reply.json.inj reply
    rw [answer, outcome_onPets] at success
    rw [afterCall, answer, pets_onPets]
    have brought : (PetStore.add given).outcome store.pets =
        (.ok stored, ((PetStore.add given).outcome store.pets).2) := Prod.ext success rfl
    exact ⟨stored, getElem?_of_sorted_eq (held_of_add brought) same own, same⟩
  · obtain ⟨given, -, rfl⟩ := (call_put_pet put path).mp (Visit.call?_eq_some_iff.mp called)
    obtain ⟨stored, success, reply⟩ := Call.of_perform_eq_ok replied
    have same : stored.toJson.sorted = pet.toJson.sorted := Reply.json.inj reply
    rw [answer, outcome_onPets] at success
    rw [afterCall, answer, pets_onPets]
    have brought : (PetStore.update given).outcome store.pets =
        (.ok stored, ((PetStore.update given).outcome store.pets).2) := Prod.ext success rfl
    exact ⟨stored, getElem?_of_sorted_eq (held_of_update brought) same own, same⟩

/-- A request for a pet that is stored gets a reply made of it. -/
theorem reply_of_held {visit : Visit} {segment : String} (method : visit.request.method = .get)
    (path : visit.request.path = "/pet/" ++ segment) (denotes : Denotes segment id)
    (held : store.pets.pets[id]? = some pet) :
    (store.visit visit).1 = .ok (.json pet.toJson.sorted) := by
  have called := call_getPetById method path denotes
  rw [visit_of_call (Visit.call?_eq_some_iff.mpr called), Call.perform_eq, answer, outcome_onPets,
    PetStore.outcome_find, held]
  rfl

end Store

/-! ## Orders -/

namespace Store

variable {store : Store} {visit : Visit} {id : Int64} {order : Order}

/-- The service accepts an order with this visit. -/
def AcceptsOrder (store : Store) (visit : Visit) : Prop :=
  visit.request.method = .post ∧ visit.request.path = "/store/order" ∧
    (store.visit visit).1.isOk = true

instance (store : Store) (visit : Visit) : Decidable (store.AcceptsOrder visit) :=
  inferInstanceAs (Decidable (visit.request.method = .post ∧
    visit.request.path = "/store/order" ∧ (store.visit visit).1.isOk = true))

/-- The number of orders that are accepted in the course of a run. -/
def ordersAccepted (store : Store) : List Visit → Nat
  | [] => 0
  | visit :: visits =>
    (if store.AcceptsOrder visit then 1 else 0) + (store.visit visit).2.ordersAccepted visits

theorem ordersAccepted_append (store : Store) (earlier later : List Visit) :
    store.ordersAccepted (earlier ++ later) =
      store.ordersAccepted earlier + (store.afterVisits earlier).ordersAccepted later := by
  induction earlier generalizing store with
  | nil => simp [ordersAccepted, afterVisits]
  | cons visit earlier ih =>
    rw [List.cons_append, ordersAccepted, ordersAccepted, ih, Nat.add_assoc]
    rfl

/-- An accepted order is stored under the next id, under which it comes back. -/
theorem order_of_accepted (accepted : store.AcceptsOrder visit) :
    ∃ order, (store.visit visit).1 = .ok (.json order.toJson.sorted) ∧
      order.id = some store.orders.nextId ∧
      (store.visit visit).2.orders =
        ⟨store.orders.orders.insert store.orders.nextId order, store.orders.nextId + 1⟩ := by
  obtain ⟨method, path, replied⟩ := accepted
  cases answered : (store.visit visit).1 with
  | error error => simp [answered, Except.isOk, Except.toBool] at replied
  | ok reply =>
    obtain ⟨call, called⟩ := exists_call_of_reply answered
    obtain ⟨given, -, rfl⟩ :=
      (call_post_order method path).mp (Visit.call?_eq_some_iff.mp called)
    rw [visit_of_call called] at answered ⊢
    obtain ⟨placed, success, rfl⟩ := Call.of_perform_eq_ok answered
    rw [answer, outcome_onOrders, OrderStore.outcome_place] at success
    rw [Call.perform_eq, afterCall, answer, outcome_onOrders, OrderStore.outcome_place]
    split at success
    · cases success
    · next positive =>
      cases success
      rw [if_neg positive]
      exact ⟨_, rfl, rfl, rfl⟩

/-- Without an accepted order, the orders stay as they are, or one is removed. -/
theorem orders_of_not_accepted (refused : ¬ store.AcceptsOrder visit) :
    (store.visit visit).2.orders = store.orders ∨
      ∃ orderId, visit.request.RemovesOrder orderId ∧
        (store.visit visit).2.orders =
          { store.orders with orders := store.orders.orders.erase orderId } := by
  cases called : visit.call? with
  | none => exact Or.inl (congrArg Store.orders (visit_snd_of_no_call called store))
  | some call =>
    have request := Visit.call?_eq_some_iff.mp called
    have step := step_orders visit.session call.capability store
    obtain ⟨capability⟩ := call
    rw [AcceptsOrder, visit_of_call called, Call.perform_eq] at refused
    rw [visit_of_call called, Call.perform_eq, afterCall]
    dsimp only at step refused ⊢
    generalize ((answer visit.session capability).outcome store).1 = result at step refused
    generalize ((answer visit.session capability).outcome store).2.orders = left at step ⊢
    cases step with
    | keep other result => exact Or.inl rfl
    | refuse order error => exact Or.inl rfl
    | place order =>
      obtain ⟨method, path⟩ := of_call_placeOrder request
      exact absurd ⟨method, path, rfl⟩ refused
    | remove orderId result => exact Or.inr ⟨orderId, removesOrder_of_call request rfl, rfl⟩

/-- An order stays as it is as long as no request removes it and the counter does not come round to
its id. -/
theorem order_afterVisits {visits : List Visit}
    (others : ∀ visit ∈ visits, ¬ visit.request.RemovesOrder id)
    (apart : ∀ n < store.ordersAccepted visits, store.orders.nextId + Int64.ofNat n ≠ id)
    (held : store.orders.orders[id]? = some order) :
    (store.afterVisits visits).orders.orders[id]? = some order := by
  induction visits generalizing store with
  | nil => exact held
  | cons visit visits ih =>
    rw [List.forall_mem_cons] at others
    rw [ordersAccepted] at apart
    by_cases accepted : store.AcceptsOrder visit
    · obtain ⟨new, -, -, left⟩ := order_of_accepted accepted
      rw [if_pos accepted] at apart
      have first : store.orders.nextId ≠ id := by simpa using apart 0 (by omega)
      refine ih others.2 (fun n below => ?_) ?_
      · have later := apart (1 + n) (Nat.add_lt_add_left below 1)
        rw [Int64.ofNat_add, ← Int64.add_assoc] at later
        rw [left]
        exact later
      · rw [left, getElem?_insert_of_ne _ first, held]
    · rw [if_neg accepted, Nat.zero_add] at apart
      rcases orders_of_not_accepted accepted with left | ⟨orderId, removes, left⟩
      · refine ih others.2 ?_ ?_
        · rwa [left]
        · rwa [left]
      · have different : orderId ≠ id := by
          rintro rfl
          exact others.1 removes
        refine ih others.2 ?_ ?_
        · rwa [left]
        · rw [left, getElem?_erase_of_ne different, held]

/-- Right after an order was accepted, its id is further away than any run is long. -/
theorem add_ofNat_ne_self {n : Nat} (next : Int64) (below : n < 2 ^ 63) :
    next + 1 + Int64.ofNat n ≠ next := by
  intro around
  have last : Int64.ofNat n = -1 := by grind
  have value := Int64.toInt_ofNat_of_lt below
  rw [last, show (-1 : Int64).toInt = -1 from rfl] at value
  omega

theorem ordersAccepted_le_length (store : Store) (visits : List Visit) :
    store.ordersAccepted visits ≤ visits.length := by
  induction visits generalizing store with
  | nil => exact Nat.le_refl 0
  | cons visit visits ih =>
    have later := ih (store.visit visit).2
    rw [ordersAccepted, List.length_cons]
    split <;> omega

/-- A request for an order that is stored gets a reply made of it. -/
theorem reply_of_order_held {segment : String} (method : visit.request.method = .get)
    (path : visit.request.path = "/store/order/" ++ segment) (denotes : Denotes segment id)
    (held : store.orders.orders[id]? = some order) :
    (store.visit visit).1 = .ok (.json order.toJson.sorted) := by
  have called := call_getOrderById method path denotes
  rw [visit_of_call (Visit.call?_eq_some_iff.mpr called), Call.perform_eq, answer, outcome_onOrders,
    OrderStore.outcome_find, held]
  rfl

end Store

/-! ## All runs -/

namespace Store

variable {before further : List Visit} {write read : Visit} {id : Int64} {segment : String}

theorem pet_persists {pet : Pet}
    (method : write.request.method = .post ∨ write.request.method = .put)
    (path : write.request.path = "/pet")
    (replied : ((({} : Store).afterVisits before).visit write).1 = .ok (.json pet.toJson.sorted))
    (own : pet.id = some id) (others : ∀ visit ∈ further, ¬ visit.request.WritesPet id)
    (get : read.request.method = .get) (address : read.request.path = "/pet/" ++ segment)
    (denotes : Denotes segment id) :
    ((({} : Store).afterVisits (before ++ write :: further)).visit read).1 =
      .ok (.json pet.toJson.sorted) := by
  obtain ⟨stored, held, same⟩ := held_of_reply method path own replied
  have start : ({} : Store).pets.Numbered := PetStore.numbered_empty
  have numbered := numbered_afterVisits start (before ++ [write])
  rw [afterVisits_append] at numbered
  have kept := pet_afterVisits numbered others held
  rw [afterVisits_append, ← same]
  exact reply_of_held get address denotes kept

theorem order_persists {order : Order} (method : write.request.method = .post)
    (path : write.request.path = "/store/order")
    (replied : ((({} : Store).afterVisits before).visit write).1 = .ok (.json order.toJson.sorted))
    (own : order.id = some id) (others : ∀ visit ∈ further, ¬ visit.request.RemovesOrder id)
    (few : ({} : Store).ordersAccepted (before ++ write :: further) < 2 ^ 63)
    (get : read.request.method = .get) (address : read.request.path = "/store/order/" ++ segment)
    (denotes : Denotes segment id) :
    ((({} : Store).afterVisits (before ++ write :: further)).visit read).1 =
      .ok (.json order.toJson.sorted) := by
  generalize earlier : ({} : Store).afterVisits before = store at replied
  have accepted : store.AcceptsOrder write := ⟨method, path, by rw [replied]; rfl⟩
  obtain ⟨stored, stores, named, left⟩ := order_of_accepted accepted
  have same : stored.toJson.sorted = order.toJson.sorted :=
    Reply.json.inj (Except.ok.inj (stores.symm.trans replied))
  have next : store.orders.nextId = id := by
    have alike : some store.orders.nextId = some id := by
      rw [← named, Order.id_of_sorted_toJson same, own]
    exact Option.some_inj.mp alike
  have apart : ∀ n < (store.visit write).2.ordersAccepted further,
      (store.visit write).2.orders.nextId + Int64.ofNat n ≠ id := by
    intro n below
    rw [ordersAccepted_append, ordersAccepted, earlier] at few
    rw [left, ← next]
    exact add_ofNat_ne_self store.orders.nextId (by omega)
  have held : (store.visit write).2.orders.orders[id]? = some stored := by
    rw [left, next, Std.ExtTreeMap.getElem?_insert_self]
  have kept := order_afterVisits others apart held
  rw [afterVisits_append, earlier, ← same]
  exact reply_of_order_held get address denotes kept

/-- **What was written can be read.** In every run of requests from the empty store, a pet that the
service took, by `POST` or by `PUT`, is what every later request for its id gets, unless a request
in between writes the pet of that id; a new pet without an id never does. An order that the service
took is what every later request for its id gets, unless it was deleted, as long as fewer than
`2 ^ 63` orders are accepted in all. An id is denoted by its decimal text, among others. -/
theorem writes_persist :
    (∀ (before further : List Visit) (write read : Visit) (pet : Pet) (id : Int64)
        (segment : String),
      write.request.method = .post ∨ write.request.method = .put →
      write.request.path = "/pet" →
      ((({} : Store).afterVisits before).visit write).1 = .ok (.json pet.toJson.sorted) →
      pet.id = some id →
      (∀ visit ∈ further, ¬ visit.request.WritesPet id) →
      read.request.method = .get → read.request.path = "/pet/" ++ segment → Denotes segment id →
      ((({} : Store).afterVisits (before ++ write :: further)).visit read).1 =
        .ok (.json pet.toJson.sorted)) ∧
    (∀ (request : Request) (pet : Pet) (id : Int64), request.path = "/pet" →
      Pet.reader.document request.body = .ok pet → pet.id = none → ¬ request.WritesPet id) ∧
    (∀ (before further : List Visit) (write read : Visit) (order : Order) (id : Int64)
        (segment : String),
      write.request.method = .post → write.request.path = "/store/order" →
      ((({} : Store).afterVisits before).visit write).1 = .ok (.json order.toJson.sorted) →
      order.id = some id →
      (∀ visit ∈ further, ¬ visit.request.RemovesOrder id) →
      ({} : Store).ordersAccepted (before ++ write :: further) < 2 ^ 63 →
      read.request.method = .get → read.request.path = "/store/order/" ++ segment →
      Denotes segment id →
      ((({} : Store).afterVisits (before ++ write :: further)).visit read).1 =
        .ok (.json order.toJson.sorted)) ∧
    ∀ id : Int64, Denotes (toString id.toInt) id := by
  refine ⟨?_, ?_, ?_, denotes_toString⟩
  · intro before further write read pet id segment method path replied own others get address
      denotes
    exact pet_persists method path replied own others get address denotes
  · exact fun request pet id path body unnumbered => not_writesPet_of_no_id path body unnumbered
  · intro before further write read order id segment method path replied own others few get address
      denotes
    exact order_persists method path replied own others few get address denotes

/-- A pet with a negative id outlives a pet without one, and an order another order. -/
theorem writes_persist_beside_others :
    let rex : Pet := { id := some (-5), name := "rex" }
    let addRex : Visit := ⟨{ method := .post, path := "/pet", body := rex.toJson.bytes }, "a"⟩
    let addTom : Visit :=
      ⟨{ method := .post, path := "/pet", body := (Pet.toJson { name := "tom" }).bytes }, "b"⟩
    let order : Order := { id := some 1, petId := some 7, status := some .placed }
    let place : Visit :=
      ⟨{ method := .post, path := "/store/order",
         body := (Order.toJson { petId := some 7 }).bytes }, "c"⟩
    ((({} : Store).afterVisits [addRex, addTom]).visit
      ⟨{ method := .get, path := "/pet/%2D05" }, "d"⟩).1 = .ok (.json rex.toJson.sorted) ∧
    ((({} : Store).afterVisits [place, place]).visit
      ⟨{ method := .get, path := "/store/order/+1" }, "e"⟩).1 =
        .ok (.json order.toJson.sorted) := by
  intro rex addRex addTom order place
  have readRex : Pet.reader.document
      (Pet.toJson { id := some (-5), name := "rex" }).bytes =
        .ok { id := some (-5), name := "rex" } :=
    toOption_eq_some_iff.mp (by decide +kernel)
  have readTom : Pet.reader.document (Pet.toJson { name := "tom" }).bytes =
      .ok { name := "tom" } :=
    toOption_eq_some_iff.mp (by decide +kernel)
  have readOrder : Order.reader.document (Order.toJson { petId := some 7 }).bytes =
      .ok { petId := some 7 } :=
    toOption_eq_some_iff.mp (by decide +kernel)
  have added : ((({} : Store).afterVisits []).visit addRex).1 = .ok (.json rex.toJson.sorted) := by
    have called : addRex.call? = some ⟨.addPet { id := some (-5), name := "rex" }⟩ :=
      Visit.call?_eq_some_iff.mpr ((call_post_pet rfl rfl).mpr ⟨_, readRex, rfl⟩)
    rw [visit_of_call called]
    rfl
  have placed : ((({} : Store).afterVisits []).visit place).1 =
      .ok (.json order.toJson.sorted) := by
    have called : place.call? = some ⟨.placeOrder { petId := some 7 }⟩ :=
      Visit.call?_eq_some_iff.mpr ((call_post_order rfl rfl).mpr ⟨_, readOrder, rfl⟩)
    rw [visit_of_call called]
    rfl
  obtain ⟨pets, unnumbered, orders, -⟩ := writes_persist
  refine ⟨?_, ?_⟩
  · have others : ∀ visit ∈ [addTom], ¬ visit.request.WritesPet (-5) :=
      List.forall_mem_singleton.mpr (unnumbered _ _ _ rfl readTom rfl)
    exact pets [] [addTom] addRex _ rex (-5) "%2D05" (Or.inl rfl) rfl added rfl others rfl rfl
      (by decide)
  · have others : ∀ visit ∈ [place], ¬ visit.request.RemovesOrder 1 :=
      List.forall_mem_singleton.mpr fun removes => absurd removes.method (by decide)
    have few : ({} : Store).ordersAccepted [place, place] < 2 ^ 63 :=
      Nat.lt_of_le_of_lt (ordersAccepted_le_length _ _) (by decide)
    exact orders [] [place] place _ order 1 "+1" rfl rfl placed rfl others few rfl rfl (by decide)

end Store

end Petstore
