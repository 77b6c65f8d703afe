import Mathlib.Algebra.Ring.Nat
import Petstore.Proofs.Store.Runs

/-!
# Ids of orders over a run

The store numbers its orders by a counter that moves on with every order that it accepts, and with
nothing else: a refused order leaves it as it is, and so does a deletion. So the counter tells how
many orders were accepted (`OrderStore.Counted`), every call keeps this as long as the ids do not
come round, and the accepted orders are numbered from 1 on (`order_ids_over_runs`).
-/

namespace Petstore

/-- The order with which a capability answers if it places one. -/
def Capability.accepted? : {kind : ResultKind} → Capability kind →
    Except ControllerError kind.Value → Option Order
  | _, .placeOrder _, .ok order => some order
  | _, _, _ => none

namespace OrderStore

open Petstore.Action

variable {store left : OrderStore} {kind : ResultKind} {capability : Capability kind}
  {result : Except ControllerError kind.Value} {count : Nat} {order : Order}

/-- How an order is stored under an id: with that id, with a status, and with a positive quantity if
it has one. -/
structure StoredAs (order : Order) (id : Int64) : Prop where
  own : order.id = some id
  status : order.status.isSome
  positive : ∀ quantity, order.quantity = some quantity → 0 < quantity

/-- So many orders were accepted: the counter is one ahead, and every order is stored under an id
that the counter has passed. -/
structure Counted (store : OrderStore) (count : Nat) : Prop where
  next : store.nextId.toInt = count + 1
  stored : ∀ {id : Int64} {order : Order}, store.orders[id]? = some order →
    StoredAs order id ∧ 1 ≤ id ∧ id < store.nextId

theorem counted_empty : Counted {} 0 where
  next := rfl
  stored held := by simp at held

theorem storedAs_placed (positive : ¬ order.quantity.any (· ≤ 0)) (id : Int64) :
    StoredAs (placed order id) id where
  own := rfl
  status := by simp [placed]
  positive quantity given := by
    have given : order.quantity = some quantity := given
    simpa [given] using positive

/-- The counter moves on, as long as it does not come round. -/
theorem Counted.toInt_succ (counted : store.Counted count) (few : count + 1 < 2 ^ 63 - 1) :
    (store.nextId + 1).toInt = (count + 1 : Nat) + 1 := by
  have next := counted.next
  rw [Int64.toInt_add, next, Int64.toInt_one]
  exact Int.bmod_eq_of_le (by omega) (by omega)

/-- An order is stored under the next id, and the counter passes it. -/
theorem Counted.place (counted : store.Counted count) (few : count + 1 < 2 ^ 63 - 1)
    (positive : ¬ order.quantity.any (· ≤ 0)) :
    Counted ⟨store.orders.insert store.nextId (placed order store.nextId), store.nextId + 1⟩
      (count + 1) where
  next := counted.toInt_succ few
  stored {id found} held := by
    have next := counted.next
    have beyond : store.nextId < store.nextId + 1 := by
      rw [Int64.lt_iff_toInt_lt, counted.toInt_succ few]
      omega
    rcases eq_or_held_of_insert held with ⟨rfl, rfl⟩ | kept
    · refine ⟨storedAs_placed positive _, ?_, beyond⟩
      rw [Int64.le_iff_toInt_le, Int64.toInt_one]
      omega
    · obtain ⟨as, first, passed⟩ := counted.stored kept
      exact ⟨as, first, Int64.lt_trans passed beyond⟩

/-- The next id is free. -/
theorem Counted.getElem?_nextId (counted : store.Counted count) :
    store.orders[store.nextId]? = none := by
  cases held : store.orders[store.nextId]? with
  | none => rfl
  | some order => exact (Int64.lt_irrefl (counted.stored held).2.2).elim

/-- An order that is refused leaves the store as it is. -/
theorem place_eq_error {error : ControllerError}
    (refused : outcome (place order) store = (.error error, left)) : left = store := by
  rw [outcome_place] at refused
  split at refused
  · exact (Prod.mk.inj refused).2.symm
  · cases refused

/-- An order that is accepted is stored under the next id. -/
theorem place_eq_ok {added : Order} (accepted : outcome (place order) store = (.ok added, left)) :
    added.id = some store.nextId ∧ left.orders = store.orders.insert store.nextId added := by
  rw [outcome_place] at accepted
  split at accepted
  · cases accepted
  · cases accepted
    exact ⟨rfl, rfl⟩

theorem accepted?_eq_none (other : ¬ capability.PlacesOrder) :
    capability.accepted? result = none := by
  cases capability with
  | placeOrder order => exact absurd trivial other
  | _ => rfl

/-- Every call keeps the count: an accepted order is numbered by it, and nothing else moves the
counter. -/
theorem Step.counted (step : Step store capability result left) (counted : store.Counted count)
    (few : count + (capability.accepted? result).toList.length < 2 ^ 63 - 1) :
    left.Counted (count + (capability.accepted? result).toList.length) ∧
      ∀ order ∈ capability.accepted? result, order.id = some store.nextId := by
  cases step with
  | keep other result =>
    rw [accepted?_eq_none other]
    exact ⟨counted, fun _ none => nomatch none⟩
  | refuse order error => exact ⟨counted, fun _ none => nomatch none⟩
  | place order positive =>
    refine ⟨counted.place few positive, ?_⟩
    rintro _ ⟨⟩
    rfl
  | remove orderId result =>
    refine ⟨⟨counted.next, fun held => counted.stored (held_of_erase held)⟩, ?_⟩
    exact fun _ none => nomatch none

end OrderStore

/-! ## Runs -/

namespace Store

open OrderStore

variable {session : String} {store : Store} {count : Nat}

/-- The order that a call is answered with if it places one. -/
def accepted? (session : String) (store : Store) (call : Call) : Option Order :=
  call.capability.accepted? ((answer session call.capability).outcome store).1

/-- The orders that are accepted in the course of a run, as they are answered with. -/
def accepted (session : String) (store : Store) : List Call → List Order
  | [] => []
  | call :: calls =>
    (accepted? session store call).toList ++ accepted session (afterCall session store call) calls

theorem counted_afterCall {call : Call} (counted : store.orders.Counted count)
    (few : count + (accepted? session store call).toList.length < 2 ^ 63 - 1) :
    (afterCall session store call).orders.Counted
        (count + (accepted? session store call).toList.length) ∧
      ∀ order ∈ accepted? session store call, order.id = some store.orders.nextId :=
  (step_orders session call.capability store).counted counted few

/-- Over a run the accepted orders are numbered one after the other. -/
theorem counted_afterCalls {calls : List Call} (counted : store.orders.Counted count)
    (few : count + (accepted session store calls).length < 2 ^ 63 - 1) :
    (afterCalls session store calls).orders.Counted
        (count + (accepted session store calls).length) ∧
      ∀ (k : Nat) (order : Order), (accepted session store calls)[k]? = some order →
        ∃ id, order.id = some id ∧ id.toInt = count + k + 1 := by
  induction calls generalizing store count with
  | nil => exact ⟨counted, fun k order found => nomatch found⟩
  | cons call calls ih =>
    have run : accepted session store (call :: calls) = (accepted? session store call).toList ++
      accepted session (afterCall session store call) calls := rfl
    rw [run, List.length_append, ← Nat.add_assoc] at few ⊢
    obtain ⟨counted', own⟩ := counted_afterCall counted
      (Nat.lt_of_le_of_lt (Nat.le_add_right _ _) few)
    obtain ⟨later, numbered⟩ := ih counted' few
    refine ⟨later, fun k order found => ?_⟩
    rw [List.getElem?_append] at found
    split at found
    · next first =>
      -- The order is the answer to the first call, which has one answer at most.
      have single : (accepted? session store call).toList.length ≤ 1 := by
        cases accepted? session store call <;> simp
      refine ⟨_, own order (Option.mem_toList.mp (List.mem_of_getElem? found)), ?_⟩
      rw [counted.next]
      omega
    · obtain ⟨id, same, value⟩ := numbered _ order found
      exact ⟨id, same, by omega⟩

end Store

namespace OrderStore

open Petstore.Action

/-- **Order ids over a run.** As long as the ids do not come round, the accepted orders of a run are
numbered from 1 on, whatever ids they bring, whatever is refused and whatever is deleted in between,
and every order stands under its own id, which the counter has passed, with a status and with a
positive quantity if any. An order that is refused leaves the store as it is, and one that is
accepted takes a free id and leaves all others as they are. -/
theorem order_ids_over_runs (session : String) (calls : List Call)
    (few : (Store.accepted session {} calls).length < 2 ^ 63 - 1) :
    let orders := Store.accepted session {} calls
    let store := (Store.afterCalls session {} calls).orders
    (∀ (k : Nat) (order : Order), orders[k]? = some order →
      ∃ id, order.id = some id ∧ id.toInt = k + 1) ∧
    store.nextId.toInt = orders.length + 1 ∧
    (∀ (id : Int64) (order : Order), store.orders[id]? = some order →
      order.id = some id ∧ order.status.isSome ∧
      (∀ quantity, order.quantity = some quantity → 0 < quantity) ∧
      1 ≤ id ∧ id < store.nextId) ∧
    ∀ (order : Order) (left : OrderStore),
      (∀ error, (place order).outcome store = (.error error, left) → left = store) ∧
      ∀ placed, (place order).outcome store = (.ok placed, left) →
        placed.id = some store.nextId ∧ store.orders[store.nextId]? = none ∧
        left.orders[store.nextId]? = some placed ∧
        ∀ other, other ≠ store.nextId → left.orders[other]? = store.orders[other]? := by
  intro orders store
  have few : 0 + (Store.accepted session {} calls).length < 2 ^ 63 - 1 := by rwa [Nat.zero_add]
  obtain ⟨counted, numbered⟩ := Store.counted_afterCalls counted_empty few
  rw [Nat.zero_add] at counted
  refine ⟨fun k order found => ?_, counted.next, fun id order held => ?_, fun order left => ?_⟩
  · obtain ⟨id, own, value⟩ := numbered k order found
    exact ⟨id, own, by omega⟩
  · obtain ⟨as, first, passed⟩ := counted.stored held
    exact ⟨as.own, as.status, as.positive, first, passed⟩
  · refine ⟨fun error refused => place_eq_error refused, fun placed accepted => ?_⟩
    obtain ⟨own, after⟩ := place_eq_ok accepted
    refine ⟨own, counted.getElem?_nextId, ?_, fun other apart => ?_⟩
    · rw [after, Std.ExtTreeMap.getElem?_insert_self]
    · rw [after, getElem?_insert_of_ne _ apart.symm]

/-- The first order brings an id of its own and is deleted again, the second is refused, and the
third gets the id 2. -/
theorem order_ids_over_runs_deleted :
    let calls : List Call :=
      [⟨.placeOrder { id := some 77, quantity := some 2 }⟩, ⟨.deleteOrder 1⟩,
        ⟨.placeOrder { quantity := some 0 }⟩, ⟨.placeOrder { status := some .approved }⟩]
    let store := (Store.afterCalls "session" {} calls).orders
    (Store.accepted "session" {} calls).length = 2 ∧ store.nextId.toInt = 3 ∧
      (∃ id, (Store.accepted "session" {} calls)[1]? =
        some { id := some id, status := some .approved } ∧ id.toInt = 2) ∧
      store.orders[(1 : Int64)]? = none := by
  intro calls store
  have both : Store.accepted "session" {} calls =
      [{ id := some 1, quantity := some 2, status := some .placed },
        { id := some 2, status := some .approved }] := by
    rfl
  have two : (Store.accepted "session" {} calls).length = 2 := by rw [both]; rfl
  have second : (Store.accepted "session" {} calls)[1]? =
      some { id := some 2, status := some .approved } := by rw [both]; rfl
  obtain ⟨numbered, counted, -, -⟩ :=
    order_ids_over_runs "session" calls (by rw [two]; decide)
  obtain ⟨id, own, value⟩ := numbered 1 _ second
  refine ⟨two, by rw [counted, two]; rfl, ⟨id, ?_, value⟩, by rfl⟩
  rw [second, Option.some_inj.mp own]

end OrderStore

end Petstore
