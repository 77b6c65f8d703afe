import Petstore.Model.Basic
import Petstore.Store.Action
import Std.Data.ExtTreeMap

/-!
# The orders of the store

Orders by id, with the next id to give out. The store numbers its orders itself, whatever id a
client sends along.
-/

namespace Petstore

/-- The orders of the store and the next id to give out. -/
structure OrderStore where
  orders : Std.ExtTreeMap Int64 Order := ∅
  nextId : Int64 := 1

namespace OrderStore

/-- The complaint about an id that no order has. -/
def noOrder (orderId : Int64) : ControllerError :=
  .notFound s!"order {orderId.toInt}"

/-- The quantity of an order has to be positive, if there is one. -/
def checkQuantity (order : Order) : Except ControllerError Unit :=
  if order.quantity.any (· ≤ 0) then .error (.validation "quantity must be positive") else .ok ()

/-- Give out an id. -/
def allocateId : Action OrderStore Int64 :=
  modifyGet fun store => (store.nextId, { store with nextId := store.nextId + 1 })

/-- Put an order in the place of an id. -/
def put (orderId : Int64) (order : Order) : Action OrderStore Unit :=
  modify fun store => { store with orders := store.orders.insert orderId order }

/-- Take away the order of an id, if there is one. -/
def remove (orderId : Int64) : Action OrderStore (Option Order) :=
  modifyGet fun store =>
    (store.orders[orderId]?, { store with orders := store.orders.erase orderId })

/-- Place an order: it gets the next id, and counts as placed unless it says otherwise. -/
def place (order : Order) : Action OrderStore Order := do
  checkQuantity order
  let id ← allocateId
  let order := { order with id := some id, status := order.status.or (some .placed) }
  put id order
  return order

/-- The order of an id. -/
def find (orderId : Int64) : Action OrderStore Order := do
  match (← get).orders[orderId]? with
  | some order => return order
  | none => throw (noOrder orderId)

/-- Remove an order. -/
def delete (orderId : Int64) : Action OrderStore Unit := do
  if (← remove orderId).isNone then throw (noOrder orderId)

end OrderStore

end Petstore
