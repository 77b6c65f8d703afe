import Mathlib.Data.Set.BooleanAlgebra
import Mathlib.Data.Set.Insert
import Mathlib.Order.CompletePartialOrder
import Petstore.Proofs.Store.UserSteps

/-!
# Footprints

A store has a cell for each pet, order and user. An action is confined to a set of cells if what
these hold settles both its result and the writes that it makes, and the writes stay within them
(`Confined`). Actions that are confined to disjoint sets of cells commute (`Confined.comm`).

The counters are no cells. A new id is taken from the counter and moves it, and this counts as to
touch every cell of its kind. An id that comes from outside is only passed by the counter of the
pets, and in which order two of them are passed makes no difference (`PetStore.nextBeyond_comm`).
-/

namespace Petstore

/-! ## Cells and writes -/

/-- The place in the store of the pet of an id, of the order of an id, or of the user of a name. -/
inductive Cell where
  | pet (id : Int64)
  | order (id : Int64)
  | user (name : String)
  deriving DecidableEq, Repr

/-- Put a value in the place of a key, or take away what is there. -/
def assign {κ β : Type} {cmp : κ → κ → Ordering} [Std.TransCmp cmp]
    (map : Std.ExtTreeMap κ β cmp) (key : κ) : Option β → Std.ExtTreeMap κ β cmp
  | some value => map.insert key value
  | none => map.erase key

/-- A write to one cell, or to a counter. -/
inductive Write where
  | pet (id : Int64) (value : Option Pet)
  | order (id : Int64) (value : Option Order)
  | user (name : String) (value : Option User)
  | passPet (id : Int64)
  | nextPet (next : Int64)
  | nextOrder (next : Int64)

/-- The cells that a write counts for. -/
def Write.cells : Write → Set Cell
  | pet id _ => {.pet id}
  | order id _ => {.order id}
  | user name _ => {.user name}
  | passPet id => {.pet id}
  | nextPet _ => Set.range Cell.pet
  | nextOrder _ => Set.range Cell.order

namespace Store

/-- The store after a write. -/
def write (store : Store) : Write → Store
  | .pet id value =>
    { store with pets := { store.pets with pets := assign store.pets.pets id value } }
  | .order id value =>
    { store with orders := { store.orders with orders := assign store.orders.orders id value } }
  | .user name value => { store with users := ⟨assign store.users.users name value⟩ }
  | .passPet id =>
    { store with
      pets := { store.pets with nextId := PetStore.nextBeyond store.pets.nextId id } }
  | .nextPet next => { store with pets := { store.pets with nextId := next } }
  | .nextOrder next => { store with orders := { store.orders with nextId := next } }

/-- The store after writes made one after the other. -/
def writeAll (store : Store) (writes : List Write) : Store :=
  writes.foldl write store

end Store

/-! ## Writes that commute -/

section Maps

variable {κ β : Type} {cmp : κ → κ → Ordering} [Std.TransCmp cmp] [Std.LawfulEqCmp cmp]
  [DecidableEq κ]

theorem getElem?_assign (map : Std.ExtTreeMap κ β cmp) (key other : κ) (value : Option β) :
    (assign map key value)[other]? = if key = other then value else map[other]? := by
  cases value with
  | some value => exact getElem?_insert_ite map key other value
  | none => exact getElem?_erase_ite map key other

theorem assign_comm (map : Std.ExtTreeMap κ β cmp) {key other : κ} (different : key ≠ other)
    (value value' : Option β) :
    assign (assign map key value) other value' = assign (assign map other value') key value := by
  refine Std.ExtTreeMap.ext_getElem? fun place => ?_
  simp only [getElem?_assign]
  by_cases here : key = place
  · have elsewhere : other ≠ place := fun same => different (here.trans same.symm)
    rw [if_pos here, if_neg elsewhere, if_pos here]
  · rw [if_neg here, if_neg here]

end Maps

/-- In which order two ids from outside are passed makes no difference: the next id is beyond
both. -/
theorem PetStore.nextBeyond_comm (next id other : Int64) :
    nextBeyond (nextBeyond next id) other = nextBeyond (nextBeyond next other) id := by
  unfold nextBeyond
  grind

namespace Store

variable {store other : Store}

/-- Two writes to different cells commute. -/
theorem write_comm {first second : Write} (apart : Disjoint first.cells second.cells) :
    (store.write first).write second = (store.write second).write first := by
  have outside {cell : Cell} (member : cell ∈ first.cells) : cell ∉ second.cells :=
    Set.disjoint_left.mp apart member
  -- Writes of different kinds do not meet. Of one kind, different cells are different keys, and a
  -- new id touches every cell of its kind, so that no other write of that kind is apart from it.
  cases first with
  | pet id value =>
    cases second with
    | pet id' value' =>
      have different : id ≠ id' := fun same => outside rfl (congrArg Cell.pet same)
      simp only [write, assign_comm _ different]
    | nextPet next => exact absurd (Set.mem_range_self id) (outside rfl)
    | order | user | passPet | nextOrder => rfl
  | order id value =>
    cases second with
    | order id' value' =>
      have different : id ≠ id' := fun same => outside rfl (congrArg Cell.order same)
      simp only [write, assign_comm _ different]
    | nextOrder next => exact absurd (Set.mem_range_self id) (outside rfl)
    | pet | user | passPet | nextPet => rfl
  | user name value =>
    cases second with
    | user name' value' =>
      have different : name ≠ name' := fun same => outside rfl (congrArg Cell.user same)
      simp only [write, assign_comm _ different]
    | pet | order | passPet | nextPet | nextOrder => rfl
  | passPet id =>
    cases second with
    | passPet id' => simp only [write, PetStore.nextBeyond_comm _ id id']
    | nextPet next => exact absurd (Set.mem_range_self id) (outside rfl)
    | pet | order | user | nextOrder => rfl
  | nextPet next =>
    cases second with
    | pet id value => exact absurd rfl (outside (Set.mem_range_self id))
    | passPet id => exact absurd rfl (outside (Set.mem_range_self id))
    | nextPet next' => exact absurd (Set.mem_range_self 0) (outside (Set.mem_range_self 0))
    | order | user | nextOrder => rfl
  | nextOrder next =>
    cases second with
    | order id value => exact absurd rfl (outside (Set.mem_range_self id))
    | nextOrder next' => exact absurd (Set.mem_range_self 0) (outside (Set.mem_range_self 0))
    | pet | user | passPet | nextPet => rfl

theorem writeAll_write {first : Write} {writes : List Write}
    (apart : ∀ second ∈ writes, Disjoint first.cells second.cells) :
    (store.write first).writeAll writes = (store.writeAll writes).write first := by
  induction writes generalizing store with
  | nil => rfl
  | cons second writes ih =>
    obtain ⟨here, rest⟩ := List.forall_mem_cons.mp apart
    calc (store.write first).writeAll (second :: writes)
        = ((store.write first).write second).writeAll writes := rfl
      _ = ((store.write second).write first).writeAll writes := by rw [write_comm here]
      _ = ((store.write second).writeAll writes).write first := ih rest

/-- Writes within disjoint sets of cells commute. -/
theorem writeAll_comm {first second : List Write} {cells cells' : Set Cell}
    (apart : Disjoint cells cells') (within : ∀ write ∈ first, write.cells ⊆ cells)
    (within' : ∀ write ∈ second, write.cells ⊆ cells') :
    (store.writeAll first).writeAll second = (store.writeAll second).writeAll first := by
  induction first generalizing store with
  | nil => rfl
  | cons write first ih =>
    obtain ⟨here, rest⟩ := List.forall_mem_cons.mp within
    have across : ∀ other ∈ second, Disjoint write.cells other.cells :=
      fun other member => apart.mono here (within' other member)
    calc (store.writeAll (write :: first)).writeAll second
        = ((store.write write).writeAll first).writeAll second := rfl
      _ = ((store.write write).writeAll second).writeAll first := ih rest
      _ = ((store.writeAll second).write write).writeAll first := by rw [writeAll_write across]

/-! ## Stores that look alike -/

/-- The stores hold the same in all of the cells. If these are all cells of the pets or of the
orders, the next ids are the same, too. -/
structure Alike (cells : Set Cell) (store other : Store) : Prop where
  pets : ∀ id, .pet id ∈ cells → other.pets.pets[id]? = store.pets.pets[id]?
  orders : ∀ id, .order id ∈ cells → other.orders.orders[id]? = store.orders.orders[id]?
  users : ∀ name, .user name ∈ cells → other.users.users[name]? = store.users.users[name]?
  nextPet : Set.range Cell.pet ⊆ cells → other.pets.nextId = store.pets.nextId
  nextOrder : Set.range Cell.order ⊆ cells → other.orders.nextId = store.orders.nextId

variable {cells : Set Cell}

theorem Alike.refl (cells : Set Cell) (store : Store) : Alike cells store store :=
  ⟨fun _ _ => rfl, fun _ _ => rfl, fun _ _ => rfl, fun _ => rfl, fun _ => rfl⟩

theorem Alike.trans {third : Store} (alike : Alike cells store other)
    (alike' : Alike cells other third) : Alike cells store third where
  pets id member := (alike'.pets id member).trans (alike.pets id member)
  orders id member := (alike'.orders id member).trans (alike.orders id member)
  users name member := (alike'.users name member).trans (alike.users name member)
  nextPet all := (alike'.nextPet all).trans (alike.nextPet all)
  nextOrder all := (alike'.nextOrder all).trans (alike.nextOrder all)

/-- Where all cells of the pets are meant, the pets are the same. -/
theorem Alike.pets_eq (alike : Alike cells store other) (all : Set.range Cell.pet ⊆ cells) :
    other.pets = store.pets := by
  have maps : other.pets.pets = store.pets.pets :=
    Std.ExtTreeMap.ext_getElem? fun id => alike.pets id (all (Set.mem_range_self id))
  calc other.pets
      = ⟨other.pets.pets, other.pets.nextId⟩ := rfl
    _ = store.pets := by rw [maps, alike.nextPet all]

/-- A write outside of the cells does not show in them. -/
theorem alike_write {write : Write} (apart : Disjoint cells write.cells) :
    Alike cells store (store.write write) := by
  have outside {cell : Cell} (member : cell ∈ cells) : cell ∉ write.cells :=
    Set.disjoint_left.mp apart member
  have same := Alike.refl cells store
  cases write with
  | pet id value =>
    refine { same with pets := fun id' member => ?_ }
    have different : id ≠ id' := fun same => outside member (congrArg Cell.pet same.symm)
    rw [write, getElem?_assign, if_neg different]
  | order id value =>
    refine { same with orders := fun id' member => ?_ }
    have different : id ≠ id' := fun same => outside member (congrArg Cell.order same.symm)
    rw [write, getElem?_assign, if_neg different]
  | user name value =>
    refine { same with users := fun name' member => ?_ }
    have different : name ≠ name' := fun same => outside member (congrArg Cell.user same.symm)
    rw [write, getElem?_assign, if_neg different]
  | passPet id =>
    exact { same with nextPet := fun all => absurd rfl (outside (all (Set.mem_range_self id))) }
  | nextPet next =>
    exact { same with
      nextPet := fun all => absurd (Set.mem_range_self 0) (outside (all (Set.mem_range_self 0))) }
  | nextOrder next =>
    exact { same with
      nextOrder := fun all =>
        absurd (Set.mem_range_self 0) (outside (all (Set.mem_range_self 0))) }

theorem alike_writeAll {writes : List Write} {cells' : Set Cell} (apart : Disjoint cells cells')
    (within : ∀ write ∈ writes, write.cells ⊆ cells') :
    Alike cells store (store.writeAll writes) := by
  induction writes generalizing store with
  | nil => exact .refl cells store
  | cons write writes ih =>
    obtain ⟨here, rest⟩ := List.forall_mem_cons.mp within
    exact (alike_write (apart.mono_right here)).trans (ih rest)

end Store

/-! ## Confined actions -/

section Confined

variable {α β : Type} {cells cells' : Set Cell} {store : Store} {action : Action Store α}

/-- On every store that looks like this one in the cells, the action has the same result and makes
the same writes, all of them within the cells. -/
def ConfinedAt (cells : Set Cell) (action : Action Store α) (store : Store) : Prop :=
  ∃ result writes, (∀ write ∈ writes, Write.cells write ⊆ cells) ∧
    ∀ other, store.Alike cells other → action.outcome other = (result, other.writeAll writes)

/-- What the cells hold settles the result of the action and its writes, which stay within them. -/
def Confined (cells : Set Cell) (action : Action Store α) : Prop :=
  ∀ store, ConfinedAt cells action store

theorem ConfinedAt.keep (result : Except ControllerError α)
    (kept : ∀ other, store.Alike cells other → action.outcome other = (result, other)) :
    ConfinedAt cells action store :=
  ⟨result, [], List.forall_mem_nil _, kept⟩

theorem ConfinedAt.write (result : Except ControllerError α) (write : Write)
    (within : write.cells ⊆ cells) (written : ∀ other, store.Alike cells other →
      action.outcome other = (result, other.write write)) : ConfinedAt cells action store :=
  ⟨result, [write], List.forall_mem_singleton.mpr within, written⟩

theorem ConfinedAt.write_two (result : Except ControllerError α) (first second : Write)
    (within : first.cells ⊆ cells) (within' : second.cells ⊆ cells)
    (written : ∀ other, store.Alike cells other →
      action.outcome other = (result, (other.write first).write second)) :
    ConfinedAt cells action store :=
  ⟨result, [first, second],
    List.forall_mem_cons.mpr ⟨within, List.forall_mem_singleton.mpr within'⟩, written⟩

/-- An action that only reads is confined to the cells that settle its result. -/
theorem Confined.of_readOnly (reads : action.ReadOnly)
    (settled : ∀ store other, Store.Alike cells store other →
      (action.outcome other).1 = (action.outcome store).1) : Confined cells action :=
  fun store => .keep _ fun other alike => Prod.ext (settled store other alike) (reads other)

/-- **Independent actions commute.** Actions that are confined to disjoint sets of cells have the
same results and leave the same store in either order. -/
theorem Confined.comm {first : Action Store α} {second : Action Store β}
    (one : Confined cells first) (two : Confined cells' second) (apart : Disjoint cells cells')
    (store : Store) :
    (first.outcome (second.outcome store).2).1 = (first.outcome store).1 ∧
      (second.outcome (first.outcome store).2).1 = (second.outcome store).1 ∧
      (second.outcome (first.outcome store).2).2 = (first.outcome (second.outcome store).2).2 := by
  obtain ⟨result, writes, within, settled⟩ := one store
  obtain ⟨result', writes', within', settled'⟩ := two store
  rw [settled store (.refl cells store), settled' store (.refl cells' store),
    settled _ (Store.alike_writeAll apart within'),
    settled' _ (Store.alike_writeAll apart.symm within)]
  exact ⟨rfl, rfl, Store.writeAll_comm apart within within'⟩

end Confined

end Petstore
