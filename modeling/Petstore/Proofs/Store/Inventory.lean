import Mathlib.Algebra.BigOperators.Group.List.Basic
import Mathlib.Algebra.Ring.Int.Defs
import Mathlib.Data.List.Nodup
import Petstore.Proofs.Store.Searches

/-!
# The inventory and the searches

The inventory counts pets under the texts of their statuses, a search keeps the pets whose status is
read from a text. The two come to the same (`Store.inventory_exact`): after any pets were counted,
the entry of a text tells how many of them a search for that text keeps, and there is no entry where
it keeps none (`Inventory.getElem?_tally`). Since an entry is the number of pets that were counted
under it, fewer pets than `2 ^ 31` are counted without overflow.
-/

namespace Petstore

/-! ## Statuses of pets -/

namespace Pet

theorem hasStatus_singleton {pet : Pet} {text : String} :
    pet.hasStatus [text] ↔ ∃ status, pet.status = some status ∧ status.name = text := by
  simp [hasStatus_iff]

/-- Every pet that has a status is kept by the search for one of them. -/
theorem sum_countP_hasStatus (pets : List Pet) :
    (PetStatus.all.map fun status => pets.countP (·.hasStatus [status.name])).sum =
      pets.countP (·.status.isSome) := by
  induction pets with
  | nil => rfl
  | cons pet pets ih =>
    have own : (PetStatus.all.map fun status =>
        if pet.hasStatus [status.name] then 1 else 0).sum =
          if pet.status.isSome then 1 else 0 := by
      unfold hasStatus
      cases pet.status with
      | none => rfl
      | some status => cases status <;> rfl
    simp only [List.countP_cons, List.sum_map_add, own, ih]

end Pet

/-! ## Counting -/

namespace Inventory

/-- One more pet is counted, if it has a status. -/
def count (counts : Inventory) (pet : Pet) : Inventory :=
  match pet.status with
  | some status => counts.insert status.name (counts.getD status.name 0 + 1)
  | none => counts

/-- The pets counted one after the other. -/
def tally (pets : List Pet) : Inventory :=
  pets.foldl count ∅

/-- The entry of a text under which a number of pets was counted. -/
def recorded? : Nat → Option Int32
  | 0 => none
  | n + 1 => some (.ofNat (n + 1))

theorem getD_recorded? (n : Nat) : (recorded? n).getD 0 = .ofNat n := by
  cases n with
  | zero => rfl
  | succ n => rfl

theorem recorded?_eq_none_iff {n : Nat} : recorded? n = none ↔ n = 0 := by
  cases n with
  | zero => simp [recorded?]
  | succ n => simp [recorded?]

/-- Below the limit an entry is the number itself. -/
theorem toInt_of_recorded? {n : Nat} {number : Int32} (few : n < 2 ^ 31)
    (counted : recorded? n = some number) : number.toInt = n := by
  cases n with
  | zero => cases counted
  | succ n =>
    obtain rfl := Option.some_inj.mp counted
    exact Int32.toInt_ofNat_of_lt few

theorem tally_concat (pets : List Pet) (pet : Pet) :
    tally (pets ++ [pet]) = count (tally pets) pet := by
  rw [tally, List.foldl_append]
  rfl

/-- **Counting.** The entry of a text tells how many pets the search for it keeps. -/
theorem getElem?_tally (pets : List Pet) (text : String) :
    (tally pets)[text]? = recorded? (pets.countP (·.hasStatus [text])) := by
  induction pets using List.reverseRecOn with
  | nil => rfl
  | append_singleton pets pet ih =>
    rw [tally_concat, List.countP_append, List.countP_singleton, count]
    cases own : pet.status with
    | none =>
      have other : ¬ pet.hasStatus [text] := by simp [Pet.hasStatus, own]
      rw [if_neg other, Nat.add_zero]
      exact ih
    | some status =>
      dsimp only
      by_cases named : status.name = text
      · subst named
        have same : pet.hasStatus [status.name] := Pet.hasStatus_singleton.mpr ⟨status, own, rfl⟩
        rw [if_pos same, Std.ExtTreeMap.getElem?_insert_self,
          Std.ExtTreeMap.getD_eq_getD_getElem?, ih, getD_recorded?, recorded?, Int32.ofNat_add]
        rfl
      · have other : ¬ pet.hasStatus [text] := by simp [Pet.hasStatus, own, named]
        rw [if_neg other, Nat.add_zero, getElem?_insert_of_ne _ named]
        exact ih

theorem getD_tally (pets : List Pet) (text : String) :
    (tally pets).getD text 0 = .ofNat (pets.countP (·.hasStatus [text])) := by
  rw [Std.ExtTreeMap.getD_eq_getD_getElem?, getElem?_tally, getD_recorded?]

/-- The order of the pets does not matter. -/
theorem tally_of_perm {pets others : List Pet} (moved : pets.Perm others) :
    tally pets = tally others := by
  refine Std.ExtTreeMap.ext_getElem? fun text => ?_
  rw [getElem?_tally, getElem?_tally, moved.countP_eq]

/-! ## All entries together -/

/-- The entry of a status together with its text. -/
def line? (pets : List Pet) (status : PetStatus) : Option (String × Int32) :=
  (recorded? (pets.countP (·.hasStatus [status.name]))).map (status.name, ·)

theorem line?_eq_some_iff {pets : List Pet} {status : PetStatus} {line : String × Int32} :
    line? pets status = some line ↔
      status.name = line.1 ∧ recorded? (pets.countP (·.hasStatus [status.name])) = some line.2 := by
  rw [line?, Option.map_eq_some_iff]
  constructor
  · rintro ⟨number, counted, rfl⟩
    exact ⟨rfl, counted⟩
  · rintro ⟨named, counted⟩
    exact ⟨line.2, counted, Prod.ext named rfl⟩

/-- There are no entries but those of the statuses. -/
theorem toList_tally_perm (pets : List Pet) :
    (tally pets).toList.Perm (PetStatus.all.filterMap (line? pets)) := by
  have distinct : (tally pets).toList.Nodup :=
    Std.ExtTreeMap.distinct_keys_toList.imp fun apart same =>
      apart (Std.compare_eq_iff_eq.mpr (congrArg Prod.fst same))
  have distinct' : (PetStatus.all.filterMap (line? pets)).Nodup := by
    refine List.Nodup.filterMap (fun status status' line own own' => ?_) (by decide)
    have named := (line?_eq_some_iff.mp own).1.trans (line?_eq_some_iff.mp own').1.symm
    have own := PetStatus.ofName?_eq_some_iff.mpr named
    exact Option.some_inj.mp (own.symm.trans (PetStatus.ofName?_eq_some_iff.mpr rfl))
  refine (List.perm_ext_iff_of_nodup distinct distinct').mpr fun line => ?_
  rw [Std.ExtTreeMap.mem_toList_iff_getElem?_eq_some, getElem?_tally, List.mem_filterMap]
  constructor
  · intro counted
    have some : 0 < pets.countP (·.hasStatus [line.1]) := by
      refine Nat.pos_of_ne_zero fun none => ?_
      rw [recorded?_eq_none_iff.mpr none] at counted
      cases counted
    obtain ⟨pet, -, kept⟩ := List.countP_pos_iff.mp some
    obtain ⟨status, -, named⟩ := Pet.hasStatus_singleton.mp kept
    refine ⟨status, by cases status <;> decide, line?_eq_some_iff.mpr ⟨named, ?_⟩⟩
    rw [named]
    exact counted
  · rintro ⟨status, -, own⟩
    obtain ⟨named, counted⟩ := line?_eq_some_iff.mp own
    rw [← named]
    exact counted

/-- Fewer pets than the limit are counted exactly, so their statuses are the sum of the entries. -/
theorem sum_tally {pets : List Pet} (few : pets.length < 2 ^ 31) :
    ((tally pets).toList.map (·.2.toInt)).sum = pets.countP (·.status.isSome) := by
  have each (statuses : List PetStatus) :
      ((statuses.filterMap (line? pets)).map (·.2.toInt)).sum =
        ((statuses.map fun status => pets.countP (·.hasStatus [status.name])).sum : Nat) := by
    induction statuses with
    | nil => rfl
    | cons status statuses ih =>
      rw [List.map_cons, List.sum_cons, Int.natCast_add, ← ih]
      cases counted : recorded? (pets.countP (·.hasStatus [status.name])) with
      | none =>
        have nothing : line? pets status = none := by rw [line?, counted]; rfl
        rw [List.filterMap_cons_none nothing, recorded?_eq_none_iff.mp counted, Int.natCast_zero,
          Int.zero_add]
      | some number =>
        have own : line? pets status = some (status.name, number) := by rw [line?, counted]; rfl
        rw [List.filterMap_cons_some own, List.map_cons, List.sum_cons]
        exact congrArg (· + _)
          (toInt_of_recorded? (Nat.lt_of_le_of_lt List.countP_le_length few) counted)
  rw [((toList_tally_perm pets).map _).sum_eq, each, Pet.sum_countP_hasStatus]

end Inventory

/-! ## The inventory of a store -/

namespace Store

open Inventory PetStore

variable {store : Store}

theorem length_all (store : PetStore) : store.all.length = store.pets.size := by
  rw [PetStore.all, List.length_map, Std.ExtTreeMap.length_toList]

theorem mem_inventory_iff {text : String} :
    text ∈ store.inventory ↔ 0 < store.pets.all.countP (·.hasStatus [text]) := by
  have entry : store.inventory[text]? = recorded? (store.pets.all.countP (·.hasStatus [text])) :=
    getElem?_tally _ text
  rw [Std.ExtTreeMap.mem_iff_isSome_getElem?, entry, Option.isSome_iff_ne_none, ne_eq,
    recorded?_eq_none_iff, Nat.pos_iff_ne_zero]

/-- A search for one text fails unless it is the text of a status. -/
theorem outcome_findPetsByStatus (session text : String) (store : Store) :
    ((answer session (.findPetsByStatus [text])).outcome store).1 =
      if PetStatus.ofName? text = none then .error (.invalidInput (PetStatus.unknownText text))
      else .ok (store.pets.all.filter (·.hasStatus [text])) := by
  have searched := congrArg Prod.fst (outcome_findByStatus [text] store.pets)
  rw [answer, outcome_onPets]
  refine searched.trans ?_
  cases read : PetStatus.ofName? text with
  | none => simp [read]
  | some status => simp [read]

/-- **The inventory.** In every store of fewer than `2 ^ 31` pets, whatever led to it and in
whatever order its pets are handed out, the inventory has an entry for a text exactly if that is the
text of a status and the search for it finds a pet, and the entry is the number of pets that are
found. The entries sum up to the number of pets that have a status, and whenever a pet is counted
its entry is below the greatest number there is. -/
theorem inventory_exact (store : Store) (few : store.pets.pets.size < 2 ^ 31) (session : String) :
    (answer session .getInventory).outcome store = (.ok store.inventory, store) ∧
    (∀ entries, entries.Perm store.pets.pets.toList → tally (listing entries) = store.inventory) ∧
    (∀ text : String,
      let searched := ((answer session (.findPetsByStatus [text])).outcome store).1
      (text ∈ store.inventory ↔
        (∃ status : PetStatus, status.name = text) ∧
          ∃ found : List Pet, searched = .ok found ∧ found ≠ []) ∧
      ∀ number, store.inventory[text]? = some number →
        ∃ found : List Pet, searched = .ok found ∧ number.toInt = found.length) ∧
    (store.inventory.toList.map (·.2.toInt)).sum = store.pets.all.countP (·.status.isSome) ∧
    ∀ (before later : List Pet) (pet : Pet) (status : PetStatus),
      store.pets.all = before ++ pet :: later → pet.status = some status →
        ((tally before).getD status.name 0).toInt < Int32.maxValue.toInt := by
  have counted : store.inventory = tally store.pets.all := rfl
  have short : store.pets.all.length < 2 ^ 31 := by rwa [length_all]
  refine ⟨rfl, fun entries enumerates => ?_, fun text => ?_, sum_tally short, ?_⟩
  · rw [counted, PetStore.all]
    exact tally_of_perm ((List.mergeSort_perm _ _).trans (enumerates.map _))
  · dsimp only
    rw [outcome_findPetsByStatus, mem_inventory_iff, counted, getElem?_tally]
    cases read : PetStatus.ofName? text with
    | none =>
      have unnamed (status : PetStatus) : status.name ≠ text := fun named => by
        rw [PetStatus.ofName?_eq_some_iff.mpr named] at read
        cases read
      have nothing : store.pets.all.countP (·.hasStatus [text]) = 0 := by
        refine List.countP_eq_zero.mpr fun pet _ kept => ?_
        obtain ⟨status, -, named⟩ := Pet.hasStatus_singleton.mp kept
        exact unnamed status named
      rw [nothing, if_pos rfl]
      refine ⟨iff_of_false (Nat.lt_irrefl 0) ?_, fun number entered => ?_⟩
      · rintro ⟨⟨status, named⟩, -⟩
        exact unnamed status named
      · cases entered
    | some status =>
      have named := PetStatus.ofName?_eq_some_iff.mp read
      rw [if_neg (Option.some_ne_none status), List.countP_eq_length_filter]
      refine ⟨⟨fun some => ⟨⟨status, named⟩, _, rfl, List.ne_nil_of_length_pos some⟩, ?_⟩,
        fun number entered => ⟨_, rfl, toInt_of_recorded? ?_ entered⟩⟩
      · rintro ⟨-, found, same, nonempty⟩
        obtain rfl := Except.ok.inj same
        exact List.length_pos_of_ne_nil nonempty
      · exact Nat.lt_of_le_of_lt (List.length_filter_le _ _) short
  · intro before later pet status split own
    have fewer : before.length + 1 < 2 ^ 31 := by
      rw [split, List.length_append, List.length_cons] at short
      omega
    have least := List.countP_le_length (p := (·.hasStatus [status.name])) (l := before)
    rw [getD_tally, Int32.toInt_ofNat_of_lt (by omega)]
    have greatest : Int32.maxValue.toInt = 2147483647 := rfl
    omega

/-- Of three sold pets one is deleted, and one pet has no status. -/
theorem inventory_exact_four_pets :
    let sold : Pet := { name := "rex", status := some .sold }
    let store := Store.afterCalls "session" {} [⟨.addPet sold⟩, ⟨.addPet { name := "tom" }⟩,
      ⟨.addPet sold⟩, ⟨.addPet { sold with id := some (-4) }⟩, ⟨.deletePet 1 none⟩]
    store.pets.pets.size < 2 ^ 31 ∧ store.inventory.toList = [("sold", 2)] ∧
      (∃ found : List Pet, ((answer "session" (.findPetsByStatus ["sold"])).outcome store).1 =
        .ok found ∧ (2 : Int32).toInt = found.length) ∧
      "pending" ∉ store.inventory := by
  intro sold store
  have few : store.pets.pets.size < 2 ^ 31 := by decide
  obtain ⟨-, -, entries, -, -⟩ := inventory_exact store few "session"
  refine ⟨few, by decide, (entries "sold").2 2 (by decide), fun entered => ?_⟩
  obtain ⟨-, found, searched, nonempty⟩ := (entries "pending").1.mp entered
  have nothing : ((answer "session" (.findPetsByStatus ["pending"])).outcome store).1 = .ok [] := by
    decide
  exact nonempty (Except.ok.inj (searched.symm.trans nothing))

end Store

end Petstore
