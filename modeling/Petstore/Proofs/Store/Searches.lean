import Mathlib.Data.List.Sort
import Petstore.Proofs.Store.Persistence
import Petstore.Proofs.Store.PetNames

/-!
# Searches for pets

A map may hand out its pets in any order; they are listed by sorting them by their ids. In a store
that was reached every pet stands under its own id, so the ids of the pets differ, and there is one
sorted list, whatever the order was (`listing_eq_all`). A search keeps some of this list. What it
finds is told by which pets it wants (`Lists.unique`), and these depend on the texts that are asked
for, and neither on their order nor on how often one is named (`PetStore.searches_exact`).
-/

namespace Petstore

/-! ## The order of the ids -/

namespace Pet

variable {pet other third : Pet}

/-- Both pets have ids, and that of the first is the smaller one. -/
def Precedes (pet other : Pet) : Prop :=
  ∃ id id' : Int64, pet.id = some id ∧ other.id = some id' ∧ id < id'

/-- The comparison by which pets are sorted: by their ids, and before these a pet without one. -/
def sortsBefore (pet other : Pet) : Bool :=
  match pet.id, other.id with
  | none, _ => true
  | some _, none => false
  | some id, some id' => id ≤ id'

theorem Precedes.asymm (before : pet.Precedes other) : ¬ other.Precedes pet := by
  obtain ⟨id, id', own, own', less⟩ := before
  rintro ⟨right, left, same', same, greater⟩
  obtain rfl := Option.some_inj.mp (own.symm.trans same)
  obtain rfl := Option.some_inj.mp (own'.symm.trans same')
  exact absurd greater (Int64.lt_asymm less)

instance : Std.Asymm Precedes where
  asymm _ _ before := before.asymm

theorem sortsBefore_trans (first : pet.sortsBefore other) (second : other.sortsBefore third) :
    pet.sortsBefore third := by
  unfold sortsBefore at *
  grind

theorem sortsBefore_total (pet other : Pet) : pet.sortsBefore other || other.sortsBefore pet := by
  unfold sortsBefore
  grind

theorem Precedes.sortsBefore (before : pet.Precedes other) : pet.sortsBefore other := by
  obtain ⟨id, id', own, own', less⟩ := before
  simp only [Pet.sortsBefore, own, own', decide_eq_true_eq]
  exact Int64.le_of_lt less

theorem id_eq_of_sortsBefore {id id' : Int64} (own : pet.id = some id) (own' : other.id = some id')
    (first : pet.sortsBefore other) (second : other.sortsBefore pet) : id = id' := by
  simp only [Pet.sortsBefore, own, own', decide_eq_true_eq] at first second
  exact Int64.le_antisymm first second

/-! ## What a search looks at -/

/-- The status of the pet is among those named. -/
def hasStatus (names : List String) (pet : Pet) : Bool :=
  pet.status.any fun status => names.contains status.name

/-- The pet carries a tag that is among those named. -/
def hasTag (names : List String) (pet : Pet) : Bool :=
  pet.tags.any fun tag => tag.name.any names.contains

theorem hasStatus_iff {names : List String} :
    pet.hasStatus names ↔ ∃ status, pet.status = some status ∧ status.name ∈ names := by
  simp [hasStatus, Option.any_eq_true]

theorem hasTag_iff {names : List String} :
    pet.hasTag names ↔ ∃ tag ∈ pet.tags, ∃ name ∈ names, tag.name = some name := by
  simp [hasTag, Option.any_eq_true, and_comm]

end Pet

namespace PetStore

open Petstore.Action

variable {store : PetStore} {wanted wanted' : Pet → Prop} {found found' : List Pet}
  {entries : List (Int64 × Pet)}

/-! ## Lists of stored pets -/

/-- The pets of the list are the stored ones that are wanted, each once and in the order of their
ids. -/
structure Lists (store : PetStore) (wanted : Pet → Prop) (found : List Pet) : Prop where
  increasing : found.Pairwise Pet.Precedes
  mem_iff : ∀ pet, pet ∈ found ↔ (∃ id : Int64, store.pets[id]? = some pet) ∧ wanted pet

/-- There is one such list. -/
theorem Lists.unique (lists : store.Lists wanted found) (lists' : store.Lists wanted' found')
    (same : ∀ pet, wanted pet ↔ wanted' pet) : found = found' := by
  refine lists.increasing.eq_of_mem_iff lists'.increasing fun pet => ?_
  rw [lists.mem_iff, lists'.mem_iff, same]

theorem Lists.filter (lists : store.Lists (fun _ => True) found) {keep : Pet → Bool}
    (means : ∀ pet, keep pet ↔ wanted pet) : store.Lists wanted (found.filter keep) where
  increasing := lists.increasing.filter keep
  mem_iff pet := by rw [List.mem_filter, lists.mem_iff, and_true, means]

/-- The pets of a numbered store are listed in the order of their ids. -/
theorem Numbered.lists_all (numbered : store.Numbered) : store.Lists (fun _ => True) store.all where
  increasing := by
    refine List.pairwise_map.mpr (Std.ExtTreeMap.ordered_keys_toList.imp_of_mem ?_)
    intro entry later held held' ordered
    rw [Std.ExtTreeMap.mem_toList_iff_getElem?_eq_some] at held held'
    exact ⟨entry.1, later.1, numbered.own held, numbered.own held', Std.compare_eq_lt.mp ordered⟩
  mem_iff pet := by rw [mem_all_iff, and_true]

/-- The pets that a map hands out in the order of the entries, sorted by their ids. -/
def listing (entries : List (Int64 × Pet)) : List Pet :=
  (entries.map (·.2)).mergeSort Pet.sortsBefore

/-- The order in which the map hands out its pets does not show in the list. -/
theorem listing_eq_all (numbered : store.Numbered) (enumerates : entries.Perm store.pets.toList) :
    listing entries = store.all := by
  have perm : (listing entries).Perm store.all :=
    (List.mergeSort_perm _ _).trans (enumerates.map _)
  have sorted : (listing entries).Pairwise fun pet other => pet.sortsBefore other :=
    @List.pairwise_mergeSort _ Pet.sortsBefore (fun _ _ _ => Pet.sortsBefore_trans)
      Pet.sortsBefore_total _
  have sorted' : store.all.Pairwise fun pet other => pet.sortsBefore other :=
    numbered.lists_all.increasing.imp Pet.Precedes.sortsBefore
  refine perm.eq_of_pairwise (fun pet other member member' first second => ?_) sorted sorted'
  -- The two are stored under one id, and so they are one pet.
  obtain ⟨id, held⟩ := mem_all_iff.mp (perm.mem_iff.mp member)
  obtain ⟨id', held'⟩ := mem_all_iff.mp member'
  obtain rfl := Pet.id_eq_of_sortsBefore (numbered.own held) (numbered.own held') first second
  exact Option.some_inj.mp (held.symm.trans held')

/-! ## Searches -/

/-- The first name that is no status is complained about. -/
theorem readStatuses_eq (names : List String) :
    readStatuses names =
      match names.find? fun name => (PetStatus.ofName? name).isNone with
      | some name => .error (.invalidInput (PetStatus.unknownText name))
      | none => .ok (names.filterMap PetStatus.ofName?) := by
  unfold readStatuses
  induction names with
  | nil => rfl
  | cons name names ih =>
    rw [List.mapM_cons, ih, readStatus]
    cases read : PetStatus.ofName? name with
    | none =>
      rw [List.find?_cons_of_pos (by rw [read]; rfl)]
      rfl
    | some status =>
      rw [List.find?_cons_of_neg (by rw [read]; exact Bool.false_ne_true),
        List.filterMap_cons_some read]
      cases names.find? fun name => (PetStatus.ofName? name).isNone with
      | none => rfl
      | some unknown => rfl

theorem mem_filterMap_ofName?_iff {names : List String} {status : PetStatus} :
    status ∈ names.filterMap PetStatus.ofName? ↔ status.name ∈ names := by
  simp [List.mem_filterMap, PetStatus.ofName?_eq_some_iff]

/-- A search for statuses fails with the first name that is none, or it keeps the pets whose status
is named. -/
theorem outcome_findByStatus (names : List String) (store : PetStore) :
    outcome (findByStatus names) store =
      (match names.find? fun name => (PetStatus.ofName? name).isNone with
        | some name => .error (.invalidInput (PetStatus.unknownText name))
        | none => .ok (store.all.filter (·.hasStatus names)), store) := by
  have keeps : (fun pet : Pet => pet.status.any (names.filterMap PetStatus.ofName?).contains) =
      (·.hasStatus names) := by
    funext pet
    refine congrArg pet.status.any (funext fun status => Bool.eq_iff_iff.mpr ?_)
    rw [List.contains_iff_mem, List.contains_iff_mem, mem_filterMap_ofName?_iff]
  rw [findByStatus, outcome_liftM_bind, readStatuses_eq, ← keeps]
  cases names.find? fun name => (PetStatus.ofName? name).isNone with
  | none => rfl
  | some unknown => rfl

theorem outcome_findByTags (names : List String) (store : PetStore) :
    outcome (findByTags names) store = (.ok (store.all.filter (·.hasTag names)), store) := by
  rw [findByTags, outcome_get_bind]
  rfl

/-- The first name that is none is what a search for statuses fails with, if there is one. -/
theorem findByStatus_fails_iff {names : List String} :
    (∃ text, (outcome (findByStatus names) store).1 = .error (.invalidInput text)) ↔
      ∃ name ∈ names, PetStatus.ofName? name = none := by
  rw [outcome_findByStatus]
  dsimp only
  cases first : names.find? fun name => (PetStatus.ofName? name).isNone with
  | none =>
    refine iff_of_false (fun failed => nomatch failed) ?_
    rintro ⟨name, member, unknown⟩
    exact absurd (List.find?_eq_none.mp first name member) (by simp [unknown])
  | some name =>
    refine iff_of_true ⟨_, rfl⟩ ⟨name, List.mem_of_find?_eq_some first, ?_⟩
    simpa using List.find?_some first

theorem outcome_findByStatus_of_known {names : List String}
    (known : ∀ name ∈ names, PetStatus.ofName? name ≠ none) :
    outcome (findByStatus names) store = (.ok (store.all.filter (·.hasStatus names)), store) := by
  have found : names.find? (fun name => (PetStatus.ofName? name).isNone) = none :=
    List.find?_eq_none.mpr fun name member => by simpa using known name member
  rw [outcome_findByStatus, found]

/-- A store that calls, or requests, may leave of the empty one. -/
inductive Reached : PetStore → Prop where
  | calls (session : String) (calls : List Call) : Reached (Store.afterCalls session {} calls).pets
  | visits (visits : List Visit) : Reached (({} : Store).afterVisits visits).pets

theorem Reached.numbered (reached : store.Reached) : store.Numbered := by
  cases reached with
  | calls session calls => exact Store.numbered_afterCalls session numbered_empty calls
  | visits visits => exact Store.numbered_afterVisits numbered_empty visits

/-- **Searches.** Let a map hand out the pets of a store that was reached in any order. Sorted by
their ids, they are all pets of the store, each once, with smaller ids first. A search for statuses
fails with an invalid input exactly if one of the names is no status; otherwise it finds the stored
pets whose status is named, and a search for tags finds those that carry a tag of one of the names,
each once, with smaller ids first. Whether a search finds anything, and what, depends on which names
are given, and neither on their order nor on how often they are. -/
theorem searches_exact (reached : store.Reached) (enumerates : entries.Perm store.pets.toList) :
    listing entries = store.all ∧ store.Lists (fun _ => True) store.all ∧
    (∀ names : List String,
      let answered := (findByStatus names).outcome store
      let found := (listing entries).filter (·.hasStatus names)
      answered.2 = store ∧
      ((∃ text, answered.1 = .error (.invalidInput text)) ↔
        ∃ name ∈ names, PetStatus.ofName? name = none) ∧
      ((∀ name ∈ names, PetStatus.ofName? name ≠ none) → answered.1 = .ok found) ∧
      store.Lists (fun pet => ∃ status, pet.status = some status ∧ status.name ∈ names) found) ∧
    (∀ names : List String,
      let found := (listing entries).filter (·.hasTag names)
      (findByTags names).outcome store = (.ok found, store) ∧
      store.Lists (fun pet => ∃ tag ∈ pet.tags, ∃ name ∈ names, tag.name = some name) found) ∧
    ∀ names names' : List String, (∀ name, name ∈ names ↔ name ∈ names') →
      ((findByStatus names).outcome store).1.toOption =
        ((findByStatus names').outcome store).1.toOption ∧
      (findByTags names).outcome store = (findByTags names').outcome store := by
  have lists := reached.numbered.lists_all
  have byStatus (names : List String) : store.Lists
      (fun pet => ∃ status, pet.status = some status ∧ status.name ∈ names)
      (store.all.filter (·.hasStatus names)) := lists.filter fun _ => Pet.hasStatus_iff
  have byTags (names : List String) : store.Lists
      (fun pet => ∃ tag ∈ pet.tags, ∃ name ∈ names, tag.name = some name)
      (store.all.filter (·.hasTag names)) := lists.filter fun _ => Pet.hasTag_iff
  rw [listing_eq_all reached.numbered enumerates]
  refine ⟨rfl, lists, fun names => ⟨?_, findByStatus_fails_iff, fun known => ?_, byStatus names⟩,
    fun names => ⟨outcome_findByTags names store, byTags names⟩, fun names names' same => ⟨?_, ?_⟩⟩
  · rw [outcome_findByStatus]
  · rw [outcome_findByStatus_of_known known]
  · have known_iff : (∃ name ∈ names, PetStatus.ofName? name = none) ↔
        ∃ name ∈ names', PetStatus.ofName? name = none := by simp only [same]
    by_cases unknown : ∃ name ∈ names, PetStatus.ofName? name = none
    · obtain ⟨text, failed⟩ := findByStatus_fails_iff.mpr unknown
      obtain ⟨text', failed'⟩ := findByStatus_fails_iff.mpr (known_iff.mp unknown)
      rw [failed, failed']
      rfl
    · have unknown' := mt known_iff.mpr unknown
      push Not at unknown unknown'
      rw [outcome_findByStatus_of_known unknown, outcome_findByStatus_of_known unknown',
        (byStatus names).unique (byStatus names') fun pet => by simp only [same]]
  · rw [outcome_findByTags, outcome_findByTags,
      (byTags names).unique (byTags names') fun pet => by simp only [same]]

/-- The pet with the smaller id was added last and is found first, and once for both of its tags;
the one without a status is not found by one. -/
theorem searches_exact_two_pets :
    let rex : Pet :=
      { id := some 7, name := "rex", tags := [{ name := some "a" }, {}], status := some .sold }
    let tom : Pet :=
      { id := some (-2), name := "tom", tags := [{ name := some "a" }, { name := some "b" }] }
    let store := (Store.afterCalls "session" {} [⟨.addPet rex⟩, ⟨.addPet tom⟩]).pets
    let entries : List (Int64 × Pet) := [(7, rex), (-2, tom)]
    store.Reached ∧ entries.Perm store.pets.toList ∧ listing entries = [tom, rex] ∧
      ((findByStatus ["sold", "pending", "sold"]).outcome store).1 = .ok [rex] ∧
      (∃ text, ((findByStatus ["sold", "lost"]).outcome store).1 =
        .error (.invalidInput text)) ∧
      ((findByTags ["b", "a"]).outcome store).1 = .ok [tom, rex] := by
  intro rex tom store entries
  have reached : store.Reached := .calls "session" [⟨.addPet rex⟩, ⟨.addPet tom⟩]
  have enumerates : entries.Perm store.pets.toList := by decide
  obtain ⟨listed, -, statuses, tags, -⟩ := searches_exact reached enumerates
  have all : store.all = [tom, rex] := by decide
  obtain ⟨-, -, found, -⟩ := statuses ["sold", "pending", "sold"]
  obtain ⟨-, fails, -, -⟩ := statuses ["sold", "lost"]
  refine ⟨reached, enumerates, listed.trans all, (found (by decide)).trans ?_,
    fails.mpr (by decide), (congrArg Prod.fst (tags ["b", "a"]).1).trans ?_⟩
  · rw [listed, all]
    rfl
  · rw [listed, all]
    rfl

end PetStore

end Petstore
