import Petstore.Api.Dispatch
import Petstore.Proofs.Routing.Mounting

/-!
# The order of mounts

Mounts that cover one path lie one below the other, since the pieces of each are the first pieces of
the path (`Mount.covers_or_covers`). So where no mount covers another, at most one table is asked
about a path, and the order in which tables are mounted does not show (`resolve_of_perm`).
-/

namespace Petstore

namespace Mount

/-- Neither of two mounts covers the other as it is written. -/
structure Apart (mount other : Mount) : Prop where
  left : mount.covers other.text = false
  right : other.covers mount.text = false

instance (mount other : Mount) : Decidable (mount.Apart other) :=
  decidable_of_iff (mount.covers other.text = false ∧ other.covers mount.text = false)
    ⟨fun apart => ⟨apart.1, apart.2⟩, fun apart => ⟨apart.left, apart.right⟩⟩

/-- What covers the path of a mount covers it as it is written, since only the root is below a mount
without pieces. -/
theorem covers_text_of_covers_path {mount other : Mount}
    (covered : mount.covers other.path = true) : mount.covers other.text = true := by
  unfold text
  split
  · next root =>
    rw [root, covers_iff_eq_or] at covered
    rw [covers_iff_eq_or]
    have empty : mount.path.toList = [] := by
      rcases covered with whole | ⟨rest, whole⟩
      · exact whole.symm
      · exact (List.append_eq_nil_iff.mp whole.symm).1
    exact Or.inr ⟨[], by rw [empty]; rfl⟩
  · exact covered

/-- Of two mounts that cover one path, one covers the other. -/
theorem covers_or_covers {mount other : Mount} {path : String}
    (covered : mount.covers path = true) (covered' : other.covers path = true) :
    mount.covers other.path = true ∨ other.covers mount.path = true := by
  rw [covers_iff_pieces] at covered covered' ⊢
  rw [covers_iff_pieces]
  exact List.prefix_or_prefix_of_prefix covered covered'

theorem Apart.not_covers {mount other : Mount} (apart : mount.Apart other) {path : String}
    (covered : mount.covers path = true) : other.covers path = false := by
  rw [← Bool.not_eq_true]
  intro covered'
  rcases covers_or_covers covered covered' with below | above
  · exact absurd (covers_text_of_covers_path below) (by simp [apart.left])
  · exact absurd (covers_text_of_covers_path above) (by simp [apart.right])

end Mount

/-- No mount of a list of tables covers the mount of another table of the list. -/
def RouteTable.MountedApart {α : Type} (tables : List (RouteTable α)) : Prop :=
  tables.Pairwise fun table other => table.mount.Apart other.mount

namespace Router

variable {α : Type} {tables others : List (RouteTable α)}

/-- Of tables that are mounted apart, at most one is asked about a path. -/
theorem covering_eq_nil_or_singleton (apart : RouteTable.MountedApart tables) (path : String) :
    tables.filter (·.mount.covers path) = [] ∨
      ∃ table, tables.filter (·.mount.covers path) = [table] := by
  have kept := apart.filter (·.mount.covers path)
  have covered : ∀ table ∈ tables.filter (·.mount.covers path), table.mount.covers path = true :=
    fun table member => (List.mem_filter.mp member).2
  generalize tables.filter (·.mount.covers path) = asked at kept covered
  match asked with
  | [] => exact Or.inl rfl
  | [table] => exact Or.inr ⟨table, rfl⟩
  | table :: other :: rest =>
    have pair : table.mount.Apart other.mount := (List.pairwise_cons.mp kept).1 other (by simp)
    have uncovered := pair.not_covers (covered table (by simp))
    rw [covered other (by simp)] at uncovered
    cases uncovered

theorem coveringRoutes_of_perm (apart : RouteTable.MountedApart tables)
    (shuffled : tables.Perm others) (path : String) :
    coveringRoutes ⟨others⟩ path = coveringRoutes ⟨tables⟩ path := by
  have asked := shuffled.filter (·.mount.covers path)
  unfold coveringRoutes
  rcases covering_eq_nil_or_singleton apart path with none | ⟨table, one⟩
  · rw [none] at asked ⊢
    rw [List.nil_perm.mp asked]
  · rw [one] at asked ⊢
    rw [List.singleton_perm.mp asked]

/-- **The order of mounts does not show.** Tables of which no mount covers another resolve every
request alike in whatever order they are mounted. The tables of the service are of this kind. -/
theorem resolve_of_perm :
    (∀ {α : Type} (tables others : List (RouteTable α)),
      RouteTable.MountedApart tables → tables.Perm others →
      ∀ method path, resolve ⟨others⟩ method path = resolve ⟨tables⟩ method path) ∧
    RouteTable.MountedApart serviceRouter.tables ∧
    ∀ others, serviceRouter.tables.Perm others →
      ∀ method path, resolve ⟨others⟩ method path = serviceRouter.resolve method path := by
  have alike {β : Type} (tables others : List (RouteTable β))
      (apart : RouteTable.MountedApart tables) (shuffled : tables.Perm others) (method : Method)
      (path : String) : resolve ⟨others⟩ method path = resolve ⟨tables⟩ method path := by
    rw [resolve, resolve, coveringRoutes_of_perm apart shuffled path]
  have service : RouteTable.MountedApart serviceRouter.tables := by
    unfold RouteTable.MountedApart
    decide
  exact ⟨alike, service, fun others shuffled => alike _ others service shuffled⟩

/-- Mounts that share letters but no segment may change places. -/
theorem resolve_of_perm_pet_petfood :
    let getPet : Route Unit := ⟨.get, ⟨[.literal "pet", .param "id"]⟩, "getPet", ()⟩
    let getFood : Route Unit := ⟨.get, ⟨[.literal "petfood", .param "id"]⟩, "getFood", ()⟩
    let pets : RouteTable Unit := ⟨"pet", ⟨"/pet"⟩, [getPet]⟩
    let food : RouteTable Unit := ⟨"petfood", ⟨"/petfood"⟩, [getFood]⟩
    RouteTable.MountedApart [pets, food] ∧ [pets, food].Perm [food, pets] ∧
      resolve ⟨[food, pets]⟩ .head "/petfood/7" =
        .matched getFood ((∅ : PathParams).insert "id" "7") := by
  intro getPet getFood pets food
  have apart : RouteTable.MountedApart [pets, food] := by
    unfold RouteTable.MountedApart
    decide
  have shuffled : [pets, food].Perm [food, pets] := List.Perm.swap food pets []
  have resolved : resolve ⟨[pets, food]⟩ .head "/petfood/7" =
      .matched getFood ((∅ : PathParams).insert "id" "7") := by
    simp only [pets, food, getPet, getFood]
    rfl
  have alike := resolve_of_perm.1 [pets, food] [food, pets] apart shuffled .head "/petfood/7"
  exact ⟨apart, shuffled, alike.trans resolved⟩

end Router

end Petstore
