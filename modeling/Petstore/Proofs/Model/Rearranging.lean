import Petstore.Proofs.Json.Rearranging
import Petstore.Proofs.Json.Skipping
import Petstore.Proofs.Model.RoundTrip

/-!
# Models whatever the order of members

The models are read from objects with their members in any order, with members that no field is
named for, and with fields that may be absent given as `null`, which holds of the objects within
them as well (`Model.json_rearranged`). It does not hold of the object form of a status, which is no
record: there a second member is one too many (`Pet.status_form_one_member`).
-/

namespace Petstore

open Json Reader Record Slot

/-! ## Fields -/

theorem Json.Reader.ignores_int64 : int64.Ignores fun _ _ => True :=
  (ignores_integer "i64" .int64).map Int64.ofInt

theorem Json.Reader.ignores_int32 : int32.Ignores fun _ _ => True :=
  (ignores_integer "i32" .int32).map Int32.ofInt

def Category.slots : List Slot := [.scalar "id" true, .scalar "name" true]

theorem Category.fits : Category.record.Fits slots where
  described := .cons (describes_optional ignores_int64) <|
    .cons (describes_optional ignores_string) .nil
  distinct := by decide
  independent := independent

def Tag.slots : List Slot := [.scalar "id" true, .scalar "name" true]

theorem Tag.fits : Tag.record.Fits slots where
  described := .cons (describes_optional ignores_int64) <|
    .cons (describes_optional ignores_string) .nil
  distinct := by decide
  independent := independent

def Pet.slots : List Slot := [
  .scalar "id" true,
  .record "category" true Category.slots,
  .scalar "name" false,
  .list "photoUrls" fun _ _ => True,
  .list "tags" (Rearranges Tag.slots),
  .variant "status" true ["available", "pending", "sold"]]

theorem Pet.fits : Pet.record.Fits slots where
  described := .cons (describes_optional ignores_int64) <|
    .cons (describes_optional Category.fits.ignores) <|
    .cons (describes_plain ignores_string) <|
    .cons (describes_plain ignores_string.list) <|
    .cons (describes_plain Tag.fits.ignores.list) <|
    .cons (describes_optional (ignores_choice _)) .nil
  distinct := by decide
  independent := independent

def Order.slots : List Slot := [
  .scalar "id" true,
  .scalar "petId" true,
  .scalar "quantity" true,
  .scalar "shipDate" true,
  .variant "status" true ["placed", "approved", "delivered"],
  .scalar "complete" false]

theorem Order.fits : Order.record.Fits slots where
  described := .cons (describes_optional ignores_int64) <|
    .cons (describes_optional ignores_int64) <|
    .cons (describes_optional ignores_int32) <|
    .cons (describes_optional ignores_string) <|
    .cons (describes_optional (ignores_choice _)) <|
    .cons (describes_plain ignores_boolean) .nil
  distinct := by decide
  independent := independent

def User.slots : List Slot := [
  .scalar "id" true,
  .scalar "username" false,
  .scalar "firstName" true,
  .scalar "lastName" true,
  .scalar "email" true,
  .scalar "password" true,
  .scalar "phone" true,
  .scalar "userStatus" true]

theorem User.fits : User.record.Fits slots where
  described := .cons (describes_optional ignores_int64) <|
    .cons (describes_plain ignores_string) <|
    .cons (describes_optional ignores_string) <|
    .cons (describes_optional ignores_string) <|
    .cons (describes_optional ignores_string) <|
    .cons (describes_optional ignores_string) <|
    .cons (describes_optional ignores_string) <|
    .cons (describes_optional ignores_int32) .nil
  distinct := by decide
  independent := independent

def ApiResponse.slots : List Slot := [
  .scalar "code" false,
  .scalar "type" false,
  .scalar "message" false]

theorem ApiResponse.fits : ApiResponse.record.Fits slots where
  described := .cons (describes_plain ignores_int32) <|
    .cons (describes_plain ignores_string) <|
    .cons (describes_plain ignores_string) .nil
  distinct := by decide
  independent := independent

/-! ## All models -/

namespace Model

/-- A change that does not matter where the model is expected. -/
def Rearranges : Model → Phrase → Phrase → Prop
  | category => Json.Rearranges Category.slots
  | tag => Json.Rearranges Tag.slots
  | pet => Json.Rearranges Pet.slots
  | order => Json.Rearranges Order.slots
  | user => Json.Rearranges User.slots
  | users => ChangesItem (Json.Rearranges User.slots)
  | apiResponse => Json.Rearranges ApiResponse.slots

theorem ignores (model : Model) : model.reader.Ignores model.Rearranges := by
  cases model with
  | category => exact Category.fits.ignores
  | tag => exact Tag.fits.ignores
  | pet => exact Pet.fits.ignores
  | order => exact Order.fits.ignores
  | user => exact User.fits.ignores
  | users => exact User.fits.ignores.list
  | apiResponse => exact ApiResponse.fits.ignores

theorem isCompound (model : Model) (value value' : Phrase)
    (rearranges : model.Rearranges value value') :
    value.isCompound = true ∧ value'.isCompound = true := by
  cases model with
  | users => exact ChangesItem.isCompound rearranges
  | category | tag | pet | order | user | apiResponse => exact Json.Rearranges.isCompound rearranges

/-- **Rearranged models.** Two bodies that spell an object and a rearrangement of it are read for
the same value, or neither is read. The texts that are spelled are those that are skipped where no
field is named for them, so this holds of unknown members with whatever value. -/
theorem json_rearranged (model : Model) (invocation : Invocation) :
    (∀ text : Bytes, (∃ phrase : Phrase, phrase.Spells text) ↔
      ∃ rest, Skip.value text = .ok rest ∧ ∀ b ∈ rest, Ascii.isBlank b = true) ∧
    ∀ {phrase phrase' : Phrase}, Relation.EqvGen model.Rearranges phrase phrase' →
      ∀ {text text' : Bytes}, phrase.Spells text → phrase'.Spells text' →
        ({ invocation with body := text }.json model.reader).toOption =
          ({ invocation with body := text' }.json model.reader).toOption := by
  refine ⟨fun text => exists_spells_iff, ?_⟩
  intro phrase phrase' rearranged text text' spells spells'
  have read {phrase : Phrase} {text : Bytes} (spells : phrase.Spells text) :
      ({ invocation with body := text }.json model.reader).toOption =
        model.reader.value phrase := by
    rw [Invocation.json, toOption_mapError]
    exact Means.document model.ignores.steady spells
  rw [read spells, read spells', model.ignores.value_eq model.isCompound rearranged]

/-- Of two bodies for a pet the second one has its members in another order, a number that is too
large for a member that no field is named for, a `null` for the status, and more in its tag. -/
theorem json_rearranged_pet :
    let name (text : String) : Letters := .plain (Utf8.encode text)
    let tag (members : List (Letters × Phrase)) : Letters × Phrase :=
      (name "tags", .array [.object (members ++ [(name "name", .string (name "a"))])])
    let large : Numeral :=
      { negative := false, whole := ⟨0x31, [], by decide +kernel⟩, fraction := none,
        exponent := some ⟨0x65, none, ⟨0x39, [0x39, 0x39], by decide +kernel⟩, rfl, nofun⟩,
        noLeadingZero := fun _ => rfl }
    let phrase : Phrase := .object [(name "name", .string (name "rex")), tag []]
    let phrase' : Phrase := .object [tag [(name "y", .null)],
      (name "name", .string (name "rex")), (name "status", .null), (name "x", .number large)]
    let text := Utf8.encode "\x7b\"name\":\"rex\",\"tags\":[\x7b\"name\":\"a\"\x7d]\x7d"
    let text' := Utf8.encode ("\x7b\"tags\":[\x7b\"y\":null,\"name\":\"a\"\x7d]," ++
      "\"name\":\"rex\",\"status\":null,\"x\":1e999\x7d\n")
    let pet : Pet := { name := "rex", tags := [{ name := some "a" }] }
    Relation.EqvGen Model.pet.Rearranges phrase phrase' ∧ phrase.Spells text ∧
      phrase'.Spells text' ∧ (Invocation.json { body := text } Pet.reader).toOption = some pet ∧
      (Invocation.json { body := text' } Pet.reader).toOption = some pet := by
  intro name tag large phrase phrase' text text' pet
  let rex : Letters × Phrase := (name "name", .string (name "rex"))
  let status : Letters × Phrase := (name "status", .null)
  have x : (name "x").text? = some "x" := by decide +kernel
  have y : (name "y").text? = some "y" := by decide +kernel
  have inTag : ChangesItem (Json.Rearranges Tag.slots) (tag []).2 (tag [(name "y", .null)]).2 :=
    @ChangesItem.item _ _ _ [] [] rfl rfl (.unknown .null y (by decide))
  have tagged : Json.Rearranges Pet.slots phrase (.object [rex, tag [(name "y", .null)]]) :=
    @Rearranges.within Pet.slots (.list "tags" (Json.Rearranges Tag.slots)) _ _ _ [rex] []
      (by simp [Pet.slots]) (by decide +kernel) rfl rfl inTag
  have absent : Json.Rearranges Pet.slots _ (.object [status, rex, tag [(name "y", .null)]]) :=
    @Rearranges.absent Pet.slots (.variant "status" true ["available", "pending", "sold"]) _ _
      (by simp [Pet.slots]) rfl (by decide +kernel) (by decide +kernel)
  have unknown : Json.Rearranges Pet.slots _
      (.object [(name "x", .number large), status, rex, tag [(name "y", .null)]]) :=
    .unknown (.number large) x (by decide)
  have permuted : Json.Rearranges Pet.slots
      (.object [tag [(name "y", .null)], rex, status, (name "x", .number large)].reverse) phrase' :=
    .permuted (List.reverse_perm _)
  have rearranged : Relation.EqvGen Model.pet.Rearranges phrase phrase' :=
    .trans _ _ _ (.rel _ _ tagged) <| .trans _ _ _ (.rel _ _ absent) <|
      .trans _ _ _ (.rel _ _ unknown) (.rel _ _ permuted)
  have compact : phrase.compact = text := by decide +kernel
  have compact' : phrase'.compact ++ [0x0A] = text' := by decide +kernel
  have spells : phrase.Spells text := compact ▸ phrase.spells_compact
  have spells' : phrase'.Spells text' :=
    compact' ▸ ⟨phrase'.compact, [0x0A], rfl, .flatten _, by decide +kernel⟩
  have read : (Invocation.json { body := text } Pet.reader).toOption = some pet := by decide +kernel
  obtain ⟨-, same⟩ := json_rearranged .pet {}
  exact ⟨rearranged, spells, spells', read, (same rearranged spells spells').symm.trans read⟩

end Model

/-- **The object form of a status.** A status may be given as an object with one member. With one
more member it is refused, although no field has its name. -/
theorem Pet.status_form_one_member :
    let read (status : String) := (Pet.reader.document
      (Utf8.encode ("\x7b\"name\":\"rex\",\"status\":" ++ status ++ "\x7d"))).toOption
    read "\x7b\"sold\":null\x7d" = some { name := "rex", status := some .sold } ∧
      read "\x7b\"sold\":null,\"x\":1\x7d" = none := by
  decide +kernel

end Petstore
