import Petstore.Api.Invocation
import Petstore.Model.Encoding
import Petstore.Proofs.Json.Records

/-!
# Models come back as they were written

Each model is read back from what is written of it (`Pet.reads` and its like): an absent part of a
record has no member and stays absent, every other part is read by the field that bears its name,
and the order of the members does not matter. `Model.json_written` states this for the bodies of
invocations.
-/

namespace Petstore

open Json (MemberOrder)

variable {sorting : MemberOrder}

/-! ## Parts of records -/

namespace Json

theorem Reader.reads_int64_arranged (n : Int64) :
    Reader.int64.Reads ((ofInt64 n).arranged sorting) n :=
  (reads_int64 n).arranged (by rw [ofInt64, ofInt, sorted])

theorem Reader.reads_int32_arranged (n : Int32) :
    Reader.int32.Reads ((ofInt32 n).arranged sorting) n :=
  (reads_int32 n).arranged (by rw [ofInt32, ofInt, sorted])

theorem Reader.reads_string_arranged (text : String) :
    Reader.string.Reads ((Json.string text).arranged sorting) text :=
  (reads_string text).arranged (by rw [sorted])

theorem Reader.reads_boolean_arranged (b : Bool) :
    Reader.boolean.Reads ((Json.boolean b).arranged sorting) b :=
  (reads_boolean b).arranged (by rw [sorted])

/-- A list is read in either order if its items are. -/
theorem Reader.reads_list_arranged {α : Type} {reader : Reader α} {encode : α → Json}
    (each : ∀ a, reader.Reads ((encode a).arranged sorting) a) (items : List α) :
    (Reader.list reader).Reads ((Json.array (items.map encode)).arranged sorting) items := by
  rw [arranged_array, List.map_map]
  exact reads_list fun a _ => each a

end Json

open Json Record Reader

theorem PetStatus.reads (status : PetStatus) :
    PetStatus.reader.Reads (status.toJson.arranged sorting) status := by
  refine Reads.arranged ?_ (by rw [toJson, sorted])
  cases status with
  | available => exact reads_choice rfl
  | pending => exact reads_choice rfl
  | sold => exact reads_choice rfl

theorem OrderStatus.reads (status : OrderStatus) :
    OrderStatus.reader.Reads (status.toJson.arranged sorting) status := by
  refine Reads.arranged ?_ (by rw [toJson, sorted])
  cases status with
  | placed => exact reads_choice rfl
  | approved => exact reads_choice rfl
  | delivered => exact reads_choice rfl

/-! ## Records

The fields of each record set different parts of it, and the members that are written come in the
order of the fields. -/

theorem Category.independent : Category.record.Independent := by
  simp [Independent, record, Field.plain, Field.commutes_of_set]

theorem Category.reads (category : Category) :
    Category.reader.Reads (category.toJson.arranged sorting) category := by
  refine reads_arranged independent (by decide) ?_ (by simp [record, Field.plain])
  exact (Fills.member? reads_int64_arranged).append (Fills.member? reads_string_arranged)

theorem Tag.independent : Tag.record.Independent := by
  simp [Independent, record, Field.plain, Field.commutes_of_set]

theorem Tag.reads (tag : Tag) : Tag.reader.Reads (tag.toJson.arranged sorting) tag := by
  refine reads_arranged independent (by decide) ?_ (by simp [record, Field.plain])
  exact (Fills.member? reads_int64_arranged).append (Fills.member? reads_string_arranged)

theorem Pet.independent : Pet.record.Independent := by
  simp [Independent, record, Field.plain, Field.mandatory, Field.commutes_of_set]

theorem Pet.reads (pet : Pet) : Pet.reader.Reads (pet.toJson.arranged sorting) pet := by
  refine reads_arranged independent (by decide) ?_ (by simp [record, Field.plain, Field.mandatory])
  exact (Fills.member? reads_int64_arranged)
    |>.append (Fills.member? Category.reads)
    |>.append ((Fills.member (reads_string_arranged _)).append <|
      (Fills.member (reads_list_arranged reads_string_arranged _)).append <|
      Fills.member (reads_list_arranged Tag.reads _))
    |>.append (Fills.member? PetStatus.reads)

theorem Order.independent : Order.record.Independent := by
  simp [Independent, record, Field.plain, Field.commutes_of_set]

theorem Order.reads (placed : Order) :
    Order.reader.Reads (placed.toJson.arranged sorting) placed := by
  refine reads_arranged independent (by decide) ?_ (by simp [record, Field.plain])
  exact (Fills.member? reads_int64_arranged)
    |>.append (Fills.member? reads_int64_arranged)
    |>.append (Fills.member? reads_int32_arranged)
    |>.append (Fills.member? reads_string_arranged)
    |>.append (Fills.member? OrderStatus.reads)
    |>.append (Fills.member (reads_boolean_arranged _))

theorem User.independent : User.record.Independent := by
  simp [Independent, record, Field.plain, Field.commutes_of_set]

theorem User.reads (user : User) : User.reader.Reads (user.toJson.arranged sorting) user := by
  refine reads_arranged independent (by decide) ?_ (by simp [record, Field.plain])
  exact (Fills.member? reads_int64_arranged)
    |>.append (Fills.member (reads_string_arranged _))
    |>.append (Fills.member? reads_string_arranged)
    |>.append (Fills.member? reads_string_arranged)
    |>.append (Fills.member? reads_string_arranged)
    |>.append (Fills.member? reads_string_arranged)
    |>.append (Fills.member? reads_string_arranged)
    |>.append (Fills.member? reads_int32_arranged)

theorem ApiResponse.independent : ApiResponse.record.Independent := by
  simp [Independent, record, Field.plain, Field.commutes_of_set]

theorem ApiResponse.reads (response : ApiResponse) :
    ApiResponse.reader.Reads (response.toJson.arranged sorting) response := by
  refine reads_arranged independent (by decide) ?_ (by simp [record, Field.plain])
  exact (Fills.member (reads_int32_arranged _)).append <|
    (Fills.member (reads_string_arranged _)).append <|
    Fills.member (reads_string_arranged _)

/-! ## All models -/

/-- What is written and read as JSON: the models, and the lists of users that are created at
once. -/
inductive Model where
  | category
  | tag
  | pet
  | order
  | user
  | users
  | apiResponse

namespace Model

/-- The values of a model. -/
abbrev Value : Model → Type
  | category => Category
  | tag => Tag
  | pet => Pet
  | order => Order
  | user => User
  | users => List User
  | apiResponse => ApiResponse

/-- A value as JSON. -/
def encode : (model : Model) → model.Value → Json
  | category => Category.toJson
  | tag => Tag.toJson
  | pet => Pet.toJson
  | order => Order.toJson
  | user => User.toJson
  | users => Json.ofList User.toJson
  | apiResponse => ApiResponse.toJson

/-- How a model is read. -/
def reader : (model : Model) → Reader model.Value
  | category => Category.reader
  | tag => Tag.reader
  | pet => Pet.reader
  | order => Order.reader
  | user => User.reader
  | users => .list User.reader
  | apiResponse => ApiResponse.reader

/-- The body that carries a value. -/
def written (model : Model) (sorting : MemberOrder) (value : model.Value) : Bytes :=
  ((model.encode value).arranged sorting).bytes

theorem reads (model : Model) (value : model.Value) :
    model.reader.Reads ((model.encode value).arranged sorting) value := by
  cases model with
  | category => exact Category.reads value
  | tag => exact Tag.reads value
  | pet => exact Pet.reads value
  | order => exact Order.reads value
  | user => exact User.reads value
  | users => exact reads_list_arranged User.reads value
  | apiResponse => exact ApiResponse.reads value

/-- Every value is read back from what is written of it, with the members in declaration order or
sorted by name, as a request carries it (`Request.withJson`). So whatever body is read, writing the
result and reading it again changes nothing. -/
theorem json_written (model : Model) (invocation : Invocation) :
    (∀ (sorting : MemberOrder) (value : model.Value),
      { invocation with body := model.written sorting value }.json model.reader = .ok value) ∧
    (∀ (params : PathParams) (request : Request) (value : model.Value),
      (Invocation.ofRequest params (request.withJson (model.encode value))).json model.reader =
        .ok value) ∧
    ∀ sorting : MemberOrder,
      (invocation.json model.reader).bind (fun value =>
          { invocation with body := model.written sorting value }.json model.reader) =
        invocation.json model.reader := by
  have document (sorting : MemberOrder) (value : model.Value) :
      model.reader.document (model.written sorting value) = .ok value :=
    (model.reads value).document
  have back (sorting : MemberOrder) (value : model.Value) :
      { invocation with body := model.written sorting value }.json model.reader = .ok value := by
    rw [Invocation.json, document]
    rfl
  refine ⟨back, fun params request value => ?_, fun sorting => ?_⟩
  · have body : (request.withJson (model.encode value)).body = model.written .byName value := rfl
    rw [Invocation.json, Invocation.ofRequest, body, document]
    rfl
  · cases invocation.json model.reader with
    | error failure => rfl
    | ok value => exact back sorting value

end Model

end Petstore
