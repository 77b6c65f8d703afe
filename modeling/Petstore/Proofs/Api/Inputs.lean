import Petstore.Api.Invocation
import Petstore.Proofs.Outcomes
import Petstore.Proofs.Routing.Template
import Petstore.Proofs.Text.Decimals
import Petstore.Proofs.Text.Urlencoded

/-!
# The inputs of a request

What there is to take from a request, read off the request as it came: an integer or a text that a
segment of its path stands for, the pairs of its query and of a form in its body, and the first
header of a name. The lemmas say that the invocation of a request has the same inputs, parameters of
the path included (`Invocation.int64Param_eq_ok_iff`, `Invocation.header?_ofRequest_iff` and their
like).
-/

namespace Petstore

/-- The segment of a path is a decimal text of the id, once it is decoded. -/
def Identifies (segment : String) (id : Int64) : Prop :=
  Text.Decimal (Percent.decode segment).toList id.toInt

/-- The value is made of visible characters, spaces and tabs. -/
def Headers.IsText (value : Bytes) : Prop :=
  ∀ b ∈ value, b = 0x09 ∨ 0x20 ≤ b ∧ b ≤ 0x7E

instance (value : Bytes) : Decidable (Headers.IsText value) :=
  inferInstanceAs (Decidable (∀ b ∈ value, b = 0x09 ∨ 0x20 ≤ b ∧ b ≤ 0x7E))

namespace Request

/-- The decoded pairs of the query; one that is left out has none, like an empty one. -/
def asked (request : Request) : List (String × String) :=
  Urlencoded.pairs (Utf8.encode (request.query.getD ""))

/-- The value of the first pair of a name in the form that the body is, or else in the query. -/
def field? (request : Request) (name : String) : Option String :=
  ((Urlencoded.pairs request.body).lookup name).or (request.asked.lookup name)

/-- The first header of a name is the given text, or there is no such text: a value with any other
bytes counts for nothing. -/
def HasHeader (request : Request) (name : String) : Option String → Prop
  | some text => request.headers.fields.lookup name = some (Utf8.encode text) ∧
      Headers.IsText (Utf8.encode text)
  | none => ∀ value, request.headers.fields.lookup name = some value → ¬ Headers.IsText value

/-- The body is no value of the type. -/
def Unreadable {α : Type} (request : Request) (reader : Json.Reader α) : Prop :=
  ∀ value, reader.document request.body ≠ .ok value

end Request

/-! ## Integers -/

/-- An id is read from the texts that identify it. -/
theorem identifies_iff {segment : String} {id : Int64} :
    Identifies segment id ↔
      (Text.readInt? .int64 (Percent.decode segment)).map Int64.ofInt = some id := by
  have bounds {n : Int} : Text.IntRange.int64.contains n = true ↔ -2 ^ 63 ≤ n ∧ n < 2 ^ 63 := by
    rw [Text.IntRange.contains, Bool.and_eq_true, decide_eq_true_eq, decide_eq_true_eq]
    exact and_congr_right fun _ => Int.le_iff_lt_add_one
  rw [Option.map_eq_some_iff]
  constructor
  · intro identifies
    exact ⟨id.toInt, (Text.readInt?_eq_some_iff (by decide)).mpr
      ⟨identifies, bounds.mpr ⟨id.le_toInt, id.toInt_lt⟩⟩, Int64.ofInt_toInt id⟩
  · intro accepted
    obtain ⟨n, read, rfl⟩ := accepted
    obtain ⟨written, inside⟩ := (Text.readInt?_eq_some_iff (by decide)).mp read
    obtain ⟨low, high⟩ := bounds.mp inside
    rwa [Identifies, Int64.toInt_ofInt_of_le low high]

/-! ## Headers -/

namespace Headers

theorem isHeaderTextByte_iff {b : UInt8} :
    isHeaderTextByte b = true ↔ b = 0x09 ∨ 0x20 ≤ b ∧ b ≤ 0x7E := by
  simp [isHeaderTextByte]

theorem IsText.ascii {value : Bytes} (isText : IsText value) : ∀ b ∈ value, b < 0x80 := by
  intro b inside
  rw [UInt8.lt_iff_toNat_lt]
  rcases isText b inside with rfl | ⟨-, high⟩
  · decide
  · exact Nat.lt_of_le_of_lt (UInt8.le_iff_toNat_le.mp high) (by decide)

theorem IsText.exists_encode {value : Bytes} (isText : IsText value) :
    ∃ text, Utf8.encode text = value :=
  ⟨_, Utf8.encode_ofList_of_ascii isText.ascii⟩

/-- A value is read as the text whose bytes it is, if it may be read as text. -/
theorem text?_eq_some_iff {headers : Headers} {name text : String} (lower : name.toLower = name) :
    headers.text? name = some text ↔
      headers.fields.lookup name = some (Utf8.encode text) ∧ IsText (Utf8.encode text) := by
  have allowed {value : Bytes} : value.all isHeaderTextByte = true ↔ IsText value := by
    simp only [List.all_eq_true, isHeaderTextByte_iff, IsText]
  rw [text?, value?, lower, Urlencoded.map_find?_eq_lookup, Option.bind_eq_some_iff]
  constructor
  · intro accepted
    obtain ⟨value, found, read⟩ := accepted
    rw [Option.ite_none_right_eq_some, allowed, Option.some_inj] at read
    obtain ⟨isText, rfl⟩ := read
    rw [Utf8.encode_ofList_of_ascii isText.ascii]
    exact ⟨found, isText⟩
  · intro given
    obtain ⟨found, isText⟩ := given
    refine ⟨_, found, ?_⟩
    rw [if_pos (allowed.mpr isText), Option.some_inj, ← Utf8.encode_inj,
      Utf8.encode_ofList_of_ascii isText.ascii]

theorem text?_eq_none_iff {headers : Headers} {name : String} (lower : name.toLower = name) :
    headers.text? name = none ↔
      ∀ value, headers.fields.lookup name = some value → ¬ IsText value := by
  rw [Option.eq_none_iff_forall_ne_some]
  constructor
  · intro absent value found isText
    obtain ⟨text, rfl⟩ := isText.exists_encode
    exact absent text ((text?_eq_some_iff lower).mpr ⟨found, isText⟩)
  · intro unreadable text read
    obtain ⟨found, isText⟩ := (text?_eq_some_iff lower).mp read
    exact unreadable _ found isText

end Headers

/-- There is a text or there is none. -/
theorem Request.exists_hasHeader (request : Request) (name : String) :
    ∃ value?, request.HasHeader name value? := by
  by_cases absent :
      ∀ value, request.headers.fields.lookup name = some value → ¬ Headers.IsText value
  · exact ⟨none, absent⟩
  · simp only [not_forall, not_not] at absent
    obtain ⟨value, found, isText⟩ := absent
    obtain ⟨text, rfl⟩ := isText.exists_encode
    exact ⟨some text, found, isText⟩

/-! ## Invocations -/

namespace Invocation

section Values

variable {invocation : Invocation} {name text : String} {values : List String}

theorem json_eq_ok_iff {α : Type} {reader : Json.Reader α} {value : α} :
    invocation.json reader = .ok value ↔ reader.document invocation.body = .ok value :=
  mapError_eq_ok_iff

theorem requireQuery_eq_ok_iff :
    invocation.requireQuery name = .ok text ↔ invocation.queryValue? name = some text := by
  unfold requireQuery
  cases invocation.queryValue? name with
  | none => simp
  | some value => simp

theorem requireQueryList_eq_ok_iff :
    invocation.requireQueryList name = .ok values ↔
      invocation.queryList name = values ∧ values ≠ [] := by
  unfold requireQueryList
  cases invocation.queryList name with
  | nil => simp [eq_comm]
  | cons value rest =>
    constructor
    · rintro ⟨⟩
      exact ⟨rfl, List.cons_ne_nil _ _⟩
    · rintro ⟨rfl, -⟩
      rfl

theorem readParam_eq_ok_iff {α : Type} {read : String → Option α} {value : α} :
    invocation.readParam read name = .ok value ↔
      ∃ raw, invocation.param? name = some raw ∧ read raw = some value := by
  unfold readParam
  cases invocation.param? name with
  | none => simp
  | some raw =>
    dsimp only
    cases found : read raw with
    | none => simp [found]
    | some value => simp [found]

end Values

/-! ### The path -/

section Parameters

variable {template : PathTemplate} {values : String → String} {request : Request} {name : String}
  (member : name ∈ template.paramNames)

include member

theorem param?_ofRequest :
    (ofRequest (template.captures values) request).param? name =
      some (Percent.decode (values name)) :=
  PathTemplate.getElem?_captures member values

theorem int64Param_eq_ok_iff {id : Int64} :
    (ofRequest (template.captures values) request).int64Param name = .ok id ↔
      Identifies (values name) id := by
  rw [int64Param, readParam_eq_ok_iff, param?_ofRequest member, identifies_iff]
  simp only [Option.some_inj, exists_eq_left']

theorem textParam_eq_ok_iff {text : String} :
    (ofRequest (template.captures values) request).textParam name = .ok text ↔
      Percent.decode (values name) = text := by
  rw [textParam, readParam_eq_ok_iff, param?_ofRequest member]
  simp only [Option.some_inj, exists_eq_left']

end Parameters

/-! ### The query, the form, the headers and the body -/

variable (params : PathParams) (request : Request)

theorem body_ofRequest : (ofRequest params request).body = request.body := rfl

/-- A query that is left out asks for nothing, like an empty one. -/
theorem query_ofRequest : (ofRequest params request).query = request.asked := by
  unfold ofRequest Request.asked
  cases request.query with
  | none => rfl
  | some query => rfl

theorem queryValue?_ofRequest (name : String) :
    (ofRequest params request).queryValue? name = request.asked.lookup name := by
  rw [queryValue?, query_ofRequest, Urlencoded.lookup?_eq_lookup]

theorem queryList_ofRequest (name : String) :
    (ofRequest params request).queryList name = Urlencoded.values name request.asked := by
  rw [queryList, query_ofRequest]
  rfl

theorem formField?_ofRequest (name : String) :
    (ofRequest params request).formField? name = request.field? name := by
  rw [formField?, queryValue?_ofRequest, Urlencoded.lookup?_eq_lookup]
  rfl

theorem header?_ofRequest_iff {name : String} (lower : name.toLower = name)
    {value? : Option String} :
    (ofRequest params request).header? name = value? ↔ request.HasHeader name value? := by
  cases value? with
  | some text => exact Headers.text?_eq_some_iff lower
  | none => exact Headers.text?_eq_none_iff lower

end Invocation

end Petstore
