import Mathlib.Logic.Relation
import Petstore.Proofs.Api.Calls
import Petstore.Proofs.Text.Trimming
import Petstore.Proofs.Text.Urlencoded
import Petstore.Store.Controllers

/-!
# Parameters that list values

Several values of a query parameter come in one fragment with commas between them, or in a fragment
each. Both say the same (`Urlencoded.Splits.values_eq`), although a fragment is decoded as a whole
before its value is taken apart: a comma is decoded by itself, whatever is around it. So a search
for pets answers alike however the values that it is given are grouped
(`Invocation.lists_grouped`).
-/

namespace Petstore

/-! ## Separators -/

namespace Text

theorem split_append_comma (front back : String) :
    split ',' (front ++ "," ++ back) = split ',' front ++ split ',' back := by
  have cut : (front ++ "," ++ back).toList = front.toList ++ ',' :: back.toList := by simp
  rw [split, cut, pieces_append_cons, List.map_append]
  rfl

theorem join_split (text : String) : join "&" (split '&' text) = text := by
  have separator : "&".toList = ['&'] := rfl
  rw [← String.toList_inj, join, String.toList_intercalate, separator, split, List.map_map]
  simpa [Function.comp_def] using intercalate_pieces '&' text.toList

end Text

namespace Urlencoded

open Utf8 (encode)

/-! ## Values of a name -/

/-- A value with a comma is listed like what stands before it and what stands after it. -/
theorem values_comma (name own first second : String) :
    values name [(own, first ++ "," ++ second)] =
      values name [(own, first)] ++ values name [(own, second)] := by
  rw [← values_append]
  by_cases same : own = name
  · simp only [values, same, List.cons_append, List.nil_append, List.filter_cons_of_pos,
      beq_self_eq_true, List.filter_nil, List.flatMap_cons, List.flatMap_nil, List.append_nil,
      Text.split_append_comma]
  · simp [values, same]

theorem of_mem_values {name value : String} {pairs : List (String × String)}
    (listed : value ∈ values name pairs) :
    value ≠ "" ∧ Text.trim value = value ∧ ',' ∉ value.toList := by
  rw [values, List.mem_filter, List.mem_map, decide_eq_true_eq] at listed
  obtain ⟨⟨piece, member, rfl⟩, nonempty⟩ := listed
  obtain ⟨pair, -, member⟩ := List.mem_flatMap.mp member
  obtain ⟨chars, split, rfl⟩ := List.mem_map.mp member
  refine ⟨nonempty, Text.trim_trim _, fun comma => ?_⟩
  rw [Text.trim, String.toList_ofList, String.toList_ofList] at comma
  exact Text.not_mem_of_mem_pieces split (Text.mem_of_mem_trimBoth comma)

/-! ## Fragments with commas -/

/-- One fragment of the query, whose value has a comma, is written as two fragments of its name. -/
inductive Splits : String → String → Prop
  | split {query name first second : String} {before after : List String} :
    Text.split '&' query = before ++ (name ++ "=" ++ (first ++ "," ++ second)) :: after →
    '=' ∉ name.toList →
    Splits query
      (Text.join "&" (before ++ (name ++ "=" ++ first) :: (name ++ "=" ++ second) :: after))

theorem ampersand_not_mem_of_split {query fragment : String}
    (member : fragment ∈ Text.split '&' query) : '&' ∉ fragment.toList := by
  obtain ⟨chars, split, rfl⟩ := List.mem_map.mp member
  rw [String.toList_ofList]
  exact Text.not_mem_of_mem_pieces split

theorem Splits.values_eq {query other : String} (splits : Splits query other) (name : String) :
    values name (pairs (encode query)) = values name (pairs (encode other)) := by
  cases splits with
  | @split own first second before after fragments named =>
    have member : own ++ "=" ++ (first ++ "," ++ second) ∈ Text.split '&' query := by
      rw [fragments]
      exact List.mem_append_right before List.mem_cons_self
    have single := ampersand_not_mem_of_split member
    have clean : '&' ∉ own.toList ∧ '&' ∉ first.toList ∧ '&' ∉ second.toList := by
      simpa [not_or] using single
    have decoded : decodePart (encode (first ++ "," ++ second)) =
        decodePart (encode first) ++ "," ++ decodePart (encode second) := by
      rw [encode_append, encode_append, List.append_assoc]
      exact decodePart_append_comma _ _
    have whole := pairs_fragment named single
    have former := @pairs_fragment own first named (by simp [clean])
    have latter := @pairs_fragment own second named (by simp [clean])
    rw [← Text.join_split query, fragments, pairs_join, pairs_join, List.flatMap_append,
      List.flatMap_append, List.flatMap_cons, List.flatMap_cons, List.flatMap_cons, whole, former,
      latter, decoded]
    simp only [values_append, values_comma, List.append_assoc]

/-- However the values of the names are grouped, they are the same. -/
theorem values_of_eqvGen {query other : String} (grouped : Relation.EqvGen Splits query other)
    (name : String) : values name (pairs (encode query)) = values name (pairs (encode other)) := by
  induction grouped with
  | rel query other splits => exact splits.values_eq name
  | refl query => rfl
  | symm query other _ ih => exact ih.symm
  | trans query between other _ _ ih ih' => exact ih.trans ih'

end Urlencoded

/-! ## Searches -/

/-- A search binds nothing of an invocation but the values that it searches for. -/
theorem Operation.bind_search {operation : Operation} {invocation other : Invocation}
    (searches : operation = .findPetsByStatus ∨ operation = .findPetsByTags)
    (same : ∀ name, invocation.queryList name = other.queryList name) :
    operation.bind invocation = operation.bind other := by
  rcases searches with rfl | rfl
  · simp only [bind, Invocation.requireQueryList, same]
  · simp only [bind, Invocation.requireQueryList, same]

namespace Invocation

open Urlencoded (Splits)

/-- **Lists of values.** Splitting a fragment at a comma of its value leaves the values of every
parameter alone, and those of two queries between which an ampersand is put are the values of the
first and then those of the second. No value is empty, has blanks around it or has a comma. So a
search for statuses or for tags is answered alike, whatever the controllers, if its values are only
grouped in another way. -/
theorem lists_grouped (params : PathParams) (request : Request) :
    let list (query name : String) :=
      (ofRequest params { request with query := some query }).queryList name
    (∀ query other name, Splits query other → list query name = list other name) ∧
    (∀ former latter name,
      list (former ++ "&" ++ latter) name = list former name ++ list latter name) ∧
    (∀ query name value, value ∈ list query name →
      value ≠ "" ∧ Text.trim value = value ∧ ',' ∉ value.toList) ∧
    ∀ {σ : Type} (router : Router Operation) (controllers : Controllers σ) (state : σ)
      (route : Route Operation) (captured : PathParams) (query other : String),
      router.resolve request.method request.path = .matched route captured →
      route.action = .findPetsByStatus ∨ route.action = .findPetsByTags →
      Relation.EqvGen Splits query other →
        router.dispatch controllers { request with query := some query } state =
          router.dispatch controllers { request with query := some other } state := by
  refine ⟨fun query other name splits => splits.values_eq name, fun former latter name => ?_,
    fun query name value listed => Urlencoded.of_mem_values listed,
    fun router controllers state route captured query other resolved searches grouped => ?_⟩
  · refine (congrArg (Urlencoded.values name) (Urlencoded.pairs_append former latter)).trans ?_
    exact Urlencoded.values_append name _ _
  · have same (name : String) :
        (ofRequest captured { request with query := some query }).queryList name =
          (ofRequest captured { request with query := some other }).queryList name :=
      Urlencoded.values_of_eqvGen grouped name
    have called (given : String) : router.call { request with query := some given } =
        (route.action.bind (ofRequest captured { request with query := some given })).mapError
          .invalidInput :=
      Router.call_of_matched resolved
    rw [Router.dispatch, Router.dispatch, called, called, Operation.bind_search searches same]

/-- The comma stands between an unfinished character and an unfinished escape. -/
theorem lists_grouped_broken_escapes :
    let request : Request := { method := .get, path := "/pet/findByTags" }
    let query := "tags=%E2%82,%4&tags=b"
    let other := "tags=%E2%82&tags=%4&tags=b"
    Splits query other ∧
      serviceRouter.resolve request.method request.path =
        .matched Operation.findPetsByTags.route ∅ ∧
      (ofRequest ∅ { request with query := some query }).queryList "tags" = ["\uFFFD", "%4", "b"] ∧
      (ofRequest ∅ { request with query := some other }).queryList "tags" = ["\uFFFD", "%4", "b"] ∧
      serviceRouter.dispatch (Store.controllers "session") { request with query := some query } {} =
        serviceRouter.dispatch (Store.controllers "session") { request with query := some other }
          {} := by
  intro request query other
  have fragments : Text.split '&' query =
      [] ++ ("tags" ++ "=" ++ ("%E2%82" ++ "," ++ "%4")) :: ["tags=b"] := by decide
  have splits : Splits query other := .split fragments (by decide)
  have resolved : serviceRouter.resolve request.method request.path =
      .matched Operation.findPetsByTags.route ∅ := by
    have text : request.path = Operation.findPetsByTags.template.text := by decide
    have plain : Operation.findPetsByTags.template.paramNames = [] := rfl
    rw [text]
    exact Operation.resolve_text plain
  have listed : (ofRequest ∅ { request with query := some query }).queryList "tags" =
      ["\uFFFD", "%4", "b"] := by decide
  obtain ⟨same, -, -, answered⟩ := lists_grouped ∅ request
  exact ⟨splits, resolved, listed, (same query other "tags" splits).symm.trans listed,
    answered serviceRouter (Store.controllers "session") {} _ ∅ query other resolved
      (Or.inr rfl) (.rel query other splits)⟩

end Invocation

end Petstore
