import Petstore.Proofs.Api.Requests
import Petstore.Proofs.Text.Urlencoded

/-!
# Forms

The query of a request and the form in its body are read for the pairs that were encoded in them, in
whatever way their characters were written. A name stands for the value of its first pair, also when
that value is empty, and what the form does not name is looked for in the query.
`Request.form_bound` says so of single names, and of the call to which a form for a pet comes.
-/

namespace Petstore

open Urlencoded (EncodesPairs)

namespace Request

variable {request : Request} {form : String}
  {asked given : List (String × String)}

theorem asked_of_encodesPairs (encodes : EncodesPairs asked (request.query.getD "")) :
    request.asked = asked :=
  Urlencoded.pairs_of_encodesPairs encodes

theorem field?_of_encodesPairs (encodes : EncodesPairs asked (request.query.getD ""))
    (encodesForm : EncodesPairs given form) (body : request.body = Utf8.encode form)
    (name : String) :
    request.field? name = (given.lookup name).or (asked.lookup name) := by
  rw [field?, asked_of_encodesPairs encodes, body, Urlencoded.pairs_of_encodesPairs encodesForm]

end Request

/-- **Forms.** Let the query of a request and its body encode lists of pairs. Then a parameter of
the query is the value of its first pair, and a field of the form is the value of its first pair in
the body or else in the query. A form for a pet is passed to the controllers with the name and the
status that are selected in this way, each on its own. -/
theorem Request.form_bound {request : Request} {form : String}
    {asked given : List (String × String)}
    (encodes : EncodesPairs asked (request.query.getD ""))
    (encodesForm : EncodesPairs given form) (body : request.body = Utf8.encode form) :
    let field (name : String) := (given.lookup name).or (asked.lookup name)
    (∀ params name,
      (Invocation.ofRequest params request).queryValue? name = asked.lookup name ∧
      (Invocation.ofRequest params request).formField? name = field name) ∧
    ∀ (segment : String) (petId : Int64),
      request.method = .post → request.path = "/pet/" ++ segment → Denotes segment petId →
      ∀ {σ : Type} (controllers : Controllers σ) (state : σ),
        serviceRouter.dispatch controllers request state =
          Call.perform ⟨.updatePetWithForm petId (field "name") (field "status")⟩ controllers
            state := by
  intro field
  have fields := field?_of_encodesPairs encodes encodesForm body
  refine ⟨fun params name => ⟨?_, ?_⟩,
    fun segment petId method path denotes σ controllers state => ?_⟩
  · rw [Invocation.queryValue?_ofRequest, asked_of_encodesPairs encodes]
  · rw [Invocation.formField?_ofRequest, fields]
  · exact Router.dispatch_of_call_ok
      (call_updatePetWithForm method path denotes (fields "name") (fields "status"))

/-- The form names an empty name, and the query a status that has to be escaped. -/
theorem Request.form_bound_empty_name :
    let asked := [("status", "50% & ü=1+1"), ("name", "rex"), ("status", "sold")]
    let given := [("name", ""), ("name", "rex")]
    let query := "status=50%25+%26+%C3%BC%3D1%2B1&name=rex&status=sold"
    let request : Request :=
      { method := .post, path := "/pet/7", query := some query,
        body := Utf8.encode "name=&name=rex" }
    EncodesPairs asked query ∧ EncodesPairs given "name=&name=rex" ∧ Denotes "7" 7 ∧
      serviceRouter.dispatch (.recording none) request [] =
        (.ok .empty, [.ofCapability (.updatePetWithForm 7 (some "") (some "50% & ü=1+1"))]) := by
  intro asked given query request
  have written : Urlencoded.formPairs asked = query := by decide
  have encodes : EncodesPairs asked query := written ▸ Urlencoded.encodesPairs_formPairs asked
  have writtenForm : Urlencoded.formPairs given = "name=&name=rex" := by decide
  have encodesForm : EncodesPairs given "name=&name=rex" :=
    writtenForm ▸ Urlencoded.encodesPairs_formPairs given
  have denotes : Denotes "7" 7 := by decide
  have sent : request.body = Utf8.encode "name=&name=rex" := rfl
  obtain ⟨-, passed⟩ := Request.form_bound encodes encodesForm sent
  exact ⟨encodes, encodesForm, denotes, passed "7" 7 rfl rfl denotes (.recording none) []⟩

end Petstore
