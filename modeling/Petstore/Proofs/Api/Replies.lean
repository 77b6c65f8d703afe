import Petstore.Api.Capability
import Petstore.Proofs.Model.RoundTrip

/-!
# Replies

A result is written as JSON from which it can be read back, its members in the order of their names,
or as nothing to say where there is no value. `ResultKind.answers_reply` goes through the kinds of
results.
-/

namespace Petstore

/-- The reply is the value as JSON, members by name, and the value is what its text is read as. -/
def Reply.Carries {α : Type} (reply : Reply) (encode : α → Json) (reader : Json.Reader α)
    (value : α) : Prop :=
  reply = .json (encode value).sorted ∧ reader.document (encode value).sorted.bytes = .ok value

/-- The reply is the one for a result of the kind. -/
def ResultKind.Answers (reply : Reply) : (kind : ResultKind) → kind.Value → Prop
  | pet, (value : Pet) => reply.Carries Pet.toJson Pet.reader value
  | pets, (value : List Pet) =>
    reply.Carries (fun pets => .array (pets.map Pet.toJson)) (.list Pet.reader) value
  | upload, (value : ApiResponse) => reply.Carries ApiResponse.toJson ApiResponse.reader value
  | inventory, (value : Inventory) =>
    reply = .json (Json.object (value.toList.map fun (status, count) =>
      (status, .number (.integer count.toInt)))).sorted
  | order, (value : Order) => reply.Carries Order.toJson Order.reader value
  | session, (value : String) => reply = .json (.string value)
  | user, (value : User) => reply.Carries User.toJson User.reader value
  | done, _ => reply = .empty

theorem Reply.carries_of_reads {α : Type} {encode : α → Json} {reader : Json.Reader α}
    (reads : ∀ value, reader.Reads ((encode value).arranged .byName) value) (value : α) :
    Reply.Carries (.json (encode value).sorted) encode reader value :=
  ⟨rfl, (reads value).document⟩

/-- Every result is answered with the reply for it. -/
theorem ResultKind.answers_reply (kind : ResultKind) (value : kind.Value) :
    kind.Answers (kind.reply value) value := by
  cases kind with
  | pet => exact Reply.carries_of_reads Pet.reads value
  | pets => exact Reply.carries_of_reads (Json.Reader.reads_list_arranged Pet.reads) value
  | upload => exact Reply.carries_of_reads ApiResponse.reads value
  | order => exact Reply.carries_of_reads Order.reads value
  | user => exact Reply.carries_of_reads User.reads value
  | inventory => exact rfl
  | session => exact rfl
  | done => exact rfl

end Petstore
