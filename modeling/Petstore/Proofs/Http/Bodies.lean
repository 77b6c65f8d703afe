import Petstore.Http.App

/-!
# Bodies of requests

A body is read as a whole if all its pieces together stay within the limit and no failure ends them
(`BodyStream.read_eq`). What comes of it depends on the bytes and the failure, and not on where the
pieces begin.
-/

namespace Petstore

/-- Pieces fit into a limit exactly if they fit into it together. -/
theorem collectChunks_eq (chunks : List Bytes) (limit : Nat) :
    collectChunks chunks limit =
      if chunks.flatten.length ≤ limit then .ok chunks else .error .tooLarge := by
  induction chunks generalizing limit with
  | nil => rw [collectChunks, List.flatten_nil, List.length_nil, if_pos (Nat.zero_le limit)]
  | cons chunk chunks ih =>
    rw [collectChunks, ih, List.flatten_cons, List.length_append]
    by_cases long : limit < chunk.length
    · have beyond : ¬ chunk.length + chunks.flatten.length ≤ limit := by omega
      rw [if_pos long, if_neg beyond]
    · have remaining : chunks.flatten.length ≤ limit - chunk.length ↔
          chunk.length + chunks.flatten.length ≤ limit := by omega
      simp only [if_neg long, remaining]
      split
      · rfl
      · rfl

/-- A body that is too long is refused as such, whether or not a failure ends it. -/
theorem BodyStream.read_eq (body : BodyStream) (limit : Nat) :
    body.read limit =
      if body.chunks.flatten.length ≤ limit then
        match body.failure with
        | some text => .error (.failed text)
        | none => .ok body.chunks.flatten
      else .error .tooLarge := by
  rw [read, collectChunks_eq]
  by_cases fits : body.chunks.flatten.length ≤ limit
  · cases failed : body.failure with
    | none => simp only [if_pos fits]
    | some text => simp only [if_pos fits]
  · simp only [if_neg fits]

theorem BodyStream.read_of_le {body : BodyStream} {limit : Nat} (whole : body.failure = none)
    (fits : body.chunks.flatten.length ≤ limit) : body.read limit = .ok body.chunks.flatten := by
  rw [read_eq, if_pos fits, whole]

end Petstore
