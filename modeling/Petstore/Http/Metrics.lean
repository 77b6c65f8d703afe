import Petstore.Text.Pieces

/-!
# Metrics

Counters of handled requests: by operation and status, and by operation alone, as the count of a
duration histogram. Labels are operation names, never texts of requests.
-/

namespace Petstore

/-- Counters by key, in the order in which the keys first came up. -/
abbrev Tally (κ : Type) := List (κ × Nat)

namespace Tally

/-- Count one more of a key. -/
def bump [DecidableEq κ] (key : κ) : Tally κ → Tally κ
  | [] => [(key, 1)]
  | (other, n) :: rest =>
    if other = key then (other, n + 1) :: rest else (other, n) :: bump key rest

/-- The count of a key. -/
def count [DecidableEq κ] (key : κ) : Tally κ → Nat
  | [] => 0
  | (other, n) :: rest => if other = key then n else count key rest

end Tally

/-- What is counted. -/
structure Metrics where
  requests : Tally (String × Nat) := []
  durations : Tally String := []
  routesMounted : Option Nat := none
  deriving DecidableEq, Repr

namespace Metrics

/-- Count one handled request. -/
def record (metrics : Metrics) (operation : String) (status : Nat) : Metrics :=
  { metrics with
    requests := Tally.bump (operation, status) metrics.requests
    durations := Tally.bump operation metrics.durations }

/-- A label in exposition format. -/
def label (name value : String) : String :=
  name ++ "=\"" ++ value ++ "\""

/-- A sample in exposition format. -/
def sample (name : String) (labels : List String) (value : Nat) : String :=
  let labelText := if labels.isEmpty then "" else "\x7b" ++ Text.join "," labels ++ "\x7d"
  s!"{name}{labelText} {value}"

/-- The samples in exposition format, in the order of the alphabet. -/
def exposition (metrics : Metrics) : List String :=
  let requests := metrics.requests.map fun ((operation, status), n) =>
    sample "petstore_requests_total"
      [label "operation" operation, label "status" (toString status)] n
  let durations := metrics.durations.map fun (operation, n) =>
    sample "petstore_request_duration_seconds_count" [label "operation" operation] n
  let mounted := metrics.routesMounted.toList.map (sample "petstore_routes_mounted" [])
  (requests ++ durations ++ mounted).mergeSort fun a b => decide (a ≤ b)

end Metrics

end Petstore
