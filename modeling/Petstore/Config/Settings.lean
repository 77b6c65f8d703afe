/-!
# Settings

What can be configured, with the values used where nothing is said.
-/

namespace Petstore

/-- Where the service listens. -/
structure ListenerSettings where
  bindAddress : String := "0.0.0.0:8080"
  deriving DecidableEq, Repr

/-- How long requests may take, in seconds. -/
structure TimeoutSettings where
  requestSecs : Nat := 30
  deriving DecidableEq, Repr

/-- How large request bodies may be, in bytes. -/
structure LimitSettings where
  maxBodyBytes : Nat := 2097152
  deriving DecidableEq, Repr

/-- The path in front of all routes. -/
structure ApiSettings where
  basePath : String := ""
  deriving DecidableEq, Repr

/-- The form of log lines. -/
inductive LogFormat where
  | pretty
  | json
  deriving DecidableEq, Repr, Inhabited

namespace LogFormat

/-- The name of a format. -/
def name : LogFormat → String
  | pretty => "pretty"
  | json => "json"

/-- The format of a name. -/
def ofName? (text : String) : Option LogFormat :=
  [pretty, json].find? (·.name == text)

end LogFormat

/-- What is logged and measured. -/
structure ObservabilitySettings where
  logLevel : String := "info"
  logFormat : LogFormat := .pretty
  metricsEnabled : Bool := false
  metricsAddress : String := "0.0.0.0:9090"
  deriving DecidableEq, Repr

/-- All settings. -/
structure Settings where
  listener : ListenerSettings := {}
  timeouts : TimeoutSettings := {}
  limits : LimitSettings := {}
  api : ApiSettings := {}
  observability : ObservabilitySettings := {}
  deriving DecidableEq, Repr

end Petstore
