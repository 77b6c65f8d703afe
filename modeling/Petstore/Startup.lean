import Petstore.Config.Settings
import Petstore.Config.SocketAddress
import Petstore.Text.Pieces

/-!
# Starting up

Which settings keep the service from starting before it opens a socket. The address of the metrics
comes first, and only if there are to be metrics; the address to listen on may name a host, but it
has to have a port.
-/

namespace Petstore

/-- Why the service does not start. -/
inductive StartupError where
  | invalidMetricsAddress (address : String)
  | missingPort
  | invalidPort
  deriving DecidableEq, Repr

/-- The wording of a startup error. -/
def StartupError.text : StartupError → String
  | invalidMetricsAddress address => s!"invalid address `{address}`"
  | missingPort => "invalid socket address"
  | invalidPort => "invalid port value"

/-- The text after the last colon, if there is a colon. -/
def afterLastColon? (address : String) : Option String :=
  match Text.pieces ':' address.toList with
  | _ :: piece :: pieces => some (String.ofList ((piece :: pieces).getLastD []))
  | _ => none

/-- What is wrong with an address to listen on, as far as its form shows. -/
def listenFault? (address : String) : Option StartupError :=
  if SocketAddress.isValid address then none
  else match afterLastColon? address with
    | none => some .missingPort
    | some port => if (Text.readInt? .port port).isNone then some .invalidPort else none

namespace Settings

/-- What keeps the service from starting, if anything does. -/
def startupError? (settings : Settings) : Option StartupError :=
  let observability := settings.observability
  if observability.metricsEnabled && !SocketAddress.isValid observability.metricsAddress then
    some (.invalidMetricsAddress observability.metricsAddress)
  else listenFault? settings.listener.bindAddress

end Settings

end Petstore
