import Petstore.Config.Settings
import Petstore.Config.SocketAddress
import Petstore.Text.Pieces

/-!
# Validation of settings

Which settings make sense. All faults are found, in a fixed order.
-/

namespace Petstore

/-- What is wrong with settings. -/
inductive SettingFault where
  | invalidBindAddress (address : String)
  | zeroRequestTimeout
  | zeroBodyLimit
  | invalidBasePath (path : String)
  | unknownLogLevel (level : String)
  | invalidMetricsAddress (address : String)
  deriving DecidableEq, Repr

namespace SettingFault

/-- The wording of a fault. -/
def text : SettingFault → String
  | invalidBindAddress address => s!"invalid listener.bind_address `{address}`"
  | zeroRequestTimeout => "timeouts.request_secs must be greater than zero"
  | zeroBodyLimit => "limits.max_body_bytes must be greater than zero"
  | invalidBasePath path => s!"api.base_path `{path}` must start with '/'"
  | unknownLogLevel level => s!"unknown observability.log_level `{level}`"
  | invalidMetricsAddress address => s!"invalid observability.metrics_address `{address}`"

/-- The name of the kind of fault. -/
def kind : SettingFault → String
  | invalidBindAddress _ => "InvalidBindAddress"
  | zeroRequestTimeout => "ZeroRequestTimeout"
  | zeroBodyLimit => "ZeroBodyLimit"
  | invalidBasePath _ => "InvalidBasePath"
  | unknownLogLevel _ => "UnknownLogLevel"
  | invalidMetricsAddress _ => "InvalidMetricsAddress"

/-- What the fault is about, where its kind does not say it. -/
def detail? : SettingFault → Option String
  | invalidBindAddress address => some address
  | zeroRequestTimeout => none
  | zeroBodyLimit => none
  | invalidBasePath path => some path
  | unknownLogLevel level => some level
  | invalidMetricsAddress address => some address

end SettingFault

/-- The levels of logging. -/
def logLevels : List String := ["trace", "debug", "info", "warn", "error"]

namespace Settings

/-- One fault, if a condition holds. -/
def faultIf (condition : Bool) (fault : SettingFault) : List SettingFault :=
  if condition then [fault] else []

/-- All faults of the settings. -/
def faults (settings : Settings) : List SettingFault :=
  let bindAddress := settings.listener.bindAddress
  let basePath := settings.api.basePath
  let logLevel := settings.observability.logLevel
  let metricsAddress := settings.observability.metricsAddress
  faultIf (!SocketAddress.isValid bindAddress) (.invalidBindAddress bindAddress) ++
    faultIf (settings.timeouts.requestSecs == 0) .zeroRequestTimeout ++
    faultIf (settings.limits.maxBodyBytes == 0) .zeroBodyLimit ++
    faultIf (basePath != "" && basePath.toList.head? != some '/') (.invalidBasePath basePath) ++
    faultIf (!logLevels.contains logLevel.toLower) (.unknownLogLevel logLevel) ++
    faultIf (settings.observability.metricsEnabled && !SocketAddress.isValid metricsAddress)
      (.invalidMetricsAddress metricsAddress)

end Settings

end Petstore
