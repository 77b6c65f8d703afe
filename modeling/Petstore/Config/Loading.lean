import Petstore.Config.File
import Petstore.Config.Validation
import Petstore.Text.Utf8
import Petstore.Toml.Document

/-!
# Loading settings

Settings from TOML. Sections and entries that are not given keep their defaults, unknown ones are
passed over, and a value of the wrong type refuses the whole text. A section may also be given as
an array of its entries in declaration order.
-/

namespace Petstore

open Toml (Value)

/-! ## Values of settings -/

/-- Reads one value, or refuses it. -/
abbrev SettingReader (α : Type) := Value → Option α

namespace SettingReader

def text : SettingReader String
  | .string text => some text
  | _ => none

def natural : SettingReader Nat
  | .integer n => if 0 ≤ n then some n.toNat else none
  | _ => none

def boolean : SettingReader Bool
  | .boolean b => some b
  | _ => none

/-- Nothing inside, as the value of a variant that carries nothing. -/
def isVoid : Value → Bool
  | .array items => items.isEmpty
  | .table entries => entries.isEmpty
  | _ => false

/-- A format by its name, as a string or as the only key of a table. -/
def logFormat : SettingReader LogFormat
  | .string name => LogFormat.ofName? name
  | .table [(name, value)] => if isVoid value then LogFormat.ofName? name else none
  | _ => none

end SettingReader

/-- One entry of a section: its key, and the change that its value makes. -/
structure SettingEntry (α : Type) where
  key : String
  apply : Value → α → Option α

/-- An entry from a reader and the place for what it reads. -/
def SettingEntry.of (key : String) (reader : SettingReader β) (set : β → α → α) :
    SettingEntry α where
  key
  apply value settings := (reader value).map fun read => set read settings

/-- A section from its entries: each that is given makes its change. -/
def readSection (entries : List (SettingEntry α)) (blank : α) : SettingReader α
  | .table given =>
    entries.foldlM
      (fun settings entry =>
        match given.lookup entry.key with
        | some value => entry.apply value settings
        | none => some settings)
      blank
  | .array values =>
    (entries.zip values).foldlM (fun settings pair => pair.1.apply pair.2 settings) blank
  | .datetime => some blank
  | _ => none

/-! ## Sections -/

def ListenerSettings.reader : SettingReader ListenerSettings :=
  readSection
    [.of "bind_address" .text fun bindAddress _ => { bindAddress }]
    {}

def TimeoutSettings.reader : SettingReader TimeoutSettings :=
  readSection
    [.of "request_secs" .natural fun requestSecs _ => { requestSecs }]
    {}

def LimitSettings.reader : SettingReader LimitSettings :=
  readSection
    [.of "max_body_bytes" .natural fun maxBodyBytes _ => { maxBodyBytes }]
    {}

def ApiSettings.reader : SettingReader ApiSettings :=
  readSection
    [.of "base_path" .text fun basePath _ => { basePath }]
    {}

def ObservabilitySettings.reader : SettingReader ObservabilitySettings :=
  readSection
    [.of "log_level" .text fun logLevel s => { s with logLevel },
      .of "log_format" .logFormat fun logFormat s => { s with logFormat },
      .of "metrics_enabled" .boolean fun metricsEnabled s => { s with metricsEnabled },
      .of "metrics_address" .text fun metricsAddress s => { s with metricsAddress }]
    {}

/-- All settings from the value of a whole text. -/
def Settings.reader : SettingReader Settings :=
  readSection
    [.of "listener" ListenerSettings.reader fun listener s => { s with listener },
      .of "timeouts" TimeoutSettings.reader fun timeouts s => { s with timeouts },
      .of "limits" LimitSettings.reader fun limits s => { s with limits },
      .of "api" ApiSettings.reader fun api s => { s with api },
      .of "observability" ObservabilitySettings.reader fun observability s =>
        { s with observability }]
    {}

/-! ## Texts and files -/

/-- Why settings cannot be loaded. -/
inductive ConfigError where
  | unreadable (fault : FileFault)
  | notUtf8
  | malformed
  | invalid (faults : List SettingFault)
  deriving DecidableEq, Repr

/-- The wording of a configuration error. -/
def ConfigError.text : ConfigError → String
  | unreadable fault => s!"IO error: {fault.text} (os error {fault.code})"
  | notUtf8 => "IO error: stream did not contain valid UTF-8"
  | malformed => "Parse error"
  | invalid faults => "Validation failed: " ++ Text.join ", " (faults.map SettingFault.text)

namespace Settings

/-- The settings, if they make sense. -/
def validated (settings : Settings) : Except ConfigError Settings :=
  match settings.faults with
  | [] => .ok settings
  | faults => .error (.invalid faults)

/-- The settings that a text describes, whether or not they make sense. -/
def ofText (text : String) : Except ConfigError Settings :=
  match (Toml.parse? text).bind fun entries => reader (.table entries) with
  | some settings => .ok settings
  | none => .error .malformed

/-- The settings that a text describes, if they make sense. -/
def parse (text : String) : Except ConfigError Settings :=
  ofText text >>= validated

/-- The settings in what came of reading a file, whether or not they make sense. -/
def ofFile (content : Except FileFault Bytes) : Except ConfigError Settings :=
  match content with
  | .error fault => .error (.unreadable fault)
  | .ok bytes =>
    match Utf8.decode? bytes with
    | .ok text => ofText text
    | .error _ => .error .notUtf8

/-- The settings in what came of reading a file, if they make sense. -/
def load (content : Except FileFault Bytes) : Except ConfigError Settings :=
  ofFile content >>= validated

end Settings

end Petstore
