import Petstore.Api.Dispatch
import Petstore.Command.Arguments
import Petstore.Config.Loading
import Petstore.Text.Quoted

/-!
# Running the command

What the command comes to, given its arguments and the contents of the file of settings. Options
override what the file says before the settings are validated. The listing of routes shows every
route in dispatch order, with its path as clients see it below the base path.
-/

namespace Petstore

/-! ## Failures in full -/

/-- A fault as it is shown to operators: its kind, and what it is about. -/
def SettingFault.shown (fault : SettingFault) : String :=
  match fault.detail? with
  | some detail => s!"{fault.kind}({Text.quoted detail})"
  | none => fault.kind

/-- A configuration error as it is shown to operators. -/
def ConfigError.shown : ConfigError → String
  | unreadable fault =>
    s!"Io(Os \x7b code: {fault.code}, kind: {fault.kind}, message: {Text.quoted fault.text} \x7d)"
  | notUtf8 =>
    "Io(Error \x7b kind: InvalidData, message: \"stream did not contain valid UTF-8\" \x7d)"
  | malformed => "Parse"
  | invalid faults => "Validation([" ++ Text.join ", " (faults.map SettingFault.shown) ++ "])"

/-! ## The listing of routes -/

/-- The line of a route: its method, its path and its operation in columns. -/
def Route.line (route : Route α) (basePath : String) : String :=
  Text.padRight 7 route.method.name ++ " " ++ basePath ++ Text.padRight 40 route.template.text ++
    " " ++ route.name

/-- The lines of all routes in dispatch order. -/
def Router.listing (router : Router α) (basePath : String) : String :=
  String.join (router.routes.map fun route => route.line basePath ++ "\n")

namespace Command

/-! ## Help -/

/-- What the whole command is about. -/
def summary : String :=
  "Petstore API server built on a composite route table"

/-- What a subcommand is about. -/
def Subcommand.summary : Subcommand → String
  | serve => "Serve the API (default)"
  | routes => "Print every mounted route in dispatch order"

/-- What the word that asks for help is about. -/
def helpSummary : String :=
  "Print this message or the help of the given subcommand(s)"

/-- The help on a topic. -/
def help : Topic → String
  | .subcommand subcommand =>
    subcommand.summary ++ "\n\nUsage: petstore-router " ++ subcommand.name ++
      "\n\nOptions:\n  -h, --help  Print help\n"
  | .help =>
    helpSummary ++ "\n\nUsage: petstore-router help [COMMAND]...\n\nArguments:\n" ++
      "  [COMMAND]...  Print help for the subcommand(s)\n"
  | .command =>
    summary ++ "\n\nUsage: petstore-router [OPTIONS] [COMMAND]\n\nCommands:\n" ++
      "  serve   " ++ Subcommand.serve.summary ++ "\n" ++
      "  routes  " ++ Subcommand.routes.summary ++ "\n" ++
      "  help    " ++ helpSummary ++ "\n\nOptions:\n" ++
      "  -c, --config <CONFIG>        Path to a TOML config file\n" ++
      "  -b, --bind <BIND>            Override listener.bind_address\n" ++
      "      --base-path <BASE_PATH>  Override api.base_path\n" ++
      "  -h, --help                   Print help\n"

/-! ## Outcomes -/

/-- What the command comes to: it has written something and ends, or it goes on to serve. -/
inductive Outcome where
  | finished (output : String)
  | refused (error : UsageError)
  | failed (error : ConfigError)
  | serving (settings : Settings)

/-- The settings in force: those of the file, if one is named, with the options in their place.
`file` gives what comes of reading a file. -/
def Arguments.settings (arguments : Arguments) (file : String → Except FileFault Bytes) :
    Except ConfigError Settings := do
  let settings ← match arguments.config with
    | some path => Settings.ofFile (file path)
    | none => .ok {}
  let bindAddress := arguments.bind.getD settings.listener.bindAddress
  let basePath := arguments.basePath.getD settings.api.basePath
  Settings.validated { settings with listener := { bindAddress }, api := { basePath } }

/-- Do what the arguments ask for. -/
def Arguments.run (arguments : Arguments) (file : String → Except FileFault Bytes) : Outcome :=
  match arguments.settings file with
  | .error error => .failed error
  | .ok settings =>
    match arguments.subcommand with
    | .serve => .serving settings
    | .routes => .finished (serviceRouter.listing settings.api.basePath)

/-- Run the command. -/
def run (file : String → Except FileFault Bytes) (arguments : List String) : Outcome :=
  match Arguments.read arguments with
  | .error error => .refused error
  | .ok (.help topic) => .finished (help topic)
  | .ok (.run arguments) => arguments.run file

namespace Outcome

/-- The exit code of an outcome; a service that ends has ended well. -/
def exitCode : Outcome → UInt32
  | finished _ => 0
  | refused _ => 2
  | failed _ => 1
  | serving _ => 0

/-- What is written for users. -/
def output : Outcome → String
  | finished output => output
  | refused _ => ""
  | failed _ => ""
  | serving _ => ""

/-- What is written about a failure. -/
def complaint : Outcome → String
  | finished _ => ""
  | refused error =>
    s!"error: {error.text}\n\nUsage: petstore-router [OPTIONS] [COMMAND]\n\n" ++
      "For more information, try '--help'.\n"
  | failed error => s!"Error: {error.shown}\n"
  | serving _ => ""

end Outcome

end Command

end Petstore
