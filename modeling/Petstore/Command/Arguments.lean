/-!
# Arguments of the command

Options come first, each at most once, and then possibly a subcommand, which takes nothing. Each
option takes a value, which follows it or is attached to it: `--bind V`, `--bind=V`, `-b V`, `-bV`,
`-b=V`. A value that follows must not look like an option. The leftmost fault is reported, and help
that is asked for before it comes first.

A value that follows its option is examined only when the next option is read or the arguments end.
So a subcommand that is asked for help gives it whatever the value right before it is.
-/

namespace Petstore.Command

/-! ## What can be asked for -/

/-- An option that takes a value. -/
inductive OptionName where
  | config
  | bind
  | basePath
  deriving DecidableEq, Repr

/-- The long name of an option. -/
def OptionName.long : OptionName → String
  | config => "config"
  | bind => "bind"
  | basePath => "base-path"

/-- The option of a long name. -/
def OptionName.ofLong? (name : String) : Option OptionName :=
  [config, bind, basePath].find? (·.long == name)

/-- The option of a letter. -/
def OptionName.ofLetter? : Char → Option OptionName
  | 'c' => some config
  | 'b' => some bind
  | _ => none

/-- What the command does. -/
inductive Subcommand where
  | serve
  | routes
  deriving DecidableEq, Repr

/-- The name of a subcommand. -/
def Subcommand.name : Subcommand → String
  | serve => "serve"
  | routes => "routes"

/-- The subcommand of a name. -/
def Subcommand.ofName? (name : String) : Option Subcommand :=
  [serve, routes].find? (·.name == name)

/-- The arguments once they are read. -/
structure Arguments where
  config : Option String := none
  bind : Option String := none
  basePath : Option String := none
  subcommand : Subcommand := .serve
  deriving DecidableEq, Repr

/-- What there is help on: the whole command, a subcommand, or the word that asks for help. -/
inductive Topic where
  | command
  | subcommand (subcommand : Subcommand)
  | help
  deriving DecidableEq, Repr

/-- What the command is used for: to do something, or to show help. -/
inductive Usage where
  | run (arguments : Arguments)
  | help (topic : Topic)
  deriving DecidableEq, Repr

/-- Why arguments are refused. -/
inductive UsageError where
  | unexpected (argument : String)
  | missingValue (option : OptionName)
  | repeated (option : OptionName)
  deriving DecidableEq, Repr

/-- The wording of a usage error. -/
def UsageError.text : UsageError → String
  | unexpected argument => s!"unexpected argument '{argument}' found"
  | missingValue option => s!"a value is required for '--{option.long}' but none was supplied"
  | repeated option => s!"the argument '--{option.long}' cannot be used multiple times"

/-! ## Reading -/

/-- One argument by its form. -/
inductive Word where
  | separator
  | long (name : String) (value : Option String)
  | short (letter : Char) (attached : List Char)
  | plain
  deriving DecidableEq, Repr

/-- The form of an argument. -/
def Word.ofText (argument : String) : Word :=
  match argument.toList with
  | ['-', '-'] => separator
  | '-' :: '-' :: cs =>
    match cs.dropWhile (· ≠ '=') with
    | _ :: value => long (String.ofList (cs.takeWhile (· ≠ '='))) (some (String.ofList value))
    | [] => long (String.ofList cs) none
  | '-' :: letter :: attached => short letter attached
  | _ => plain

/-- The value attached to a letter, with or without an equals sign before it. -/
def attachedValue? : List Char → Option String
  | [] => none
  | '=' :: value => some (String.ofList value)
  | value => some (String.ofList value)

namespace Arguments

/-- The value of an option. -/
def value? (arguments : Arguments) : OptionName → Option String
  | .config => arguments.config
  | .bind => arguments.bind
  | .basePath => arguments.basePath

/-- The arguments with an option set. -/
def set (arguments : Arguments) (value : String) : OptionName → Arguments
  | .config => { arguments with config := some value }
  | .bind => { arguments with bind := some value }
  | .basePath => { arguments with basePath := some value }

/-- Take in the value of an option. The path of a file cannot be empty. -/
def put (arguments : Arguments) (option : OptionName) (value : String) :
    Except UsageError Arguments :=
  if (arguments.value? option).isSome then .error (.repeated option)
  else if option = .config ∧ value = "" then .error (.missingValue option)
  else .ok (arguments.set value option)

end Arguments

/-- How far the arguments are read: those taken in, and the option read last with its value, if that
stood by itself and was not examined yet. -/
structure Progress where
  taken : Arguments := {}
  held : Option (OptionName × String) := none
  deriving DecidableEq, Repr

namespace Progress

/-- The arguments with the one that was held taken in. -/
def settle (progress : Progress) : Except UsageError Arguments :=
  match progress.held with
  | none => .ok progress.taken
  | some (option, value) => progress.taken.put option value

/-- The end of the arguments, with a subcommand. -/
def finish (progress : Progress) (subcommand : Subcommand) : Except UsageError Usage :=
  progress.settle.map fun arguments => .run { arguments with subcommand }

/-- What stands behind a separator: nothing. -/
def readSeparated (progress : Progress) (subcommand : Subcommand) :
    List String → Except UsageError Usage
  | [] => progress.finish subcommand
  | argument :: _ => .error (.unexpected argument)

/-- What stands behind a subcommand, which can be asked for help. -/
def readSubcommand (progress : Progress) (subcommand : Subcommand) :
    List String → Except UsageError Usage
  | [] => progress.finish subcommand
  | argument :: rest =>
    match Word.ofText argument with
    | .separator => progress.readSeparated subcommand rest
    | .long "help" none => .ok (.help (.subcommand subcommand))
    | .short 'h' _ => .ok (.help (.subcommand subcommand))
    | _ => .error (.unexpected argument)

/-- The topic of a name. -/
def topic? (name : String) : Option Topic :=
  if name = "help" then some .help else (Subcommand.ofName? name).map .subcommand

/-- What stands behind the word `help`: nothing, or one topic. -/
def readTopic : List String → Except UsageError Usage
  | [] => .ok (.help .command)
  | name :: rest =>
    match topic? name, rest with
    | some topic, [] => .ok (.help topic)
    | some _, argument :: _ => .error (.unexpected argument)
    | none, _ => .error (.unexpected name)

/-- A word that is neither an option nor its value. -/
def readPlain (progress : Progress) (argument : String) (rest : List String) :
    Except UsageError Usage :=
  match Subcommand.ofName? argument with
  | some subcommand => progress.readSubcommand subcommand rest
  | none => if argument = "help" then readTopic rest else .error (.unexpected argument)

/-- Help on the whole command, asked for by an option. -/
def askHelp (progress : Progress) : Except UsageError Usage :=
  progress.settle.map fun _ => .help .command

/-- One more option with the value attached to it. -/
def attach (progress : Progress) (option : OptionName) (value : String) :
    Except UsageError Progress := do
  let arguments ← progress.settle
  return { taken := ← arguments.put option value }

/-- Read the arguments that are left; `awaiting` is an option whose value has to follow. -/
def read (progress : Progress) (awaiting : Option OptionName) :
    List String → Except UsageError Usage
  | [] =>
    match awaiting with
    | some option => .error (.missingValue option)
    | none => progress.finish .serve
  | argument :: rest =>
    match awaiting, Word.ofText argument with
    | some option, .plain => read { progress with held := some (option, argument) } none rest
    | some option, _ => .error (.missingValue option)
    | none, .separator => progress.readSeparated .serve rest
    | none, .long name value =>
      match OptionName.ofLong? name, value with
      | some option, some value => do read (← progress.attach option value) none rest
      | some option, none => do read { taken := ← progress.settle } (some option) rest
      | none, none => if name = "help" then progress.askHelp else .error (.unexpected argument)
      | none, some _ => .error (.unexpected argument)
    | none, .short letter attached =>
      match OptionName.ofLetter? letter, attachedValue? attached with
      | some option, some value => do read (← progress.attach option value) none rest
      | some option, none => do read { taken := ← progress.settle } (some option) rest
      | none, _ => if letter = 'h' then progress.askHelp else .error (.unexpected argument)
    | none, .plain => progress.readPlain argument rest

end Progress

/-- Read the arguments of the command. -/
def Arguments.read (arguments : List String) : Except UsageError Usage :=
  Progress.read {} none arguments

end Petstore.Command
