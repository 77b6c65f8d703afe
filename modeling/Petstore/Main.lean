import Petstore.Command.Run

/-!
# The command

Reads the file of settings, if one is named, runs the command, and writes what it comes to. There
is no listener behind this command: settings to serve with are validated and then refused.
-/

open Petstore

/-- The fault of a number of the system, which comes with either sign. -/
def faultOfCode? (code : UInt32) : Option FileFault :=
  FileFault.ofCode? (min code.toNat (-code).toNat)

/-- Why a file could not be read. -/
def fileFault (error : IO.Error) : FileFault :=
  let fault? := match error with
    | .hardwareFault code _ | .otherError code _ | .illegalOperation code _ => faultOfCode? code
    | .noFileOrDirectory _ code _ => faultOfCode? code
    | .permissionDenied _ code _ | .inappropriateType _ code _ | .invalidArgument _ code _
    | .resourceExhausted _ code _ | .noSuchThing _ code _ => faultOfCode? code
    | _ => none
  fault?.getD .notFound

/-- What comes of reading a file. -/
def contents (path : String) : IO (Except FileFault Bytes) := do
  try
    let bytes ← IO.FS.readBinFile path
    return .ok bytes.toList
  catch error => return .error (fileFault error)

/-- The file of settings that the arguments name. -/
def settingsFile? (arguments : List String) : Option String :=
  match Command.Arguments.read arguments with
  | .ok (.run arguments) => arguments.config
  | _ => none

def main (arguments : List String) : IO UInt32 := do
  let content ← match settingsFile? arguments with
    | some path => contents path
    | none => pure (.error .notFound)
  let outcome := Command.run (fun _ => content) arguments
  IO.print outcome.output
  IO.eprint outcome.complaint
  match outcome with
  | .serving settings =>
    IO.eprintln s!"no listener for {settings.listener.bindAddress}"
    return 1
  | _ => return outcome.exitCode
