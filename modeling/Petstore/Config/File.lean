/-!
# Files that cannot be read

The system says by a number why it does not give out the bytes of a file. Operators are shown the
number together with a name for the kind of fault and its usual wording.
-/

namespace Petstore

/-- Why there are no bytes to a path. -/
inductive FileFault where
  | notPermitted
  | notFound
  | inputOutput
  | noDevice
  | permissionDenied
  | notDirectory
  | isDirectory
  | invalidArgument
  | nameTooLong
  | linkLoop
  deriving DecidableEq, Repr

namespace FileFault

/-- The number that the system gives a fault. -/
def code : FileFault → Nat
  | notPermitted => 1
  | notFound => 2
  | inputOutput => 5
  | noDevice => 6
  | permissionDenied => 13
  | notDirectory => 20
  | isDirectory => 21
  | invalidArgument => 22
  | nameTooLong => 36
  | linkLoop => 40

/-- The fault of a number. -/
def ofCode? (code : Nat) : Option FileFault :=
  [notPermitted, notFound, inputOutput, noDevice, permissionDenied, notDirectory, isDirectory,
    invalidArgument, nameTooLong, linkLoop].find? (·.code == code)

theorem ofCode?_code (fault : FileFault) : ofCode? fault.code = some fault := by
  cases fault <;> rfl

/-- The name of a kind of fault. -/
def kind : FileFault → String
  | notPermitted => "PermissionDenied"
  | notFound => "NotFound"
  | inputOutput => "InputOutputError"
  | noDevice => "Uncategorized"
  | permissionDenied => "PermissionDenied"
  | notDirectory => "NotADirectory"
  | isDirectory => "IsADirectory"
  | invalidArgument => "InvalidInput"
  | nameTooLong => "InvalidFilename"
  | linkLoop => "FilesystemLoop"

/-- The wording of a fault. -/
def text : FileFault → String
  | notPermitted => "Operation not permitted"
  | notFound => "No such file or directory"
  | inputOutput => "Input/output error"
  | noDevice => "No such device or address"
  | permissionDenied => "Permission denied"
  | notDirectory => "Not a directory"
  | isDirectory => "Is a directory"
  | invalidArgument => "Invalid argument"
  | nameTooLong => "File name too long"
  | linkLoop => "Too many levels of symbolic links"

end FileFault

end Petstore
