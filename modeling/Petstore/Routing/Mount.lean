import Petstore.Text.Pieces

/-!
# Mount points

A route table is mounted under a path. The mount covers that path itself and whatever continues it
with a new segment; slashes at its end do not matter.
-/

namespace Petstore

/-- The path under which a table is mounted, without slashes at its end. -/
structure Mount where
  path : String
  deriving DecidableEq, Repr

namespace Mount

/-- The mount of a path, which may end in slashes. -/
def ofText (text : String) : Mount :=
  ⟨String.ofList (Text.trimEnd (· == '/') text.toList)⟩

/-- The mount as it is written; the root is a slash. -/
def text (mount : Mount) : String :=
  if mount.path = "" then "/" else mount.path

/-- The path is the mount or continues it with a new segment. -/
def covers (mount : Mount) (path : String) : Bool :=
  match Text.after? mount.path.toList path.toList with
  | some [] => true
  | some (c :: _) => c == '/'
  | none => false

end Mount

end Petstore
