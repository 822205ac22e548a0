import WatWorkbench.Text.Quoted

/-!
# File faults

What the file system answers when it refuses an operation: a code, and the paths that were named.
-/

namespace WatWorkbench

/-- Why the file system refuses an operation. -/
inductive FileFault.Code where
  /-- Nothing is at the path. -/
  | notFound
  /-- The path is in use. -/
  | busy
  /-- Something is at the path already. -/
  | alreadyExists
  /-- A component of the path is not a directory. -/
  | notDirectory
  /-- A directory is at the path. -/
  | isDirectory
  /-- The operation makes no sense for these paths. -/
  | invalid
  /-- A component of the path is too long. -/
  | nameTooLong
  /-- The directory is not empty. -/
  | notEmpty
  /-- The user may not do that. -/
  | denied
  /-- There is no room left. -/
  | noSpace
  deriving DecidableEq, Repr

namespace FileFault.Code

/-- The number of a code. -/
def number : FileFault.Code → Nat
  | notFound => 2
  | busy => 16
  | alreadyExists => 17
  | notDirectory => 20
  | isDirectory => 21
  | invalid => 22
  | nameTooLong => 36
  | notEmpty => 39
  | denied => 13
  | noSpace => 28

/-- The wording of a code. -/
def message : FileFault.Code → Text
  | notFound => "No such file or directory"
  | busy => "Device or resource busy"
  | alreadyExists => "File exists"
  | notDirectory => "Not a directory"
  | isDirectory => "Is a directory"
  | invalid => "Invalid argument"
  | nameTooLong => "File name too long"
  | notEmpty => "Directory not empty"
  | denied => "Permission denied"
  | noSpace => "No space left on device"

end FileFault.Code

/-- A refused file operation. -/
structure FileFault where
  /-- Why it was refused. -/
  code : FileFault.Code
  /-- The path that was named. -/
  path : Text
  /-- The second path, of an operation on two. -/
  target : Option Text := none
  deriving DecidableEq, Repr

/-- The text of a fault: its number, its wording and its paths. -/
def FileFault.message (f : FileFault) : Text :=
  "[Errno " ++ Text.decimal f.code.number ++ "] " ++ f.code.message ++ ": " ++ f.path.quoted
    ++ match f.target with
      | some t => " -> " ++ t.quoted
      | none => Text.empty

end WatWorkbench
