import WatWorkbench.Files.Path

/-!
# The file system

The files and directories at and around the working directory.  Only the working directory has
known contents; the directories above it and the root are there, and nothing else outside is.

* `FileSystem`, `FileSystem.initial` — the type, and the files when there are none.
* `FileSystem.locate` — the place that a path leads to.
* `FileSystem.read`, `readText`, `write`, `makeDirectories`, `createTemporary`, `replace`, `remove` — the
  operations.
-/

namespace WatWorkbench

/-- Where something is, as names from a directory on. -/
structure Place where
  /-- How far the directory is above the working directory; `none` is the root. -/
  above : Option Nat
  /-- The names. -/
  parts : List Text
  deriving DecidableEq, Inhabited, Repr

namespace Place

/-- The working directory. -/
def working : Place := ⟨some 0, []⟩

/-- The directory that holds the place. -/
def up (p : Place) : Place :=
  match p.above, p.parts with
  | some n, [] => ⟨some (n + 1), []⟩
  | a, parts => ⟨a, parts.dropLast⟩

/-- The place of a name in a directory. -/
def child (p : Place) (name : Text) : Place := { p with parts := p.parts ++ [name] }

end Place

/-- Something in the file system. -/
inductive Node where
  /-- A directory. -/
  | directory
  /-- A file with its contents. -/
  | file (bytes : Bytes)
  deriving DecidableEq, Inhabited, Repr

/-- The operations that the system may refuse for reasons of its own. -/
inductive FileOperation where
  /-- Making a directory. -/
  | makeDirectory (place : Place)
  /-- Creating a file, or emptying it. -/
  | create (place : Place)
  /-- Writing to a file that is open. -/
  | write (place : Place)
  /-- Moving a file over another. -/
  | replace (source target : Place)
  deriving DecidableEq, Repr

/-- The files. -/
structure FileSystem where
  /-- The working directory, named in full. -/
  working : Text
  /-- What is where.  Directories named by no names are always there. -/
  nodes : List (Place × Node) := []
  /-- What the system refuses for reasons of its own, such as a full disk. -/
  refuses : FileOperation → Option FileFault.Code := fun _ => none

namespace FileSystem

/-- What is known of the places outside of the working directory: a file that is always empty. -/
def outside : List (Place × Node) :=
  [(⟨none, ["dev"]⟩, .directory), (⟨none, ["dev", "null"]⟩, .file [])]

/-- The files when the working directory is empty. -/
def initial (working : Text) : FileSystem := { working, nodes := outside }

variable (fs : FileSystem)

/-! ## Looking -/

/-- What is at a place. -/
def node? (place : Place) : Option Node :=
  if place.parts.isEmpty then some .directory
  else (fs.nodes.find? (·.1 = place)).map (·.2)

/-- Whether a directory is at a place. -/
def hasDirectory (place : Place) : Bool := fs.node? place = some .directory

/-- Longer names are refused. -/
def maxName : Nat := 255

/-- Longer paths are refused. -/
def maxPath : Nat := 4095

/-- Follows names from a place.  All but the last have to be directories. -/
def follow : List Text → Place → Except FileFault.Code Place
  | [], place => .ok place
  | name :: names, place =>
    match fs.node? place with
    | none => .error .notFound
    | some (.file _) => .error .notDirectory
    | some .directory =>
      if maxName < Path.nameSize name then .error .nameTooLong
      else follow names (if name = Path.upName then place.up else place.child name)

/-- Where the names of a path begin. -/
def start (p : Path) : Place :=
  match p.anchor with
  | .root _ => ⟨none, []⟩
  | _ => .working

/-- The place that a path leads to. -/
def locate (p : Path) : Except Failure Place := do
  p.check
  let found := if maxPath < Path.nameSize p.text then .error .nameTooLong
    else fs.follow p.parts (start p)
  found.mapError fun code => .file ⟨code, p.text, none⟩

/-- The fault that an operation on a path is refused with. -/
def fault (code : FileFault.Code) (p : Path) : Failure := .file ⟨code, p.text, none⟩

/-- The contents of a file. -/
def read (p : Path) : Except Failure Bytes := do
  match fs.node? (← fs.locate p) with
  | none => throw (fault .notFound p)
  | some .directory => throw (fault .isDirectory p)
  | some (.file bs) => return bs

/-- A text in which every line ends with the same code point, however lines ended before. -/
def unifyNewlines (t : Text) : Text := ⟨go t.points⟩
where
  /-- Replaces a carriage return, alone or with the line feed after it, by a line feed. -/
  go : List Nat → List Nat
    | 13 :: 10 :: cs => 10 :: go cs
    | 13 :: cs => 10 :: go cs
    | c :: cs => c :: go cs
    | [] => []

/-- The contents of a file as text. -/
def readText (p : Path) : Except Failure Text := do
  match Text.decode (← fs.read p) with
  | .ok t => return unifyNewlines t
  | .error f => throw (.undecodable f)

/-- Whether a failure only says that nothing is there. -/
def saysAbsent : Failure → Bool
  | .file f => f.code = .notFound || f.code = .notDirectory
  | .raised .value _ | .unencodable _ => true
  | _ => false

/-- What is at a path, if anything is. -/
def look (p : Path) : Except Failure (Option Node) :=
  match fs.locate p with
  | .ok place => .ok (fs.node? place)
  | .error e => if saysAbsent e then .ok none else .error e

/-- Whether anything is at a path. -/
def exists? (p : Path) : Except Failure Bool := do return (← fs.look p).isSome

/-! ## Changing -/

/-- The files with a node put at a place. -/
def put (place : Place) (node : Node) : FileSystem := { fs with nodes := go fs.nodes }
where
  /-- Puts it in place of what is there, or at the end. -/
  go : List (Place × Node) → List (Place × Node)
    | [] => [(place, node)]
    | (q, n) :: rest => if q = place then (q, node) :: rest else (q, n) :: go rest

/-- The files without what is at a place. -/
def remove (place : Place) : FileSystem :=
  { fs with nodes := fs.nodes.filter (·.1 ≠ place) }

/-- Fails if the system refuses an operation for reasons of its own. -/
def permit (operation : FileOperation) (p : Path) : Except Failure Unit :=
  match fs.refuses operation with
  | some code => .error (fault code p)
  | none => .ok ()

/-- Makes a directory. -/
def makeDirectory (p : Path) : Except Failure FileSystem := do
  let place ← fs.locate p
  -- the directory that would hold it has been looked at by `locate`
  if (fs.node? place).isSome then throw (fault .alreadyExists p)
  fs.permit (.makeDirectory place) p
  return fs.put place .directory

/-- Whether a failure says that nothing is at a path. -/
def saysNotFound : Failure → Bool
  | .file f => f.code = .notFound
  | _ => false

/-- Whether a failure comes from the file system. -/
def isFault : Failure → Bool
  | .file _ => true
  | _ => false

/-- Makes a directory and, where they are missing, those above it.  A directory that is there
already is left alone.  Also returns the files when it fails, since some directories may have been
made.  The list holds the last names of the path that have not been looked at, the last one first. -/
def makeDirectories (p : Path) : Except Failure Unit × FileSystem :=
  go p p.parts.length fs
where
  /-- Makes one directory, given that the one above it is there. -/
  single (p : Path) (fs : FileSystem) : Except Failure Unit × FileSystem :=
    match fs.makeDirectory p with
    | .ok fs' => (.ok (), fs')
    | .error e =>
      if !isFault e || saysNotFound e then (.error e, fs) else
      match fs.look p with
      | .ok (some .directory) => (.ok (), fs)
      | .ok _ => (.error e, fs)
      | .error e => (.error e, fs)
  /-- Makes a directory after those above it.  The first argument bounds how many there are. -/
  go (p : Path) : Nat → FileSystem → Except Failure Unit × FileSystem
    | 0, fs => single p fs
    | fuel + 1, fs =>
      match fs.makeDirectory p with
      | .error e =>
        if saysNotFound e && !p.parts.isEmpty then
          match go p.parent fuel fs with
          | (.ok (), fs) => single p fs
          | (.error e, fs) => (.error e, fs)
        else single p fs
      | .ok fs' => (.ok (), fs')

/-- Writes a file, which is created or replaced.  Also returns the files when it fails: a file that
could be opened but not written is empty. -/
def write (p : Path) (bs : Bytes) : Except Failure Unit × FileSystem :=
  let opened : Except Failure Place := do
    let place ← fs.locate p
    if fs.hasDirectory place then throw (fault .isDirectory p)
    fs.permit (.create place) p
    return place
  match opened with
  | .error e => (.error e, fs)
  | .ok place =>
    match fs.permit (.write place) p with
    | .error e => (.error e, fs.put place (.file []))
    | .ok () => (.ok (), fs.put place (.file bs))

/-! ## Temporary files -/

/-- The letters that make the name of a temporary file unlike all others, by number. -/
def temporaryLetters (number : Nat) : Text :=
  if number = 0 then "XXXXXXXX" else (Text.decimal number).padLeft 'X'.toNat 8

/-- The name of a temporary file for a name, by number. -/
def temporaryName (name : Text) (number : Nat) : Text :=
  "." ++ name ++ "." ++ temporaryLetters number ++ ".tmp"

/-- A number for which no file has that name in the directory.  One of as many numbers as there are
files, and one more, always does. -/
def freshNumber (directory : Place) (name : Text) : Nat :=
  ((List.range (fs.nodes.length + 1)).find? fun k =>
    (fs.node? (directory.child (temporaryName name k))).isNone).getD 0

/-- Creates an empty temporary file beside the file of the given name. -/
def createTemporary (directory : Path) (name : Text) :
    Except Failure (Path × Place) × FileSystem :=
  let directory := directory.full fs.working
  let number := match fs.locate directory with
    | .ok place => fs.freshNumber place name
    | .error _ => 0
  let p := directory.child (temporaryName name number)
  let created : Except Failure Place := do
    let place ← fs.locate p
    fs.permit (.create place) p
    return place
  match created with
  | .ok place => (.ok (p, place), fs.put place (.file []))
  | .error e => (.error e, fs)

/-- Writes to a temporary file. -/
def fill (p : Path) (place : Place) (bs : Bytes) : Except Failure Unit × FileSystem :=
  match fs.permit (.write place) p with
  | .ok () => (.ok (), fs.put place (.file bs))
  | .error e => (.error e, fs)

/-- Moves a file over whatever file is at a path, in one step. -/
def replace (source : Path) (place : Place) (target : Path) : Except Failure FileSystem := do
  let refuse (code : FileFault.Code) : Failure := .file ⟨code, source.text, some target.text⟩
  let found ← match fs.locate target with
    | .ok found => pure found
    | .error (.file f) => throw (refuse f.code)
    | .error e => throw e
  if target.parts.isEmpty || target.name = Path.upName then throw (refuse .busy)
  if fs.hasDirectory found then throw (refuse .isDirectory)
  match fs.refuses (.replace place found) with
  | some code => throw (refuse code)
  | none =>
    match fs.node? place with
    | some node => return (fs.remove place).put found node
    | none => throw (refuse .notFound)

end FileSystem

end WatWorkbench
