import WatWorkbench.Engine.WebAssembly
import WatWorkbench.Program.Execution

/-!
# The program

The program looks at the files that its command line and its configuration lead to, carries out the
command line on them, and then makes the same changes on the disk.  What it does is said in
`Execution.outcome`; here is only the passage to and from the system.

A playground that is to be served is left to whoever has a server; the program only says where it
would be.

* `Disk.explore` — the files that a path leads through.
* `Disk.apply` — makes changes on the disk.
* `Disk.run`, `main` — the program.
-/

namespace WatWorkbench.Disk

/-- The name of a place for the system. -/
def nameOf (p : Place) : String :=
  let start : Text := match p.above with
    | none => "/"
    | some n => Text.concat ("./" :: List.replicate n "../")
  ((start ++ Text.join "/" p.parts).toString?).getD ""

/-- What is at a place, of which the directory is known to be there. -/
def look (p : Place) : IO (Option Node) := do
  try
    let content ← IO.FS.readBinFile (nameOf p)
    return some (.file content.toList)
  catch
    | .inappropriateType _ _ _ => return some .directory
    | _ => return none

/-- The files with those that a path leads through. -/
def explore (files : FileSystem) (p : Path) : IO FileSystem := do
  let mut files := files
  let mut place := FileSystem.start p
  for name in p.parts do
    place := if name = Path.upName then place.up else place.child name
    if (files.node? place).isNone then
      match ← look place with
      | some node => files := files.put place node
      | none => return files
  return files

/-- Makes the directories and files that are new or other than before. -/
def apply (before after : FileSystem) : IO Unit := do
  for (place, node) in after.nodes do
    if before.node? place ≠ some node then
      match node with
      | .directory => IO.FS.createDirAll (nameOf place)
      | .file content => IO.FS.writeBinFile (nameOf place) ⟨content.toArray⟩

/-- Writes a text to a stream. -/
def say (stream : IO.FS.Stream) (t : Text) : IO Unit := do
  stream.write ⟨t.encodeAny.toArray⟩
  stream.flush

/-- The files that a command line may lead to: those that are named, the configuration, and the
outputs in the directory for outputs. -/
def gather (strings : List Text) : IO FileSystem := do
  let mut files := FileSystem.initial (Text.ofString (← IO.currentDir).toString)
  for t in Settings.fileName :: strings do files ← explore files (Path.ofText t)
  match Invocation.ofArguments strings with
  | .error _ => return files
  | .ok i =>
    if let some t := i.config then files ← explore files (Path.ofText t)
    match Execution.loadSettings i.config files with
    | .error _ => return files
    | .ok settings =>
      let directory := Path.ofText settings.outputDirectory
      files ← explore files (directory.join (Path.ofText settings.archiveName))
      for t in strings do
        files ← explore files (directory.child ((Path.ofText t).stem ++ Compiler.binarySuffix))
      return files

/-- Carries out a command line and gives the exit status. -/
def run (arguments : List String) : IO UInt32 := do
  let strings := arguments.map Text.ofString
  let before ← gather strings
  let o := Execution.outcome WebAssembly.engine strings before
  apply before o.files
  say (← IO.getStdout) o.output
  say (← IO.getStderr) o.errors
  match o.exit with
  | .ok status => return status.toUInt32
  | .error e =>
    say (← IO.getStderr) (e.message ++ "\n")
    return Execution.failure.toUInt32

end WatWorkbench.Disk

/-- The program. -/
def main (arguments : List String) : IO UInt32 := WatWorkbench.Disk.run arguments
