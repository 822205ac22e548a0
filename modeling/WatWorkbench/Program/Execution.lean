import WatWorkbench.Config.File
import WatWorkbench.Pipeline.Session
import WatWorkbench.Program.Colour
import WatWorkbench.Program.Invocation

/-!
# Execution

What the program does when it is asked for a task: what it prints, which files it changes and with
which status it ends.  The log of the pipeline is printed in colours, and failures that are expected
end up on the standard error stream.

* `Console`, `Terminal` — what has been printed.
* `Execution.perform` — carries out a task.
* `Execution.outcome` — carries out a whole command line.
-/

namespace WatWorkbench

/-- A playground that is to be served. -/
structure Service where
  /-- The file name of the archive. -/
  archiveName : Text
  /-- The execution budget, if there is one. -/
  fuel : Option Int
  /-- The host. -/
  host : Text
  /-- The port. -/
  port : Int
  deriving DecidableEq, Inhabited, Repr

/-- What the program has said and what it is to go on with. -/
structure Console where
  /-- What has been printed on the standard output stream. -/
  output : Text := ""
  /-- The playground that is to be served, if any. -/
  service : Option Service := none
  deriving DecidableEq, Inhabited, Repr

namespace Execution

variable {M I : Type}

/-- Something that the program does. -/
abbrev Step (M I α : Type) := Act (World M I Console) α

/-! ## Printing -/

/-- Prints a line on the standard output stream. -/
def print (line : Text) : Step M I Unit :=
  modify fun w => { w with host := { w.host with output := w.host.output ++ line ++ "\n" } }

/-- Prints a line on the standard error stream. -/
def printError (line : Text) : Step M I Unit :=
  modify fun w => { w with logs := w.logs.printError line }

/-- The status after success. -/
def success : Nat := 0

/-- The status after a failure that is expected. -/
def failure : Nat := 1

/-- Prints a failure. -/
def fail (e : Failure) : Step M I Nat := do
  printError (Colour.red.paint ("Error: " ++ e.message))
  return failure

/-- Prints the log of a pipeline. -/
def printLog (p : Pipeline M I) : Step M I Unit := do
  for e in ← p.logs do print (e.kind.colour.paint e.message)

/-- Whether a failure is expected while a source is worked on. -/
def isExpected (e : Failure) : Bool :=
  e.isStage || e.isSystem || match e with
    | .undecodable _ => true
    | _ => false

/-! ## Sources and outputs -/

/-- The keys of the examples. -/
def knownKeys : Text := Text.join ", " Catalog.keys

/-- Says that there is no example with a key. -/
def unknownExample (key : Text) : Text :=
  "unknown example '" ++ key ++ "'. Available: " ++ knownKeys

/-- The name and the text of a source, which is an example or a file. -/
def readSource (source : Text) : Step M I (Text × Text) := do
  if source.startsWith Invocation.examplePrefix then
    let key := source.drop Invocation.examplePrefix.length
    match Catalog.find? key with
    | some e => return (key, e.source)
    | none => throw (.raised .system (unknownExample key))
  else
    let path := Path.ofText source
    let text ← World.settle ((← get).files.readText path)
    return (path.stem, text)

/-- The path of an output: the one that is given, or a name in the directory for outputs. -/
def outputPath (settings : Settings) (given : Option Text) (name : Text) : Path :=
  match given with
  | some t => if t.isEmpty then fallback else Path.ofText t
  | none => fallback
where
  /-- The name in the directory for outputs. -/
  fallback : Path := (Path.ofText settings.outputDirectory).join (Path.ofText name)

/-- Writes a file and, where they are missing, makes the directories above it. -/
def writeFile (p : Path) (bs : Bytes) : Step M I Unit := do
  World.onFiles (·.makeDirectories p.parent)
  World.onFiles (·.write p bs)

/-! ## Tasks -/

/-- Lists the examples, or shows the one with a key. -/
def examples (key : Option Text) : Step M I Nat := do
  match key with
  | none =>
    for e in Catalog.examples do print (e.key.padRight ' '.toNat 12 ++ " " ++ e.title)
    return success
  | some key =>
    match Catalog.find? key with
    | some e =>
      print e.source
      return success
    | none =>
      printError ("Error: " ++ unknownExample key)
      return failure

/-- Does something with a source through a new pipeline.  If that fails as expected, the log and the
failure are printed; otherwise the rest is done with the pipeline. -/
def withPipeline {α : Type} (engine : Option Int → Engine M I) (settings : Settings)
    (work : Pipeline M I → Step M I α) (rest : Pipeline M I → α → Step M I Nat) :
    Step M I Nat := do
  let p ← Pipeline.create (engine settings.fuel)
  match ← World.attempt (work p) with
  | .ok a => rest p a
  | .error e =>
    if isExpected e then
      printLog p
      fail e
    else throw e

variable (engine : Option Int → Engine M I) (settings : Settings)

/-- Compiles a source to a file. -/
def compile (source : Text) (output : Option Text) : Step M I Nat :=
  withPipeline engine settings
    (fun p => do
      let (name, text) ← readSource source
      return (name, (← p.compile text).binary))
    (fun p (name, binary) => do
      let path := outputPath settings output (name ++ Compiler.binarySuffix)
      match ← World.attempt (writeFile path binary) with
      | .ok () =>
        printLog p
        print ("Wrote " ++ Text.decimal binary.length ++ " bytes to '" ++ path.text ++ "'.")
        return success
      | .error e => if e.isSystem then fail e else throw e)

/-- Compiles a source and runs it. -/
def run (source : Text) : Step M I Nat :=
  withPipeline engine settings
    (fun p => do
      let (_, text) ← readSource source
      p.compileAndRun text [])
    (fun p _ => do
      printLog p
      print (← p.session).output
      return success)

/-- Compiles a source to an archive. -/
def package (source : Text) (output : Option Text) : Step M I Nat :=
  let path := outputPath settings output settings.archiveName
  withPipeline engine settings
    (fun p => do
      let (_, text) ← readSource source
      let _ ← p.compile text
      p.package (some path))
    (fun p _ => do
      printLog p
      print ("Wrote package to '" ++ path.text ++ "'.")
      return success)

/-- Says where the playground is served, and has it served. -/
def serve (host : Text) (port : Int) : Step M I Nat := do
  print ("Serving playground at http://" ++ host ++ ":" ++ Text.integer port ++ "/")
  let service : Service := ⟨settings.archiveName, settings.fuel, host, port⟩
  modify fun w => { w with host := { w.host with service := some service } }
  return success

/-- Carries out a task that needs settings. -/
def performWith (task : Task) : Step M I Nat :=
  match task with
  | .examples key => examples key
  | .compile source output => compile engine settings source output
  | .run source => run engine settings source
  | .package source output => package engine settings source output
  | .serve host port => serve settings host port

/-! ## Everything -/

/-- The settings of the configuration file that is given, or of the one in the working directory. -/
def loadSettings (config : Option Text) (files : FileSystem) : Except Failure Settings :=
  match config with
  | some t => Settings.load files (Path.ofText t)
  | none => Settings.find files { anchor := .working files.working }

/-- Has all log records told on the standard error stream. -/
def beVerbose : Step M I Unit := do
  let handler : Handler := ⟨← World.fresh, 0, .stream false⟩
  modify fun w => { w with logs := w.logs.configure LogTree.rootName fun l =>
    { l with level := Level.debug, handlers := l.handlers ++ [handler] } }

/-- Carries out what the program is asked to do, and gives the exit status. -/
def perform (i : Invocation) : Step M I Nat := do
  if i.isVerbose then beVerbose
  match i.task with
  | .examples key => examples key
  | task =>
    match loadSettings i.config (← get).files with
    | .ok settings => performWith engine settings task
    | .error (.config message) =>
      printError ("Error: " ++ message)
      return failure
    | .error e => throw e

/-- How the program ends. -/
structure Outcome where
  /-- The exit status, or a failure that nobody expected. -/
  exit : Except Failure Nat
  /-- What has been printed on the standard output stream. -/
  output : Text
  /-- What has been printed on the standard error stream. -/
  errors : Text
  /-- The files. -/
  files : FileSystem
  /-- The playground that is to be served, if any. -/
  service : Option Service := none

/-- Carries out a command line. -/
def outcome (strings : List Text) (files : FileSystem) : Outcome :=
  match Invocation.ofArguments strings with
  | .error reply => ⟨.ok reply.status, reply.output, reply.errors, files, none⟩
  | .ok i =>
    let (exit, w) := (perform engine i).run { files, host := {} }
    ⟨exit, w.host.output, Text.concat (w.logs.errorLines.map (· ++ "\n")), w.files, w.host.service⟩

end Execution

end WatWorkbench
