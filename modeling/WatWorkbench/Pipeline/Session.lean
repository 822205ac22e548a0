import WatWorkbench.Catalog
import WatWorkbench.Compiler
import WatWorkbench.Packaging.Bundle
import WatWorkbench.Sandbox

/-!
# Pipelines

A pipeline owns a current artifact and a log book.  Its operations capture everything that is
written to its channel meanwhile, their own progress included.

* Compiling is allowed at any time.  It replaces the artifact and the log; when the source is refused
  both stay, and the refusal is added to the log.  The output of the last run is gone in any case.
* Running needs an artifact and never changes it.
* Packaging needs an artifact and changes no state.

A failure that an operation expects is logged and then passed on.  Any other failure is passed on
as it is, and the state then tells what was under way.

* `Pipeline`, `Pipeline.create` — the pipelines.
* `Pipeline.compile`, `run`, `compileAndRun`, `package`, `loadExample`, `clearLogs` — the operations.
-/

namespace WatWorkbench

/-- What a pipeline is set up with. -/
structure Pipeline (M I : Type) where
  /-- The number of its session, its log book and its engine's history. -/
  id : Nat
  /-- The engine. -/
  engine : Engine M I
  /-- The channel that everything is written to. -/
  channel : Text := channelName

namespace Pipeline

variable {M I H α : Type}

/-- A new pipeline. -/
def create (engine : Engine M I) (channel : Text := channelName) :
    Act (World M I H) (Pipeline M I) := do
  return ⟨← World.fresh, engine, channel⟩

variable (p : Pipeline M I)

/-! ## Messages -/

/-- Says that compiling begins. -/
def compiling : Text := "Compiling WebAssembly Text Format (WAT) to WASM..."

/-- Says that compiling has succeeded. -/
def compiled : Text := "Successfully compiled WAT to WASM!"

/-- Says that running begins. -/
def running : Text := "Running WebAssembly module..."

/-- Says that running has succeeded. -/
def completed : Text := "WebAssembly execution completed!"

/-- Says that packaging has succeeded. -/
def packaged : Text := "Successfully created the WASM package!"

/-- Says that there is nothing to run. -/
def nothingToRun : Text := "No compiled WASM module available. Please compile first."

/-- Says that there is nothing to package. -/
def nothingToPackage : Text := "Please compile the code first before downloading."

/-- Writes a message of a kind to the channel. -/
def emit (kind : LogKind) (message : Text) : Act (World M I H) Unit :=
  World.write {
    logger := p.channel
    level := if kind = .error then Level.error else Level.info
    message := .text message
    kind := some (.kind kind) }

/-- Runs an operation while the channel is captured into the pipeline's log. -/
def captured (body : Act (World M I H) α) : Act (World M I H) α :=
  World.capturing p.channel p.id body

/-- What the pipeline holds. -/
def session : Act (World M I H) (Session M) := World.session p.id

/-- Changes what the pipeline holds. -/
def changeSession (change : Session M → Session M) : Act (World M I H) Unit :=
  World.changeSession p.id change

/-- Changes where the pipeline is. -/
def enter (state : PipelineState) : Act (World M I H) Unit := p.changeSession ({ · with state })

/-- The entries of the pipeline's log. -/
def logs : Act (World M I H) (List LogEntry) := do return (← World.book p.id).entries

/-! ## Compiling -/

/-- Compiles a source and logs it. -/
def compileLogged (source : Text) : Act (World M I H) (Artifact M) := do
  p.emit .info compiling
  match ← World.attempt (Compiler.compileSource p.id p.engine p.channel source) with
  | .ok a =>
    p.emit .success compiled
    return a
  | .error e =>
    if let .stage .compile m := e then p.emit .error ("Compilation error: " ++ m)
    throw e

/-- Compiles a source and makes the artifact the current one.  The log is captured into a book of
its own, which replaces the pipeline's log or, if the source is refused, is added to it. -/
def compile (source : Text) : Act (World M I H) (Artifact M) := do
  let before ← p.session
  p.changeSession ({ · with state := .compiling, output := "", lastResult := none })
  let scratch ← World.fresh
  match ← World.attempt (World.capturing p.channel scratch (p.compileLogged source)) with
  | .ok a =>
    p.changeSession ({ · with artifact := some a })
    let entries := (← World.book scratch).entries
    World.changeBook p.id (·.replace entries)
    p.enter .compiled
    return a
  | .error e =>
    if let .stage .compile _ := e then
      p.enter before.state
      let entries := (← World.book scratch).entries
      World.changeBook p.id (·.extend entries)
    throw e

/-! ## Running -/

/-- The current artifact.  That there is none is logged. -/
def requireArtifact (message : Text) : Act (World M I H) (Artifact M) := do
  match (← p.session).artifact with
  | some a => return a
  | none =>
    p.captured (p.emit .error message)
    throw (.stage .state message)

/-- Any failure of a run, as one of running. -/
def asRuntime : Failure → Failure
  | .stage .runtime m => .stage .runtime m
  | e => .stage .runtime e.message

/-- Runs an artifact and logs it. -/
def runLogged (a : Artifact M) (imports : ImportTable (Import (World M I H))) :
    Act (World M I H) Results := do
  p.emit .info running
  match ← World.attempt (Sandbox.runModule p.id p.engine p.channel a.module imports) with
  | .ok results =>
    p.changeSession ({ · with lastResult := some results })
    let output ← World.settle results.text
    p.changeSession ({ · with output })
    p.emit .success completed
    return results
  | .error e =>
    p.enter .runFailed
    p.emit .error ("Runtime error: " ++ e.message)
    throw (asRuntime e)

/-- Runs the current artifact. -/
def run (imports : ImportTable (Import (World M I H))) : Act (World M I H) Results := do
  let a ← p.requireArtifact nothingToRun
  p.enter .running
  let results ← p.captured (p.runLogged a imports)
  p.enter .ran
  return results

/-- Compiles a source and, if that succeeds, runs it. -/
def compileAndRun (source : Text) (imports : ImportTable (Import (World M I H))) :
    Act (World M I H) Results := do
  let _ ← p.compile source
  p.run imports

/-! ## Packaging -/

/-- The package of an artifact, which is also written to a file if there is a path. -/
def packageArtifact (a : Artifact M) (path : Option Path) : Act (World M I H) Bytes := do
  let data ← Packaging.ofArtifact p.channel a
  if let some path := path then World.onFiles (Packaging.publish data path)
  return data

/-- The package of the current artifact. -/
def package (path : Option Path) : Act (World M I H) Bytes := do
  let a ← p.requireArtifact nothingToPackage
  p.captured do
    match ← World.attempt (p.packageArtifact a path) with
    | .ok data =>
      p.emit .success packaged
      return data
    | .error e =>
      if let .stage .packaging m := e then
        p.emit .error ("Failed to create download package: " ++ m)
      throw e

/-! ## Examples and the log -/

/-- The source of an example, which is noted in the log. -/
def loadExample (key : Value) : Act (World M I H) Text := do
  let e ← World.settle (Catalog.find key)
  p.captured (p.emit .info ("Loaded " ++ key.plain ++ " example"))
  return e.source

/-- Empties the log and forgets the output. -/
def clearLogs : Act (World M I H) Unit := do
  World.changeBook p.id (·.clear)
  p.changeSession ({ · with output := "" })

/-- The texts in the log, of one kind or of all. -/
def messages (kind : Option LogKind) : Act (World M I H) (List Text) := do
  return (← World.book p.id).messages kind

end Pipeline

end WatWorkbench
