import WatWorkbench.Artifact
import WatWorkbench.Engine.Basic
import WatWorkbench.Files.System
import WatWorkbench.Log.Capture

/-!
# The world of the pipelines

Everything that operations read and change: the loggers, the files, what each pipeline holds, what
each engine was asked, and whatever host functions keep for themselves.  An operation that fails
leaves behind what it changed before.

* `Session` — what a pipeline holds.
* `World` — everything together.
* `World.log`, `World.capturing` — writing to a logger, and capturing a channel meanwhile.
* `World.compileText`, `World.loadBinary`, … — asking an engine, with the history kept.
-/

namespace WatWorkbench

/-- What running a module gave, by export. -/
abbrev Results := List (Text × Value)

/-- Where a pipeline is. -/
inductive PipelineState where
  /-- Nothing has been compiled. -/
  | idle
  /-- A source is being compiled. -/
  | compiling
  /-- There is an artifact that has not been run. -/
  | compiled
  /-- The artifact is being run. -/
  | running
  /-- The artifact has been run. -/
  | ran
  /-- Running the artifact failed. -/
  | runFailed
  deriving DecidableEq, Inhabited, Repr

/-- The name of a state. -/
def PipelineState.name : PipelineState → Text
  | idle => "idle"
  | compiling => "compiling"
  | compiled => "compiled"
  | running => "running"
  | ran => "ran"
  | runFailed => "run_failed"

/-- What a pipeline holds. -/
structure Session (M : Type) where
  /-- Where it is. -/
  state : PipelineState := .idle
  /-- The current artifact. -/
  artifact : Option (Artifact M) := none
  /-- What the last run gave. -/
  lastResult : Option Results := none
  /-- The text of what the last run gave. -/
  output : Text := ""

/-- Everything that operations read and change.  `M` and `I` are the engines' modules and instances,
`H` is what host functions keep for themselves. -/
structure World (M I H : Type) where
  /-- The loggers and what they have written. -/
  logs : LogState := {}
  /-- The files. -/
  files : FileSystem
  /-- What each pipeline holds. -/
  sessions : Nat → Session M := fun _ => {}
  /-- What each engine was asked. -/
  histories : Nat → History M I := fun _ => []
  /-- What host functions keep for themselves. -/
  host : H

namespace World

variable {M I H α : Type}

/-- Gives a result or fails. -/
def settle (r : Except Failure α) : Act (World M I H) α := fun w => (r, w)

/-- Runs an operation and gives its outcome, whatever that is. -/
def attempt (body : Act (World M I H) α) : Act (World M I H) (Except Failure α) := fun w =>
  let (r, w) := body w
  (.ok r, w)

/-! ## Logging -/

/-- Writes a record. -/
def write (r : LogRecord) : Act (World M I H) Unit := fun w =>
  let (outcome, logs) := w.logs.write r
  (outcome, { w with logs })

/-- A number that nothing in the world has yet. -/
def fresh : Act (World M I H) Nat := fun w =>
  let (n, logs) := w.logs.fresh
  (.ok n, { w with logs })

/-- A log book. -/
def book (id : Nat) : Act (World M I H) LogBook := do return (← get).logs.books id

/-- Changes a log book. -/
def changeBook (id : Nat) (change : LogBook → LogBook) : Act (World M I H) Unit :=
  modify fun w => { w with logs := w.logs.setBook id (change (w.logs.books id)) }

/-- Writes a template with its arguments. -/
def log (logger : Text) (level : Int) (template : Text) (args : List Value := []) :
    Act (World M I H) Unit :=
  write { logger, level, message := .text template, args }

/-- Runs an operation while a channel is captured into a book.  The channel is given back however
the operation ends. -/
def capturing (channel : Text) (book : Nat) (body : Act (World M I H) α) :
    Act (World M I H) α := fun w =>
  match ({ book, channel } : Interceptor).enter w.logs with
  | .error e => (.error e, w)
  | .ok (i, logs) =>
    let (r, w) := body { w with logs }
    (r, { w with logs := (i.leave w.logs).2 })

/-! ## Sessions -/

/-- What a pipeline holds now. -/
def session (id : Nat) : Act (World M I H) (Session M) := do return (← get).sessions id

/-- Changes what a pipeline holds. -/
def changeSession (id : Nat) (change : Session M → Session M) : Act (World M I H) Unit :=
  modify fun w =>
    let changed := change (w.sessions id)
    { w with sessions := fun n => if n = id then changed else w.sessions n }

/-! ## Files -/

/-- Does something to the files. -/
def onFiles (change : FileSystem → Except Failure α × FileSystem) : Act (World M I H) α := fun w =>
  let (outcome, files) := change w.files
  (outcome, { w with files })

/-! ## Engines -/

/-- The outcome of a call of a host function, which is found in an import table. -/
def answer (table : ImportTable (Import (World M I H))) (q : HostCall) :
    StateM (World M I H) (Except Failure Value) :=
  match Entries.find? table q.module with
  | none => pure (.error (.absent (.text q.module)))
  | some es =>
    match Entries.find? es q.name with
    | none => pure (.error (.absent (.text q.name)))
    | some (.function f) => (f q.args).run
    | some (.withCaller f) => (f q.caller q.args).run
    | some (.inert _ v) =>
      pure (.error (.raised .type ("'" ++ v.typeName ++ "' object is not callable")))

/-- Notes that an engine is asked something, and gives what it was asked before. -/
def ask (id : Nat) (c : EngineCall M I) : Act (World M I H) (History M I) := do
  let before := (← get).histories id
  let after := before ++ [c]
  modify fun w => { w with histories := fun n => if n = id then after else w.histories n }
  return before

/-- Runs a script with the host functions of a table. -/
def runScript (table : ImportTable (Import (World M I H))) (s : Script (Except Failure α)) :
    Act (World M I H) α :=
  ExceptT.mk (s.run (answer table))

/-- Has a text translated. -/
def compileText (id : Nat) (e : Engine M I) (source : Text) : Act (World M I H) Bytes := do
  settle (e.compile (← ask id (.compile source)) source)

/-- Has a binary loaded. -/
def loadBinary (id : Nat) (e : Engine M I) (binary : Bytes) : Act (World M I H) M := do
  settle (e.load (← ask id (.load binary)) binary)

/-- Has a module linked. -/
def instantiate (id : Nat) (e : Engine M I) (m : M)
    (table : ImportTable (Import (World M I H))) : Act (World M I H) I := do
  let shapes := table.map Import.binding
  runScript table (e.instantiate (← ask id (.instantiate m shapes)) m shapes)

/-- Asks whether an instance has an entry point. -/
def hasEntry (id : Nat) (e : Engine M I) (i : I) (name : Text) : Act (World M I H) Bool := do
  settle (e.hasEntry (← ask id (.hasEntry i name)) i name)

/-- Has an entry point called.  The host functions are those the instance was linked with. -/
def invoke (id : Nat) (e : Engine M I) (i : I) (name : Text)
    (table : ImportTable (Import (World M I H))) : Act (World M I H) Value := do
  runScript table (e.invoke (← ask id (.invoke i name)) i name)

end World

end WatWorkbench
