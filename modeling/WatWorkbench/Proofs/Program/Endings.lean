import WatWorkbench.Proofs.Pipeline.Standard
import WatWorkbench.Proofs.Program.Steps

/-!
# How tasks end

Told without loggers and pipelines, a task ends with an exit status, with lines that have been printed
and with the files as they are then.  Where a task is begun with nothing done yet, its ending hangs on
the files alone, and not on who else listens to the loggers.

* `Ending`, `Reaches`, `Begins` — how a task ends, and from which worlds.
* `compileEnding`, `packageEnding`, `runEnding`, … — the endings of the tasks, from the files.
* **`Begins.reaches_built`** — working on a source; `Begins.reaches_compile`, `reaches_package`,
  `reaches_run` — the tasks that do.
* `Begins.beVerbose` — having details told beforehand.
* **`exists_ending`** — how command lines end; `outcome_of_endings` — what holds of that.
-/

namespace WatWorkbench.Execution

open Wasm

variable {M I α : Type}

/-! ## Endings -/

/-- How a task ends. -/
structure Ending where
  /-- The exit status, or a failure that nobody expected. -/
  exit : Except Failure Nat
  /-- The lines that have been printed on the standard output stream. -/
  lines : List Text := []
  /-- The files. -/
  files : FileSystem
  /-- The playground that is to be served, if any. -/
  service : Option Service := none

/-- What has been printed and what is to be served in the end. -/
def Ending.console (e : Ending) : Console := ⟨Text.concat (e.lines.map (· ++ "\n")), e.service⟩

/-- How the program ends when its task does, with what is on the standard error stream. -/
def Ending.outcome (e : Ending) (errors : Text) : Outcome :=
  ⟨e.exit, e.console.output, errors, e.files, e.service⟩

/-- What a task comes to is an ending. -/
structure Reaches (result : Except Failure Nat × World M I Console) (e : Ending) : Prop where
  exit : result.1 = e.exit
  console : result.2.host = e.console
  files : result.2.files = e.files

/-- Nothing has been done yet, and pipelines to come can capture their channel. -/
structure Begins (w : World M I Console) (files : FileSystem) : Prop where
  fit : w.logs.Fit channelName
  unused : ∀ n, w.logs.next ≤ n → w.sessions n = {}
  files : w.files = files
  console : w.host = {}

lemma begins_initial (files : FileSystem) :
    Begins ({ files, host := {} } : World M I Console) files :=
  ⟨LogState.fit_initial channelName, fun _ _ => rfl, rfl, rfl⟩

/-- The ending after a failure: one that is expected is told, with the log. -/
def gaveUp (log : List LogEntry) (e : Failure) (files : FileSystem) : Ending :=
  if isExpected e then { exit := .ok failure, lines := logLines log, files }
  else { exit := .error e, files }

/-- The line about a binary that has been written. -/
def wroteBinary (path : Path) (size : Nat) : Text :=
  "Wrote " ++ Text.decimal size ++ " bytes to '" ++ path.text ++ "'."

/-- The line about a package that has been written. -/
def wrotePackage (path : Path) : Text := "Wrote package to '" ++ path.text ++ "'."

section Tasks

variable (settings : Settings) (files : FileSystem) (source : Text) (output : Option Text)

/-- What a source is compiled to. -/
def compiled (text : Text) : Except Failure (Artifact Module) :=
  Compiler.outcome (WebAssembly.engine settings.fuel) [] text

/-- How working on a source ends, given how it goes on with the artifact. -/
def builtEnding (finish : Text → Artifact Module → Ending) : Ending :=
  match sourceOf files source with
  | .error e => gaveUp [] e files
  | .ok (name, text) =>
    match compiled settings text with
    | .error e => gaveUp (Pipeline.compileLog (M := Module) [] (.error e)) e files
    | .ok a => finish name a

/-- How compiling to a file ends. -/
def compileEnding : Ending :=
  builtEnding settings files source fun name a =>
    let path := outputPath settings output (name ++ Compiler.binarySuffix)
    match files.writeBelow path a.binary with
    | (.ok (), files) =>
      { exit := .ok success
        lines := logLines (Pipeline.compileLines (.ok a)) ++ [wroteBinary path a.binary.length]
        files }
    | (.error e, files) => { exit := if e.isSystem then .ok failure else .error e, files }

/-- How compiling to an archive ends. -/
def packageEnding : Ending :=
  builtEnding settings files source fun _ a =>
    let path := outputPath settings output settings.archiveName
    match Pipeline.packageOutcome a (some path) files with
    | (.ok data, files) =>
      { exit := .ok success
        lines := logLines (Pipeline.compileLines (.ok a) ++ Pipeline.packageLines (.ok data)) ++
          [wrotePackage path]
        files }
    | (.error e, files) =>
      gaveUp (Pipeline.compileLines (.ok a) ++ Pipeline.packageLines (.error e)) e files

/-- What running a module comes to, whoever runs it. -/
structure Behaviour where
  /-- The results, or a failure. -/
  outcome : Except Failure Results
  /-- The text of the results. -/
  text : Text
  /-- What the host functions write to the log meanwhile. -/
  entries : List LogEntry

/-- The log of compiling a module and running it. -/
def Behaviour.log (b : Behaviour) (a : Artifact Module) : List LogEntry :=
  Pipeline.compileLines (.ok a) ++
    (⟨.info, Pipeline.running⟩ :: b.entries ++ [Pipeline.runLine b.outcome])

/-- How compiling and running ends. -/
def runEnding (behaves : Module → Behaviour) : Ending :=
  builtEnding settings files source fun _ a =>
    let b := behaves a.module
    match b.outcome with
    | .ok _ => { exit := .ok success, lines := logLines (b.log a) ++ [b.text], files }
    | .error e => gaveUp (b.log a) (Pipeline.asRuntime e) files

/-- How listing the examples, or showing one, ends. -/
def examplesEnding : Option Text → Ending
  | none =>
    { exit := .ok success
      lines := Catalog.examples.map fun e => e.key.padRight ' '.toNat 12 ++ " " ++ e.title
      files }
  | some key =>
    match Catalog.find? key with
    | some e => { exit := .ok success, lines := [e.source], files }
    | none => { exit := .ok failure, files }

/-- How having the playground served ends. -/
def serveEnding (host : Text) (port : Int) : Ending where
  exit := .ok success
  lines := ["Serving playground at http://" ++ host ++ ":" ++ Text.integer port ++ "/"]
  files := files
  service := some ⟨settings.archiveName, settings.fuel, host, port⟩

/-- How a task that needs settings ends. -/
def taskEnding (behaves : Module → Behaviour) : Task → Ending
  | .examples key => examplesEnding files key
  | .compile source output => compileEnding settings files source output
  | .run source => runEnding settings files source behaves
  | .package source output => packageEnding settings files source output
  | .serve host port => serveEnding settings files host port

end Tasks

/-- How a task ends, given the configuration file, if there is one, and how modules behave under each
execution budget. -/
def ending (behaves : Option Int → Module → Behaviour) (config : Option Text) (task : Task)
    (files : FileSystem) : Ending :=
  match task with
  | .examples key => examplesEnding files key
  | task =>
    match loadSettings config files with
    | .ok settings => taskEnding settings files (behaves settings.fuel) task
    | .error (.config _) => { exit := .ok failure, files }
    | .error e => { exit := .error e, files }

/-! ## Working on a source -/

section Reaching

variable {w v : World M I Console} {files : FileSystem} {p : Pipeline M I} {log : List LogEntry}
  {rest : Pipeline M I → α → Step M I Nat}

lemma host_printed (hhost : v.host = {}) (lines : List Text) :
    (v.printed lines).host = ⟨Text.concat (lines.map (· ++ "\n")), none⟩ := by
  rw [World.printed, hhost]
  rfl

/-- Work that fails is given up. -/
lemma reaches_gaveUp (hlog : (v.logs.books p.id).entries = log) (hhost : v.host = {})
    (e : Failure) : Reaches (concluded p rest (.error e, v)) (gaveUp log e v.files) := by
  unfold gaveUp concluded
  dsimp only
  split_ifs
  · exact ⟨rfl, hlog ▸ host_printed hhost _, rfl⟩
  · exact ⟨rfl, hhost, rfl⟩

lemma reaches_printed (hhost : v.host = {}) (lines : List Text) :
    Reaches (.ok success, v.printed lines) { exit := .ok success, lines, files := v.files } :=
  ⟨rfl, host_printed hhost lines, rfl⟩

end Reaching

section Sources

variable {w : World Module Instance Console} {files : FileSystem} {settings : Settings}
  {source : Text}

/-- A pipeline has compiled a source to an artifact, and nothing else has been done. -/
structure Built (settings : Settings) (files : FileSystem) (p : Pipeline Module Instance)
    (a : Artifact Module) (v : World Module Instance Console) : Prop where
  engine : p.engine = WebAssembly.engine settings.fuel
  channel : p.channel = channelName
  shows : p.Shows v (Pipeline.compileLines (.ok a))
  artifact : (v.sessions p.id).artifact = some a
  files : v.files = files
  host : v.host = {}

/-- **Working on a source** ends where going on with the artifact does. -/
theorem Begins.reaches_built (hw : Begins w files)
    {work : Pipeline Module Instance → Step Module Instance α}
    {rest : Pipeline Module Instance → α → Step Module Instance Nat}
    (more : Pipeline Module Instance → Text → Artifact Module → Step Module Instance α)
    (hwork : ∀ p, work p = readSource source >>= fun x => p.compile x.2 >>= more p x.1)
    {finish : Text → Artifact Module → Ending}
    (hfinish : ∀ p name a v, Built settings files p a v →
      Reaches (concluded p rest (more p name a v)) (finish name a)) :
    Reaches (withPipeline WebAssembly.engine settings work rest w)
      (builtEnding settings files source finish) := by
  -- the new pipeline is a variable: what is known of it are the equations, and nothing is unfolded
  obtain ⟨p, hp⟩ : ∃ p : Pipeline Module Instance,
    p = ⟨w.logs.next, WebAssembly.engine settings.fuel, channelName⟩ := ⟨_, rfl⟩
  have hid : p.id = w.logs.next := by rw [hp]
  have hengine : p.engine = WebAssembly.engine settings.fuel := by rw [hp]
  have hchannel : p.channel = channelName := by rw [hp]
  rw [run_withPipeline w WebAssembly.engine settings work rest hp, hwork, World.run_bind,
    run_readSource]
  generalize hstart : ({ w with logs := w.logs.fresh.2 } : World Module Instance Console) = u
  have hshows : p.Shows u [] := by
    rw [← hstart]
    refine ⟨?_, ?_⟩
    · rw [hid, hchannel]
      exact hw.fit.fresh
    · rw [hid]
      exact hw.fit.blank _ (Nat.le_refl _)
  have hfiles : u.files = files := by rw [← hstart]; exact hw.files
  have hhost : u.host = {} := by rw [← hstart]; exact hw.console
  rw [hfiles, builtEnding]
  rcases sourceOf files source with e | ⟨name, text⟩
  · exact hfiles ▸ reaches_gaveUp hshows.log hhost e
  · obtain ⟨houtcome, hleaves⟩ := hshows.leaves_compile text
    rw [hengine, Compiler.outcome_webAssembly] at houtcome hleaves
    change _ = compiled settings text at houtcome
    change p.Leaves u _ (Pipeline.compileLog [] (compiled settings text))
      (Pipeline.sessionAfter (u.sessions p.id) (compiled settings text)) at hleaves
    dsimp only
    rw [World.run_bind]
    generalize p.compile text u = ran at houtcome hleaves
    obtain ⟨r, v⟩ := ran
    rw [← houtcome] at hleaves ⊢
    have hleft : v.files = files := hleaves.files.trans hfiles
    have hsaid : v.host = {} := hleaves.host.trans hhost
    rcases r with e | a
    · exact hleft ▸ reaches_gaveUp hleaves.shows.log hsaid e
    · exact hfinish p name a v ⟨hengine, hchannel, hleaves.shows, by rw [hleaves.session]; rfl, hleft,
        hsaid⟩

/-! ## The tasks that work on a source -/

lemma Begins.reaches_compile (hw : Begins w files) (output : Option Text) :
    Reaches (compile WebAssembly.engine settings source output w)
      (compileEnding settings files source output) := by
  refine hw.reaches_built
    (fun _ name a => (pure (name, a.binary) : Step Module Instance (Text × Bytes)))
    (fun _ => rfl) fun p name a v hbuilt => ?_
  rw [World.run_pure]
  dsimp only [concluded]
  generalize outputPath settings output (name ++ Compiler.binarySuffix) = path
  rw [World.run_bind, World.run_attempt, run_writeFile, hbuilt.files]
  rcases files.writeBelow path a.binary with ⟨e | ⟨⟩, after⟩
  · dsimp only
    split_ifs
    · exact ⟨rfl, hbuilt.host, rfl⟩
    · exact ⟨rfl, hbuilt.host, rfl⟩
  · dsimp only
    rw [run_tell]
    dsimp only
    rw [hbuilt.shows.log]
    exact reaches_printed (v := { v with files := after }) hbuilt.host _

lemma Begins.reaches_package (hw : Begins w files) (output : Option Text) :
    Reaches (package WebAssembly.engine settings source output w)
      (packageEnding settings files source output) := by
  generalize hpath : outputPath settings output settings.archiveName = path
  refine hw.reaches_built (fun p _ _ => p.package (some path)) (fun p => by rw [← hpath])
    fun p name a v hbuilt => ?_
  obtain ⟨houtcome, hfiles, -, hhost, hshows⟩ := hbuilt.shows.package hbuilt.artifact (some path)
  rw [hbuilt.files] at houtcome hfiles hshows
  dsimp only
  rw [hpath]
  generalize Pipeline.packageOutcome a (some path) files = result at houtcome hfiles hshows ⊢
  generalize p.package (some path) v = ran at houtcome hfiles hhost hshows ⊢
  obtain ⟨r, after⟩ := result
  obtain ⟨r', u⟩ := ran
  obtain rfl : r' = r := houtcome
  obtain rfl : u.files = after := hfiles
  have hsaid : u.host = {} := hhost.trans hbuilt.host
  rcases r' with e | data
  · exact reaches_gaveUp hshows.log hsaid e
  · dsimp only [concluded]
    rw [run_tell, hshows.log]
    exact reaches_printed hsaid _

/-- The behaviours are those that pipelines with an execution budget meet with, on whatever they have
logged before. -/
def Predicts (fuel : Option Int) (behaves : Module → Behaviour) : Prop :=
  ∀ (m : Module) (p : Pipeline Module Instance) (w : World Module Instance Console)
    (log : List LogEntry) (a : Artifact Module), p.engine = WebAssembly.engine fuel →
    p.channel = channelName → p.Shows w log → (w.sessions p.id).artifact = some a → a.module = m →
    (p.run [] w).1 = (behaves m).outcome.mapError Pipeline.asRuntime ∧
    p.Leaves w (p.run [] w).2
      (log ++ (⟨.info, Pipeline.running⟩ :: (behaves m).entries ++
        [Pipeline.runLine (behaves m).outcome]))
      (Pipeline.runSession (w.sessions p.id) (behaves m).text (behaves m).outcome)

lemma exists_predicts (fuel : Option Int) : ∃ behaves, Predicts fuel behaves := by
  choose outcome text entries _ hrun using fun m =>
    Pipeline.exists_run Console fuel channelName m
  exact ⟨fun m => ⟨outcome m, text m, entries m⟩, hrun⟩

lemma Begins.reaches_run (hw : Begins w files) {behaves : Module → Behaviour}
    (hbehaves : Predicts settings.fuel behaves) :
    Reaches (run WebAssembly.engine settings source w) (runEnding settings files source behaves) := by
  refine hw.reaches_built (fun p _ _ => p.run []) (fun _ => rfl) fun p name a v hbuilt => ?_
  obtain ⟨houtcome, hleaves⟩ := hbehaves a.module p v _ a hbuilt.engine hbuilt.channel hbuilt.shows
    hbuilt.artifact rfl
  dsimp only
  have hlog := hleaves.shows.log
  have hfiles := hleaves.files.trans hbuilt.files
  have hhost := hleaves.host.trans hbuilt.host
  have hsession := hleaves.session
  change _ = (behaves a.module).log a at hlog
  -- what the run comes to and what it leaves are all that the end depends on
  generalize behaves a.module = b at houtcome hlog hsession ⊢
  generalize p.run [] v = ran at houtcome hlog hfiles hhost hsession ⊢
  obtain ⟨r, u⟩ := ran
  dsimp only at houtcome hlog hfiles hhost hsession
  subst houtcome hfiles
  rcases hb : b.outcome with e | results
  · exact reaches_gaveUp hlog hhost _
  · rw [hb] at hsession
    have houtput : (u.sessions p.id).output = b.text := by rw [hsession]; rfl
    dsimp only [concluded, Except.mapError]
    simp only [World.run_bind, run_printLog, Pipeline.session, World.run_session, run_print,
      World.printed_sessions, houtput, World.printed_printed, World.run_pure]
    rw [hlog]
    exact reaches_printed hhost _

end Sources

/-! ## The other tasks -/

section Others

variable {w : World M I Console} {before : FileSystem} (hw : Begins w before)

include hw

lemma Begins.reaches_examples (key : Option Text) :
    Reaches (examples key w) (examplesEnding before key) := by
  obtain rfl := hw.files
  rcases key with _ | key
  · have hrun : examples none w = (.ok success, w.printed
        (Catalog.examples.map fun e => e.key.padRight ' '.toNat 12 ++ " " ++ e.title)) := by
      simp only [examples, World.run_bind, run_forIn_print, World.run_pure]
    rw [hrun]
    exact reaches_printed hw.console _
  · unfold examples examplesEnding
    dsimp only
    rcases Catalog.find? key with _ | e
    · exact ⟨rfl, hw.console, rfl⟩
    · dsimp only
      rw [World.run_bind, run_print]
      exact reaches_printed hw.console _

lemma Begins.reaches_serve (settings : Settings) (host : Text) (port : Int) :
    Reaches (serve settings host port w) (serveEnding settings before host port) := by
  obtain rfl := hw.files
  unfold serve
  rw [World.run_bind, run_print]
  refine ⟨rfl, ?_, rfl⟩
  exact congrArg (fun c : Console => { c with service := some ⟨settings.archiveName, settings.fuel,
    host, port⟩ }) (host_printed hw.console _)

/-- Having details told is no hindrance to what is done after it. -/
lemma Begins.beVerbose : Begins (beVerbose w).2 before where
  fit := hw.fit.addHandler (by decide) Level.debug fun _ => nofun
  unused n hn := hw.unused n (Nat.le_of_succ_le hn)
  files := hw.files
  console := hw.console

end Others

/-! ## Whole command lines -/

/-- What is done after details are told, if they are. -/
def carryOut (engine : Option Int → Engine M I) (config : Option Text) (task : Task) :
    Step M I Nat := do
  match task with
  | .examples key => examples key
  | task =>
    match loadSettings config (← get).files with
    | .ok settings => performWith engine settings task
    | .error (.config message) =>
      printError ("Error: " ++ message)
      return failure
    | .error e => throw e

lemma run_perform (engine : Option Int → Engine M I) (i : Invocation) (w : World M I Console) :
    perform engine i w =
      carryOut engine i.config i.task (if i.isVerbose then (Execution.beVerbose w).2 else w) := by
  unfold perform
  cases i.isVerbose
  · rfl
  · rfl

lemma Begins.reaches_performWith {w : World Module Instance Console} {before : FileSystem}
    (hw : Begins w before) {settings : Settings} {behaves : Module → Behaviour}
    (hbehaves : Predicts settings.fuel behaves) (task : Task) :
    Reaches (performWith WebAssembly.engine settings task w)
      (taskEnding settings before behaves task) := by
  cases task with
  | examples key => exact hw.reaches_examples key
  | compile source output => exact hw.reaches_compile output
  | run source => exact hw.reaches_run hbehaves
  | package source output => exact hw.reaches_package output
  | serve host port => exact hw.reaches_serve settings host port

/-- A task other than showing examples needs the settings. -/
lemma run_carryOut (engine : Option Int → Engine M I) (config : Option Text) {task : Task}
    (hneeds : ∀ key, task ≠ .examples key) (w : World M I Console) :
    carryOut engine config task w = match loadSettings config w.files with
      | .ok settings => performWith engine settings task w
      | .error (.config message) => (.ok failure,
          { w with logs := w.logs.printError ("Error: " ++ message) })
      | .error e => (.error e, w) := by
  have hget : (get : Step M I (World M I Console)) w = (.ok w, w) := rfl
  cases task with
  | examples key => exact absurd rfl (hneeds key)
  | _ =>
      simp only [carryOut, World.run_bind, hget]
      rcases loadSettings config w.files with e | settings
      · cases e <;> rfl
      · rfl

lemma ending_of_ne (behaves : Option Int → Module → Behaviour) (config : Option Text) {task : Task}
    (hneeds : ∀ key, task ≠ .examples key) (files : FileSystem) :
    ending behaves config task files = match loadSettings config files with
      | .ok settings => taskEnding settings files (behaves settings.fuel) task
      | .error (.config _) => { exit := .ok failure, files }
      | .error e => { exit := .error e, files } := by
  cases task with
  | examples key => exact absurd rfl (hneeds key)
  | _ => rfl

lemma Begins.reaches_carryOut {w : World Module Instance Console} {before : FileSystem}
    (hw : Begins w before) {behaves : Option Int → Module → Behaviour}
    (hbehaves : ∀ fuel, Predicts fuel (behaves fuel)) (config : Option Text) (task : Task) :
    Reaches (carryOut WebAssembly.engine config task w) (ending behaves config task before) := by
  by_cases hneeds : ∀ key, task ≠ .examples key
  · obtain rfl := hw.files
    rw [run_carryOut _ _ hneeds, ending_of_ne _ _ hneeds]
    split
    · exact hw.reaches_performWith (hbehaves _) task
    · exact ⟨rfl, hw.console, rfl⟩
    · exact ⟨rfl, hw.console, rfl⟩
  · obtain ⟨key, rfl⟩ : ∃ key, task = .examples key := by simpa using hneeds
    exact hw.reaches_examples key

/-- **How command lines end**: as the ending of what they ask for says, whether details are told or
not. -/
theorem exists_ending : ∃ behaves : Option Int → Module → Behaviour,
    ∀ (strings : List Text) (i : Invocation), Invocation.ofArguments strings = .ok i →
      ∀ files, ∃ errors, outcome WebAssembly.engine strings files =
        (ending behaves i.config i.task files).outcome errors := by
  -- one behaviour for each module and budget, before any command line: the end of a command line
  -- cannot depend on whether details are told
  choose behaves hbehaves using exists_predicts
  refine ⟨behaves, fun strings i hi files => ?_⟩
  have hbegins : Begins (if i.isVerbose then
      (Execution.beVerbose ({ files, host := {} } : World Module Instance Console)).2 else
      { files, host := {} }) files := by
    split_ifs
    · exact (begins_initial files).beVerbose
    · exact begins_initial files
  obtain ⟨hexit, hconsole, hfiles⟩ := hbegins.reaches_carryOut hbehaves i.config i.task
  rw [← run_perform] at hexit hconsole hfiles
  have hrun : outcome WebAssembly.engine strings files =
      let ran := perform WebAssembly.engine i { files, host := {} }
      ⟨ran.1, ran.2.host.output, Text.concat (ran.2.logs.errorLines.map (· ++ "\n")), ran.2.files,
        ran.2.host.service⟩ := by
    rw [outcome, hi]
    rfl
  rw [hrun]
  dsimp only
  rw [hexit, hconsole, hfiles]
  exact ⟨_, rfl⟩

/-- What holds of the ending, however modules behave and whatever is on the standard error stream,
holds of the command line. -/
lemma outcome_of_endings {P : Outcome → Prop} {strings : List Text} {i : Invocation}
    {files : FileSystem} (hread : Invocation.ofArguments strings = .ok i)
    (h : ∀ behaves errors, P ((ending behaves i.config i.task files).outcome errors)) :
    P (outcome WebAssembly.engine strings files) := by
  obtain ⟨behaves, hending⟩ := exists_ending
  obtain ⟨errors, hends⟩ := hending strings i hread files
  rw [hends]
  exact h behaves errors

end WatWorkbench.Execution
