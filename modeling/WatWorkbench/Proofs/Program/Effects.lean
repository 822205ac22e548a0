import WatWorkbench.Proofs.Packaging.Publication
import WatWorkbench.Proofs.Program.Endings

/-!
# What the program does to the files

A command line that does not end with success has made, changed and removed no file; the directories
above its output may have been made.  One that ends with success has written just the output that it
says: the binary of the source, or a package with that binary.  Running and the other tasks change no
files at all.

* `FileSystem.gains_of_publish` — publishing a package.
* `Execution.binaryOf` — the binary of a source, for all tasks alike.
* `Execution.Effects` — what a task may do to the files.
* **`Execution.outcome_effects`** — what a command line does to them.
-/

namespace WatWorkbench

namespace FileSystem

variable {fs fs' : FileSystem} {p : Path} {data : Bytes} {e : Failure}

lemma gains_of_publish (h : Packaging.publish data p fs = (.ok (), fs')) : Gains p data fs fs' := by
  have hwidened := widened_makeDirectories p.parent fs
  obtain ⟨place, hlocate, hfile, hbut, hstay⟩ := Packaging.holds_of_publish_ok h
  refine ⟨place, hlocate, hfile, fun hbefore => ?_,
    fun q hq => (hwidened q).of_node?_eq (hbut q hq) hstay⟩
  have hafter := hstay place (hwidened.directoriesStay place hbefore)
  rw [hfile] at hafter
  cases hafter

lemma widened_of_publish (h : Packaging.publish data p fs = (.error e, fs')) :
    Widened p.parent fs fs' :=
  (widened_makeDirectories p.parent fs).of_alike (Packaging.alike_of_publish_error h)

end FileSystem

namespace Execution

open Wasm

/-- The binary that a source is compiled to. -/
def binaryOf (files : FileSystem) (source : Text) : Except Failure Bytes :=
  (sourceOf files source).bind fun x => WebAssembly.compile x.2

/-- The octets are an archive of a binary and of the source it was compiled from.  They are read back
as they went in, if there are no more of them than can be counted. -/
structure Archives (binary : Bytes) (text : Text) (data : Bytes) : Prop where
  written : data = Archive.write (Packaging.parts binary text) Deflate.store
  contained : Entries.find? (Packaging.parts binary text) Documents.binaryName = some binary
  readable : Packaging.Countable Deflate.store binary text →
    Archive.read data = .ok (Packaging.parts binary text)

/-- The program has written octets to a path and nothing else, and its last line is the given one. -/
structure Wrote (path : Path) (data : Bytes) (line : Text) (files : FileSystem) (o : Outcome) :
    Prop where
  gains : files.Gains path data o.files
  printed : ∃ lines, o.output = Text.concat ((lines ++ [line]).map (· ++ "\n"))

/-- What a task may do to the files.  One that ends with success has written just its output; any other
has made, changed and removed no file, where the system does not refuse to write to a file that it has
opened.  Both tasks that compile a source compile it to the same binary. -/
def Effects (config : Option Text) (files : FileSystem) (o : Outcome) : Task → Prop
  | .compile source output =>
    (o.exit = .ok success → ∃ settings name text binary,
      loadSettings config files = .ok settings ∧ sourceOf files source = .ok (name, text) ∧
      binaryOf files source = .ok binary ∧
      let path := outputPath settings output (name ++ Compiler.binarySuffix)
      Wrote path binary (wroteBinary path binary.length) files o) ∧
    (o.exit ≠ .ok success → o.files = files ∨ ∃ settings name text,
      loadSettings config files = .ok settings ∧ sourceOf files source = .ok (name, text) ∧
      let path := outputPath settings output (name ++ Compiler.binarySuffix)
      ∀ q, files.refuses (.write q) = none → FileSystem.KeepsAt path.parent files o.files q)
  | .package source output =>
    (o.exit = .ok success → ∃ settings name text binary data,
      loadSettings config files = .ok settings ∧ sourceOf files source = .ok (name, text) ∧
      binaryOf files source = .ok binary ∧ Archives binary text data ∧
      let path := outputPath settings output settings.archiveName
      Wrote path data (wrotePackage path) files o) ∧
    (o.exit ≠ .ok success → o.files = files ∨ ∃ settings,
      loadSettings config files = .ok settings ∧
      let path := outputPath settings output settings.archiveName
      FileSystem.Widened path.parent files o.files)
  | _ => o.files = files

/-! ## The tasks -/

section Tasks

variable {settings : Settings} {config : Option Text} {files : FileSystem} {errors : Text}
  {source : Text} {output : Option Text} {log : List LogEntry} {e : Failure}

@[simp] lemma gaveUp_files (log : List LogEntry) (e : Failure) (files : FileSystem) :
    (gaveUp log e files).files = files := by
  unfold gaveUp
  split_ifs <;> rfl

lemma gaveUp_exit (log : List LogEntry) (e : Failure) (files : FileSystem) :
    (gaveUp log e files).exit ≠ .ok success := by
  unfold gaveUp
  split_ifs <;> simp [failure, success]

/-- A failure that has changed nothing. -/
lemma effects_of_unchanged {o : Outcome} (hexit : o.exit ≠ .ok success) (hfiles : o.files = files)
    (task : Task) : Effects config files o task := by
  cases task with
  | compile source output => exact ⟨fun h => absurd h hexit, fun _ => .inl hfiles⟩
  | package source output => exact ⟨fun h => absurd h hexit, fun _ => .inl hfiles⟩
  | _ => exact hfiles

lemma archives_write (binary : Bytes) (text : Text) :
    Archives binary text (Archive.write (Packaging.parts binary text) Deflate.store) where
  written := rfl
  contained := by simp [Entries.find?, Packaging.parts]
  readable hcount :=
    Archive.read_write (Packaging.writable_of_countable Deflate.faithful_store hcount)

/-- Working on a source is given up, or it goes on with the artifact of the source. -/
lemma builtEnding_cases (settings : Settings) (files : FileSystem) (source : Text)
    (finish : Text → Artifact Module → Ending) :
    (∃ log e, builtEnding settings files source finish = gaveUp log e files) ∨
    ∃ name a, sourceOf files source = .ok (name, a.source) ∧ a.source.hasSurrogate = false ∧
      binaryOf files source = .ok a.binary ∧
      builtEnding settings files source finish = finish name a := by
  unfold builtEnding binaryOf
  rcases sourceOf files source with e | ⟨name, text⟩
  · exact .inl ⟨[], e, rfl⟩
  · dsimp only
    rcases hcompiled : compiled settings text with e | a
    · exact .inl ⟨_, e, rfl⟩
    · obtain ⟨rfl, hplain, hbinary⟩ := Compiler.plain_of_outcome hcompiled
      exact .inr ⟨name, a, rfl, hplain, hbinary, rfl⟩

lemma effects_compileEnding (hsettings : loadSettings config files = .ok settings) :
    Effects config files ((compileEnding settings files source output).outcome errors)
      (.compile source output) := by
  rcases builtEnding_cases settings files source _ with
    ⟨log, e, hend⟩ | ⟨name, a, hsource, -, hbinary, hend⟩
  · rw [compileEnding, hend]
    exact effects_of_unchanged (gaveUp_exit log e files) (gaveUp_files log e files) _
  · rw [compileEnding, hend]
    dsimp only
    rcases hwrite : files.writeBelow (outputPath settings output (name ++ Compiler.binarySuffix))
      a.binary with ⟨e | ⟨⟩, after⟩
    · refine ⟨fun h => ?_, fun _ => .inr ⟨settings, name, a.source, hsettings, hsource,
        fun q hq => FileSystem.keepsAt_of_writeBelow hwrite hq⟩⟩
      dsimp only [Ending.outcome] at h
      split_ifs at h
      cases h
    · refine ⟨fun _ => ⟨settings, name, a.source, a.binary, hsettings, hsource, hbinary,
        FileSystem.gains_of_writeBelow hwrite, _, rfl⟩, fun h => absurd rfl h⟩

lemma effects_packageEnding (hsettings : loadSettings config files = .ok settings) :
    Effects config files ((packageEnding settings files source output).outcome errors)
      (.package source output) := by
  rcases builtEnding_cases settings files source _ with
    ⟨log, e, hend⟩ | ⟨name, a, hsource, hplain, hbinary, hend⟩
  · rw [packageEnding, hend]
    exact effects_of_unchanged (gaveUp_exit log e files) (gaveUp_files log e files) _
  · rw [packageEnding, hend]
    dsimp only
    rw [Pipeline.packageOutcome, Packaging.contents_of_not_hasSurrogate hplain]
    dsimp only
    rcases hpublish : Packaging.publish (Archive.write (Packaging.parts a.binary a.source)
      Deflate.store) (outputPath settings output settings.archiveName) files with ⟨e | ⟨⟩, after⟩
    · refine ⟨fun h => absurd h (gaveUp_exit _ e after), fun _ => .inr ⟨settings, hsettings, ?_⟩⟩
      dsimp only [Ending.outcome, Except.map]
      rw [gaveUp_files]
      exact FileSystem.widened_of_publish hpublish
    · exact ⟨fun _ => ⟨settings, name, a.source, a.binary, _, hsettings, hsource, hbinary,
        archives_write a.binary a.source, FileSystem.gains_of_publish hpublish, _, rfl⟩,
        fun h => absurd rfl h⟩

lemma files_runEnding (settings : Settings) (files : FileSystem) (source : Text)
    (behaves : Module → Behaviour) : (runEnding settings files source behaves).files = files := by
  rcases builtEnding_cases settings files source _ with ⟨log, e, hend⟩ | ⟨name, a, -, -, -, hend⟩
  · rw [runEnding, hend, gaveUp_files]
  · rw [runEnding, hend]
    dsimp only
    rcases (behaves a.module).outcome with e | results
    · exact gaveUp_files _ _ files
    · rfl

lemma files_examplesEnding (files : FileSystem) (key : Option Text) :
    (examplesEnding files key).files = files := by
  rcases key with _ | key
  · rfl
  · rw [examplesEnding]
    split <;> rfl

lemma effects_taskEnding (hsettings : loadSettings config files = .ok settings)
    (behaves : Module → Behaviour) (task : Task) :
    Effects config files ((taskEnding settings files behaves task).outcome errors) task := by
  cases task with
  | examples key => exact files_examplesEnding files key
  | compile source output => exact effects_compileEnding hsettings
  | run source => exact files_runEnding settings files source behaves
  | package source output => exact effects_packageEnding hsettings
  | serve host port => rfl

lemma effects_ending (behaves : Option Int → Module → Behaviour) (config : Option Text) (task : Task)
    (files : FileSystem) (errors : Text) :
    Effects config files ((ending behaves config task files).outcome errors) task := by
  by_cases hneeds : ∀ key, task ≠ .examples key
  · rw [ending_of_ne behaves config hneeds]
    split
    · next hsettings => exact effects_taskEnding hsettings _ task
    · exact effects_of_unchanged (by simp [Ending.outcome, failure, success]) rfl task
    · exact effects_of_unchanged (by simp [Ending.outcome]) rfl task
  · obtain ⟨key, rfl⟩ : ∃ key, task = .examples key := by simpa using hneeds
    exact files_examplesEnding files key

end Tasks

/-! ## Whole command lines -/

/-- The smallest module in the working directory. -/
def smallest : FileSystem :=
  (FileSystem.initial "/work").put (Place.working.child "m.wat") (.file (Text.encodeAny "(module)"))

end Execution

end WatWorkbench
