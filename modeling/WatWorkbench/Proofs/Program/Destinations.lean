import Mathlib
import WatWorkbench.Proofs.Program.Effects

/-!
# Where outputs go

An output that no path is given for goes to the directory for outputs that the settings name.  That
directory is seen from the working directory, wherever the configuration file is.  Seen from the
directory of a configuration file below the working directory, the same names lead elsewhere: each
name leads one level up or down, so two directories that they lead to the same place from are on one
level.

* `FileSystem.follow_level` — the level of the place that names lead to.
* `FileSystem.follow_eq_iff` — from where names lead to the place that they lead to from the working
  directory.
* `Execution.Produces` — what a task makes of its source.
* **`Execution.outcome_default_output`** — where the output goes.
-/

namespace WatWorkbench

/-! ## Levels -/

/-- How many levels below the working directory a place is. -/
def Place.level (p : Place) : Int := p.parts.length - p.above.getD 0

/-- How many levels down a name leads. -/
def Path.descent (name : Text) : Int := if name = upName then -1 else 1

namespace FileSystem

variable {fs : FileSystem} {names : List Text} {place q : Place}

lemma level_up (h : place.above ≠ none) :
    place.up.above ≠ none ∧ place.up.level = place.level - 1 := by
  obtain ⟨above, parts⟩ := place
  obtain ⟨n, rfl⟩ := Option.ne_none_iff_exists'.mp h
  rcases parts with _ | ⟨name, parts⟩
  · simp [Place.up, Place.level]
    omega
  · simp [Place.up, Place.level]
    omega

lemma level_child (place : Place) (name : Text) :
    (place.child name).level = place.level + 1 := by
  simp [Place.child, Place.level]
  omega

/-- **Every name leads one level** up or down, as long as the root is not reached. -/
lemma follow_level (habove : place.above ≠ none) (h : fs.follow names place = .ok q) :
    q.above ≠ none ∧ q.level = place.level + (names.map Path.descent).sum := by
  induction names using List.reverseRecOn generalizing q with
  | nil =>
      obtain rfl : place = q := by simpa [follow] using h
      exact ⟨habove, by simp⟩
  | append_singleton names name ih =>
      obtain ⟨d, hd, -, -, rfl⟩ := follow_concat_eq_ok_iff.mp h
      obtain ⟨hdabove, hdlevel⟩ := ih hd
      rw [List.map_append, List.sum_append, List.map_singleton, List.sum_singleton, Path.descent]
      split_ifs
      · obtain ⟨habove', hlevel⟩ := level_up hdabove
        exact ⟨habove', by omega⟩
      · exact ⟨hdabove, by rw [level_child]; omega⟩

/-- Of the directories at and below the working directory, there is no other one from which names lead
to the place that they lead to from there. -/
lemma follow_eq_iff (hplace : fs.follow names .working = .ok place) {d : Place}
    (hd : d.above = some 0) : fs.follow names d = .ok place ↔ d = .working := by
  constructor
  · intro hfollow
    have hworking := (follow_level (by simp [Place.working]) hplace).2
    have hlevel := (follow_level (by simp [hd]) hfollow).2
    have hzero : d.level = 0 := by
      have : Place.working.level = 0 := rfl
      omega
    obtain ⟨above, parts⟩ := d
    obtain rfl : above = some 0 := hd
    have hparts : parts = [] := by simpa [Place.level] using hzero
    rw [hparts]
    rfl
  · rintro rfl
    exact hplace

end FileSystem

namespace Execution

open Wasm

/-! ## Outputs by default -/

/-- The name that the output of a task has in the directory for outputs, if no path is given for it. -/
def defaultName (settings : Settings) (files : FileSystem) : Task → Option Text
  | .compile source none =>
    (sourceOf files source).toOption.map fun (name, _) => name ++ Compiler.binarySuffix
  | .package _ none => some settings.archiveName
  | _ => none

/-- The octets are what a task makes of its source: the binary, or an archive of the binary and of the
source. -/
def Produces (files : FileSystem) (data : Bytes) : Task → Prop
  | .compile source _ => binaryOf files source = .ok data
  | .package source _ => ∃ name text binary, sourceOf files source = .ok (name, text) ∧
      binaryOf files source = .ok binary ∧ Archives binary text data
  | _ => False

/-- A task whose output has no path ends with success when what it makes is at the default path, and
nothing else has been changed. -/
lemma exists_gains_of_effects {config : Option Text} {files : FileSystem} {o : Outcome} {task : Task}
    {source : Text} (h : Effects config files o task)
    (htask : task = .compile source none ∨ task = .package source none)
    (hexit : o.exit = .ok success) : ∃ settings name data,
      loadSettings config files = .ok settings ∧ defaultName settings files task = some name ∧
      Produces files data task ∧ files.Gains (outputPath settings none name) data o.files := by
  rcases htask with rfl | rfl
  · obtain ⟨settings, name, text, binary, hsettings, hsource, hbinary, hwrote⟩ := h.1 hexit
    refine ⟨settings, name ++ Compiler.binarySuffix, binary, hsettings, ?_, hbinary, hwrote.gains⟩
    rw [defaultName, hsource]
    rfl
  · obtain ⟨settings, name, text, binary, data, hsettings, hsource, hbinary, harchives, hwrote⟩ :=
      h.1 hexit
    exact ⟨settings, settings.archiveName, data, hsettings, rfl,
      ⟨name, text, binary, hsource, hbinary, harchives⟩, hwrote.gains⟩

/-- What has been read is in a directory. -/
lemma exists_directory_of_load {files : FileSystem} {p : Path} {settings : Settings}
    (h : Settings.load files p = .ok settings) :
    ∃ d, files.locate p.parent = .ok d ∧ files.node? d = some .directory := by
  rcases hlocate : files.locate p with e | place
  · simp [Settings.load, FileSystem.readText, FileSystem.read, hlocate, bind, Except.bind,
      Except.mapError] at h
  · exact FileSystem.locate_parent hlocate

/-- **Where outputs go** for which no path is given, when the configuration file is named.

What the task makes of its source is written to its name in the directory for outputs, and nothing
else is changed.  That path is followed from the working directory: it depends on the settings only,
and not on where they have been read.  Where it is relative and the configuration file is in a
directory at or below the working directory, following it from that directory leads to the output
just if that directory is the working directory. -/
theorem outcome_default_output {strings : List Text} {i : Invocation} {config source : Text}
    (hread : Invocation.ofArguments strings = .ok i) (hconfig : i.config = some config)
    (htask : i.task = .compile source none ∨ i.task = .package source none) (files : FileSystem)
    (hexit : (outcome WebAssembly.engine strings files).exit = .ok success) :
    ∃ settings name data d,
      Settings.load files (Path.ofText config) = .ok settings ∧
      defaultName settings files i.task = some name ∧ Produces files data i.task ∧
      files.locate (Path.ofText config).parent = .ok d ∧ files.node? d = some .directory ∧
      let path := outputPath settings none name
      let after := (outcome WebAssembly.engine strings files).files
      files.Gains path data after ∧
      (path.anchor = .here → ∃ place, after.follow path.parts .working = .ok place ∧
        after.node? place = some (.file data) ∧
        (d.above = some 0 → (after.follow path.parts d = .ok place ↔ d = .working))) := by
  have heffects : Effects i.config files (outcome WebAssembly.engine strings files) i.task :=
    outcome_of_endings (P := (Effects i.config files · i.task)) hread fun behaves errors =>
      effects_ending behaves i.config i.task files errors
  obtain ⟨settings, name, data, hsettings, hname, hproduces, hgains⟩ :=
    exists_gains_of_effects heffects htask hexit
  rw [hconfig] at hsettings
  obtain ⟨d, hd, hdirectory⟩ := exists_directory_of_load hsettings
  refine ⟨settings, name, data, d, hsettings, hname, hproduces, hd, hdirectory, hgains,
    fun hrelative => ?_⟩
  obtain ⟨place, hlocate, hfile, -⟩ := hgains
  have hfollow := (FileSystem.locate_eq_ok_iff.mp hlocate).2.2
  rw [FileSystem.start, hrelative] at hfollow
  exact ⟨place, hfollow, hfile, FileSystem.follow_eq_iff hfollow⟩

lemma eq_ok_of_toOption {ε α : Type} {x : Except ε α} {a : α} (h : x.toOption = some a) :
    x = .ok a := by
  cases x with
  | error e => cases h
  | ok b => exact congrArg _ (Option.some.inj h)

/-- The smallest module in the working directory, and settings with a directory for outputs in a
directory below. -/
def besideSettings : FileSystem :=
  (smallest.put (Place.working.child "conf") .directory).put
    ((Place.working.child "conf").child "c.yaml") (.file (Text.encodeAny "output-directory: out\n"))

/-- The directory that the settings are in is not the one from which the path of the binary leads to
it. -/
theorem outcome_default_output_besideSettings :
    let after := (outcome WebAssembly.engine ["--config", "conf/c.yaml", "compile", "m.wat"]
      besideSettings).files
    ∃ place d data, besideSettings.locate (Path.ofText "conf/c.yaml").parent = .ok d ∧
      after.follow ["out", "m.wasm"] .working = .ok place ∧ after.node? place = some (.file data) ∧
      after.follow ["out", "m.wasm"] d ≠ .ok place := by
  have hread : Invocation.ofArguments ["--config", "conf/c.yaml", "compile", "m.wat"] =
      .ok ⟨some "conf/c.yaml", false, .compile "m.wat" none⟩ := rfl
  have hexit : (outcome WebAssembly.engine ["--config", "conf/c.yaml", "compile", "m.wat"]
      besideSettings).exit = .ok success := eq_ok_of_toOption (by decide +kernel)
  obtain ⟨settings, name, data, d, hsettings, hname, -, hd, -, -, hrelative⟩ :=
    outcome_default_output hread rfl (.inl rfl) besideSettings hexit
  have hdirectory : settings.outputDirectory = "out" := by
    have hloaded : (Settings.load besideSettings (Path.ofText "conf/c.yaml")).toOption.map
        (·.outputDirectory) = some "out" := by decide +kernel
    rw [hsettings] at hloaded
    exact Option.some.inj hloaded
  have hcalled : name = "m.wasm" := by
    have hstem : defaultName {} besideSettings (.compile "m.wat" none) = some "m.wasm" := by
      decide +kernel
    exact Option.some.inj (hname.symm.trans hstem)
  have hpath : outputPath settings none name = ⟨.here, ["out", "m.wasm"]⟩ := by
    rw [outputPath, outputPath.fallback, hdirectory, hcalled]
    rfl
  rw [hpath] at hrelative
  obtain ⟨place, hfollow, hfile, hiff⟩ := hrelative rfl
  have hconf : besideSettings.locate (Path.ofText "conf/c.yaml").parent =
      .ok (Place.working.child "conf") := eq_ok_of_toOption (by decide +kernel)
  obtain rfl := Except.ok.inj (hd.symm.trans hconf)
  refine ⟨place, _, data, hconf, hfollow, hfile, fun h => ?_⟩
  exact absurd ((hiff rfl).mp h) (by decide)

/-- The binary of the module is in the directory for outputs as seen from the working directory; there
is nothing in the one that is seen from the settings. -/
theorem outcome_besideSettings :
    Invocation.ofArguments ["--config", "conf/c.yaml", "compile", "m.wat"] =
        .ok ⟨some "conf/c.yaml", false, .compile "m.wat" none⟩ ∧
      (Settings.load besideSettings (Path.ofText "conf/c.yaml")).toOption.map
        (·.outputDirectory) = some "out" ∧
      let o := outcome WebAssembly.engine ["--config", "conf/c.yaml", "compile", "m.wat"]
        besideSettings
      o.exit.toOption = some success ∧
      (o.files.read (Path.ofText "out/m.wasm")).toOption =
        some [0x00, 0x61, 0x73, 0x6D, 0x01, 0x00, 0x00, 0x00] ∧
      (o.files.look (Path.ofText "conf/out/m.wasm")).toOption = some none := by
  decide +kernel

end Execution

end WatWorkbench
