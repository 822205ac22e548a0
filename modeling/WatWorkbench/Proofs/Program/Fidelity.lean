import WatWorkbench.Proofs.Packaging.Execution
import WatWorkbench.Proofs.Program.Destinations
import WatWorkbench.Proofs.Text.LineEnds

/-!
# The source as it is kept

A source is read from its file as text, so all its lines end alike in what is kept of it: in the
package that is written, and in the artifact.  Everything else is kept as it is in the file.

* `Execution.Packed` — a package that has been written, with its source.
* **`Execution.kept_source`** — what is kept of the octets of a file.
* `Execution.kept_source_returning` — a file that is not kept as it is.
-/

namespace WatWorkbench

variable {M I H : Type}

namespace FileSystem

lemma readText_eq_ok {files : FileSystem} {p : Path} {octets : Bytes} {text : Text}
    (hread : files.read p = .ok octets) (htext : Text.decode octets = .ok text) :
    files.readText p = .ok (unifyNewlines text) := by
  rw [readText, hread]
  simp only [bind, Except.bind, htext]
  rfl

end FileSystem

namespace Compiler

variable {id : Nat} {e : Engine M I} {logger : Text} {p : Path} {w : World M I H}

/-- Compiling a file is compiling its text. -/
lemma compileFile_eq {text : Text} (hsuffix : p.suffix ≠ binarySuffix)
    (htext : w.files.readText p = .ok text) :
    compileFile id e logger p w = compileSource id e logger text w := by
  have hget : (get : Act (World M I H) (World M I H)) w = (.ok w, w) := rfl
  rw [compileFile, World.run_bind, hget]
  dsimp only
  rw [if_neg hsuffix, World.run_bind, World.run_settle, htext]
  rfl

lemma source_of_compileSource {text : Text} {a : Artifact M}
    (h : (compileSource id e logger text w).1 = .ok a) : a.source = text := by
  obtain ⟨v, hrun, -⟩ := run_compileSource id e logger text w
  rw [hrun] at h
  exact (outcome_eq_ok h).1

end Compiler

namespace Execution

open Wasm

variable {files : FileSystem} {source : Text} {octets : Bytes} {text : Text}

lemma sourceOf_file (hfile : source.startsWith Invocation.examplePrefix = false)
    (hread : files.read (Path.ofText source) = .ok octets) (htext : Text.decode octets = .ok text) :
    sourceOf files source =
      .ok ((Path.ofText source).stem, FileSystem.unifyNewlines text) := by
  have hunified := FileSystem.readText_eq_ok hread htext
  simp only [sourceOf, hfile, hunified, Except.map]
  rfl

/-- A package of a source has been written, in which the source is a text with the given octets. -/
def Packed (config output : Option Text) (source text : Text) (octets : Bytes) (files : FileSystem)
    (o : Outcome) : Prop :=
  ∃ settings binary data, loadSettings config files = .ok settings ∧
    binaryOf files source = .ok binary ∧
    files.Gains (outputPath settings output settings.archiveName) data o.files ∧
    Archives binary text data ∧
    Entries.find? (Packaging.parts binary text) Documents.sourceName = some octets

/-- The source in a package of a file has the octets of the file, with all lines ended alike. -/
lemma packed_of_exit {strings : List Text} {i : Invocation} {output : Option Text}
    (harguments : Invocation.ofArguments strings = .ok i) (htask : i.task = .package source output)
    (hexit : (outcome WebAssembly.engine strings files).exit = .ok success)
    (hfile : source.startsWith Invocation.examplePrefix = false)
    (hread : files.read (Path.ofText source) = .ok octets) (htext : Text.decode octets = .ok text) :
    Packed i.config output source (FileSystem.unifyNewlines text) (Text.unifyEnds octets) files
      (outcome WebAssembly.engine strings files) := by
  have heffects : Effects i.config files (outcome WebAssembly.engine strings files) i.task :=
    outcome_of_endings (P := (Effects i.config files · i.task)) harguments
      fun behaves errors => effects_ending behaves i.config i.task files errors
  rw [htask] at heffects
  obtain ⟨settings, name, kept, binary, data, hsettings, hsource, hbinary, harchives, hwrote⟩ :=
    heffects.1 hexit
  obtain rfl : FileSystem.unifyNewlines text = kept :=
    congrArg Prod.snd (Except.ok.inj ((sourceOf_file hfile hread htext).symm.trans hsource))
  have hnames : Documents.binaryName ≠ Documents.sourceName := by decide
  refine ⟨settings, binary, data, hsettings, hbinary, hwrote.gains, harchives, ?_⟩
  rw [← Text.encodeAny_unifyNewlines htext]
  simp [Entries.find?, Packaging.parts, hnames]

/-- **What is kept of a file** whose octets are those of a text.

Where a package of the file is written, the source in it is the octets of the file with all lines
ended alike.  Compiling the file is compiling the text with its lines ended so, and the artifact that
this gives has just these octets for a source.  They are the octets of the file just if there is no
carriage return in it. -/
theorem kept_source {p : Path} (hread : files.read p = .ok octets)
    (htext : Text.decode octets = .ok text) :
    (∀ strings i source output, Invocation.ofArguments strings = .ok i →
      i.task = .package source output → source.startsWith Invocation.examplePrefix = false →
      Path.ofText source = p → (outcome WebAssembly.engine strings files).exit = .ok success →
      Packed i.config output source (FileSystem.unifyNewlines text) (Text.unifyEnds octets) files
        (outcome WebAssembly.engine strings files)) ∧
    (p.suffix ≠ Compiler.binarySuffix → ∀ (id : Nat) (e : Engine M I) (logger : Text)
      (w : World M I H), w.files = files →
      Compiler.compileFile id e logger p w =
        Compiler.compileSource id e logger (FileSystem.unifyNewlines text) w ∧
      ∀ a, (Compiler.compileFile id e logger p w).1 = .ok a →
        a.source.encode = .ok (Text.unifyEnds octets)) ∧
    (Text.unifyEnds octets = octets ↔ 13 ∉ octets) := by
  refine ⟨?packaged, ?compiled, Text.unifyEnds_eq_self_iff⟩
  case packaged =>
    rintro strings i source output harguments htask hfile rfl hexit
    exact packed_of_exit harguments htask hexit hfile hread htext
  case compiled =>
    rintro hsuffix id e logger w rfl
    have hcompile : Compiler.compileFile id e logger p w =
        Compiler.compileSource id e logger (FileSystem.unifyNewlines text) w :=
      Compiler.compileFile_eq hsuffix (FileSystem.readText_eq_ok hread htext)
    refine ⟨hcompile, fun a ha => ?_⟩
    rw [hcompile] at ha
    rw [Compiler.source_of_compileSource ha, Text.encode_unifyNewlines htext]

/-! ## A carriage return -/

/-- A package is written of what can be compiled, where it can be published. -/
lemma exit_package {config output : Option Text} {settings : Settings} {a : Artifact Module}
    {name : Text} (hsettings : loadSettings config files = .ok settings)
    (hsource : sourceOf files source = .ok (name, text)) (hcompiled : compiled settings text = .ok a)
    (hpublish : ∀ data, (Packaging.publish data
      (outputPath settings output settings.archiveName) files).1 = .ok ())
    (behaves : Option Int → Module → Behaviour) (errors : Text) :
    ((ending behaves config (.package source output) files).outcome errors).exit =
      .ok success := by
  obtain ⟨-, hplain, -⟩ := Compiler.plain_of_outcome hcompiled
  have hpublish := hpublish (Archive.write (Packaging.parts a.binary a.source) Deflate.store)
  simp only [ending, hsettings, taskEnding, packageEnding, builtEnding, hsource, hcompiled,
    Pipeline.packageOutcome, Packaging.contents_of_not_hasSurrogate hplain]
  generalize Packaging.publish _ _ files = published at hpublish
  obtain ⟨r, after⟩ := published
  obtain rfl : r = .ok () := hpublish
  rfl

/-- The smallest module on a line that ends with two octets. -/
def returning : FileSystem :=
  (FileSystem.initial "/work").put (Place.working.child "m.wat")
    (.file (Text.encodeAny "(module)\r\n"))

/-- The octets that it ends with. -/
def returningOctets : Bytes := Text.encodeAny "(module)\r\n"

lemma read_returning : returning.read (Path.ofText "m.wat") = .ok returningOctets :=
  eq_ok_of_toOption (by decide +kernel)

lemma decode_returningOctets : Text.decode returningOctets = .ok "(module)\r\n" :=
  Text.decode_encodeAny (by decide) (by decide)

lemma arguments_returning :
    Invocation.ofArguments ["package", "m.wat"] = .ok ⟨none, false, .package "m.wat" none⟩ := rfl

lemma loadSettings_returning : loadSettings none returning = .ok {} :=
  eq_ok_of_toOption (by decide +kernel)

lemma exit_returning :
    (outcome WebAssembly.engine ["package", "m.wat"] returning).exit = .ok success := by
  have hsource : sourceOf returning "m.wat" = .ok ("m", "(module)\n") :=
    eq_ok_of_toOption (by decide +kernel)
  obtain ⟨a, hcompiled⟩ : ∃ a, compiled {} "(module)\n" = .ok a := by
    have hsome : (compiled {} "(module)\n").toOption.isSome = true := by decide +kernel
    obtain ⟨a, ha⟩ := Option.isSome_iff_exists.mp hsome
    exact ⟨a, eq_ok_of_toOption ha⟩
  have hpath : outputPath {} none ({} : Settings).archiveName = ⟨.here, ["wasm-module.zip"]⟩ := by
    decide
  have hpublish (data : Bytes) :
      (Packaging.publish data ⟨.here, ["wasm-module.zip"]⟩ returning).1 = .ok () := by
    with_unfolding_all rfl
  exact outcome_of_endings (P := (·.exit = .ok success)) arguments_returning
    (exit_package loadSettings_returning hsource hcompiled (by rwa [hpath]))

/-- The package of it holds one octet less, and so does the artifact. -/
theorem kept_source_returning :
    Packed none none "m.wat" "(module)\n" [0x28, 0x6D, 0x6F, 0x64, 0x75, 0x6C, 0x65, 0x29, 0x0A]
        returning (outcome WebAssembly.engine ["package", "m.wat"] returning) ∧
    ∃ a, (Compiler.compileFile 0 (WebAssembly.engine none) Compiler.loggerName (Path.ofText "m.wat")
        ({ files := returning, host := () } : World Module Instance Unit)).1 = .ok a ∧
      a.source.encode = .ok [0x28, 0x6D, 0x6F, 0x64, 0x75, 0x6C, 0x65, 0x29, 0x0A] := by
  obtain ⟨hpackaged, hcompiled, -⟩ :=
    kept_source (M := Module) (I := Instance) (H := Unit) read_returning decode_returningOctets
  have hkept : Text.unifyEnds returningOctets =
      [0x28, 0x6D, 0x6F, 0x64, 0x75, 0x6C, 0x65, 0x29, 0x0A] := by decide
  have hunified : FileSystem.unifyNewlines "(module)\r\n" = "(module)\n" := by decide
  rw [hkept, hunified] at hpackaged hcompiled
  constructor
  · exact hpackaged _ _ _ _ arguments_returning rfl (by decide) rfl exit_returning
  · have hsome : (Compiler.compileFile 0 (WebAssembly.engine none) Compiler.loggerName
        (Path.ofText "m.wat")
        ({ files := returning, host := () } : World Module Instance Unit)).1.toOption.isSome =
          true := by decide +kernel
    obtain ⟨a, ha⟩ := Option.isSome_iff_exists.mp hsome
    have ha := eq_ok_of_toOption ha
    exact ⟨a, ha, (hcompiled (by decide) 0 _ _ _ rfl).2 a ha⟩

/-- So there is a package in which the source is not the file that it was made from. -/
theorem archive_returning : ∃ data entries octets,
    returning.read (Path.ofText "m.wat") = .ok octets ∧
    (outcome WebAssembly.engine ["package", "m.wat"] returning).exit = .ok success ∧
    (outcome WebAssembly.engine ["package", "m.wat"] returning).files.read
      (Path.ofText "wasm-module.zip") = .ok data ∧
    Archive.read data = .ok entries ∧
    Entries.find? entries Documents.sourceName ≠ some octets := by
  obtain ⟨settings, binary, data, hsettings, hbinary, hgains, harchives, hfind⟩ :=
    packed_of_exit arguments_returning rfl exit_returning (by decide) read_returning
      decode_returningOctets
  obtain rfl := Except.ok.inj (hsettings.symm.trans loadSettings_returning)
  have hsize : binary.length < 2 ^ 30 := by
    have hlength : (binaryOf returning "m.wat").toOption.map List.length = some 8 := by
      decide +kernel
    rw [hbinary] at hlength
    have hlength : binary.length = 8 := Option.some.inj hlength
    omega
  have hcount := Packaging.countable_of_lt hsize
    (by decide : (FileSystem.unifyNewlines "(module)\r\n").encodeAny.length < 2 ^ 30)
  refine ⟨data, _, returningOctets, read_returning, exit_returning, hgains.read,
    harchives.readable hcount, ?_⟩
  rw [hfind]
  decide

end Execution

end WatWorkbench
