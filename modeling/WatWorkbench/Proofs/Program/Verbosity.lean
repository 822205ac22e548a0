import WatWorkbench.Proofs.CommandLine.Notes
import WatWorkbench.Proofs.Program.Endings

/-!
# Details

Having details told puts a handler on the root of the loggers and lowers the level there, so that the
channel of a pipeline is captured in another way: it takes records of progress anyway, and nothing has
to be kept away from others.  The log comes out the same, and with it all that the program prints on
the standard output stream, all that it does to the files and how it ends.

* `Outcome.SameButErrors` — two ends that differ on the standard error stream at most.
* `Louder` — a command line that asks for details besides.
* **`sameButErrors_of_louder`** — details come on the standard error stream alone.
-/

namespace WatWorkbench.Execution

/-- The two ends differ in what has been printed on the standard error stream at most. -/
structure Outcome.SameButErrors (o o' : Outcome) : Prop where
  exit : o'.exit = o.exit
  output : o'.output = o.output
  files : o'.files = o.files
  service : o'.service = o.service

/-- The second command line asks for what the first one asks for and for details, and is refused as
the first one is. -/
def Louder (quiet loud : List Text) : Prop :=
  Invocation.ofArguments loud =
    (Invocation.ofArguments quiet).map ({ · with isVerbose := true })

lemma louder_cons {flag : Text} (h : flag ∈ Invocation.verboseNames) (strings : List Text) :
    Louder strings (flag :: strings) := Invocation.ofArguments_cons h strings

lemma Louder.sameButErrors {quiet loud : List Text} (h : Louder quiet loud) (files : FileSystem) :
    (outcome WebAssembly.engine quiet files).SameButErrors
      (outcome WebAssembly.engine loud files) := by
  obtain ⟨behaves, hending⟩ := exists_ending
  rw [Louder] at h
  rcases hquiet : Invocation.ofArguments quiet with reply | i
  · rw [hquiet] at h
    have hsame : outcome WebAssembly.engine loud files = outcome WebAssembly.engine quiet files := by
      rw [outcome, outcome, hquiet, h]
      rfl
    rw [hsame]
    exact ⟨rfl, rfl, rfl, rfl⟩
  · rw [hquiet] at h
    obtain ⟨errors, hends⟩ := hending quiet i hquiet files
    obtain ⟨errors', hends'⟩ := hending loud _ h files
    rw [hends, hends']
    exact ⟨rfl, rfl, rfl, rfl⟩

/-- **Details come on the standard error stream alone.**  With the switch for them in front of a
command line, or anywhere where it is read as that switch, the program ends with the same status, has
printed the same on the standard output stream, every line of the log included, and leaves the same
files. -/
theorem sameButErrors_of_louder :
    (∀ flag ∈ Invocation.verboseNames, ∀ (strings : List Text) (files : FileSystem),
      (outcome WebAssembly.engine strings files).SameButErrors
        (outcome WebAssembly.engine (flag :: strings) files)) ∧
    ∀ (quiet loud : List Text), Louder quiet loud → ∀ files : FileSystem,
      (outcome WebAssembly.engine quiet files).SameButErrors
        (outcome WebAssembly.engine loud files) :=
  ⟨fun _ hflag strings files => (louder_cons hflag strings).sameButErrors files,
    fun _ _ h files => h.sameButErrors files⟩

/-- The switch in front of a command line and after another switch, where an example is run and where
there is no configuration file. -/
theorem sameButErrors_hello :
    (("-v" : Text) ∈ Invocation.verboseNames ∧
      (outcome WebAssembly.engine ["run", "example:hello"] (.initial "/work")).SameButErrors
        (outcome WebAssembly.engine ["-v", "run", "example:hello"] (.initial "/work"))) ∧
    Louder ["--config", "c.yaml", "run", "example:hello"]
        ["--config", "c.yaml", "--verbose", "run", "example:hello"] ∧
      (outcome WebAssembly.engine ["--config", "c.yaml", "run", "example:hello"]
        (.initial "/work")).SameButErrors
        (outcome WebAssembly.engine ["--config", "c.yaml", "--verbose", "run", "example:hello"]
          (.initial "/work")) :=
  have hflag : ("-v" : Text) ∈ Invocation.verboseNames := by decide
  have hlouder : Louder ["--config", "c.yaml", "run", "example:hello"]
    ["--config", "c.yaml", "--verbose", "run", "example:hello"] := rfl
  ⟨⟨hflag, sameButErrors_of_louder.1 _ hflag _ _⟩, hlouder,
    sameButErrors_of_louder.2 _ _ hlouder _⟩

end WatWorkbench.Execution
