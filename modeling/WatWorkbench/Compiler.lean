import WatWorkbench.Pipeline.World

/-!
# The compiler

From a source to an artifact: the engine translates the text and loads the binary.  When one of
the two fails there is no artifact at all, so the parts of an artifact always belong together.

* `Compiler.compileSource` — a source.
* `Compiler.loadBinary` — a binary that is there already.
* `Compiler.compileFile` — a file with either.
-/

namespace WatWorkbench.Compiler

variable {M I H : Type}

/-- The logger of translations that are given none. -/
def loggerName : Text := channelName ++ ".compiler.wat"

/-- What a binary begins with. -/
def magic : Bytes := [0, 0x61, 0x73, 0x6D]

/-- The suffix of files with binaries. -/
def binarySuffix : Text := ".wasm"

/-- The artifact of a module. -/
def assemble (module : M) (binary : Bytes) (source : Text) : Act (World M I H) (Artifact M) :=
  World.settle ((Artifact.ofModule module binary source).mapError .invalid)

/-- Translates a source.  One of blanks only is refused without asking the engine. -/
def compileSource (id : Nat) (e : Engine M I) (logger : Text) (source : Text) :
    Act (World M I H) (Artifact M) := do
  if source.trim.isEmpty then throw (.stage .compile "source is empty")
  let binary ← World.compileText id e source
  let module ← World.loadBinary id e binary
  World.log logger Level.debug "Compiled %d characters of WAT into %d bytes"
    [.int source.length, .int binary.length]
  assemble module binary source

/-- Loads a binary, which has to look like one. -/
def loadBinary (id : Nat) (e : Engine M I) (binary : Bytes) (source : Text) :
    Act (World M I H) (Artifact M) := do
  if !magic.isPrefixOf binary then
    throw (.stage .compile "input is not a WebAssembly binary (missing '\\0asm' header)")
  assemble (← World.loadBinary id e binary) binary source

/-- What a failure to read a source file is to the compiler. -/
def unreadable (p : Path) (e : Failure) : Failure :=
  match e with
  | .undecodable f => .stage .compile
      ("Source file '" ++ p.text ++ "' is not valid UTF-8: " ++ f.message)
  | .file _ | .raised .system _ => .stage .compile
      ("Cannot read source file '" ++ p.text ++ "': " ++ e.message)
  | e => e

/-- Compiles a file with a source, or loads one with a binary. -/
def compileFile (id : Nat) (e : Engine M I) (logger : Text) (p : Path) :
    Act (World M I H) (Artifact M) := do
  let files := (← get).files
  if p.suffix = binarySuffix then
    ExceptT.adapt (unreadable p) do loadBinary id e (← World.settle (files.read p)) ""
  else
    let source ← World.settle ((files.readText p).mapError (unreadable p))
    compileSource id e logger source

end WatWorkbench.Compiler
