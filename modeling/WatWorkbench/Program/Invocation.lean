import WatWorkbench.CommandLine.Parser

/-!
# Invocations

What the program is asked to do, read from its command line.

* `Task`, `Invocation` — what can be asked for.
* `Invocation.suite` — the grammar of the command line.
* `Invocation.ofArguments` — reads a command line.
-/

namespace WatWorkbench

/-- What the program can do. -/
inductive Task where
  /-- Lists the examples, or shows the one with a key. -/
  | examples (key : Option Text)
  /-- Compiles a source to a file. -/
  | compile (source : Text) (output : Option Text)
  /-- Compiles a source and runs it. -/
  | run (source : Text)
  /-- Compiles a source to an archive. -/
  | package (source : Text) (output : Option Text)
  /-- Serves the playground. -/
  | serve (host : Text) (port : Int)
  deriving DecidableEq, Inhabited, Repr

/-- What the program is asked to do. -/
structure Invocation where
  /-- The path of the configuration file, if it is given. -/
  config : Option Text
  /-- Whether details are told. -/
  isVerbose : Bool
  /-- The task. -/
  task : Task
  deriving DecidableEq, Inhabited, Repr

namespace Invocation

open CommandLine

/-! ## The grammar -/

/-- The name of the program. -/
def program : Text := "wasmplay"

/-- How sources that are examples begin. -/
def examplePrefix : Text := "example:"

/-- What the help says about sources. -/
def sourceHelp : Text :=
  "Path to a .wat file, or '" ++ examplePrefix ++ "<key>' for a built-in example"

/-- An operand for a source. -/
def sourceOperand : Operand := ⟨"source", .one, some sourceHelp⟩

/-- A switch for a path of an output. -/
def outputSwitch (help : Text) : Switch := ⟨"output", ["-o", "--output"], .take .text, help⟩

/-- A command. -/
def command (name summary description : Text) (switches : List Switch)
    (operand : Option Operand) : Command :=
  ⟨name, summary, ⟨program ++ " " ++ name, description, .ofHelp :: switches, operand⟩⟩

/-- Lists or shows examples. -/
def examplesCommand : Command :=
  command "examples" "List the built-in examples or print one of them"
    "List the built-in example modules, or print the source of one example." []
    (some ⟨"key", .atMostOne, some "Example to print"⟩)

/-- Compiles a source. -/
def compileCommand : Command :=
  command "compile" "Compile a WAT source to a .wasm binary"
    "Compile WebAssembly Text Format source into its binary encoding."
    [outputSwitch "Output path (default: <name>.wasm)"] (some sourceOperand)

/-- Runs a source. -/
def runCommand : Command :=
  command "run" "Compile and run a module"
    "Compile a module, invoke its 'main' export, and print logs and results." []
    (some sourceOperand)

/-- Packages a source. -/
def packageCommand : Command :=
  command "package" "Bundle a compiled module for offline use"
    "Compile a module and write a zip with the binary, source, runner page, and README."
    [outputSwitch "Archive path (default: from config)"] (some sourceOperand)

/-- The port that is used by default. -/
def defaultPort : Int := 8050

/-- The host that is used by default. -/
def defaultHost : Text := "127.0.0.1"

/-- Serves the playground. -/
def serveCommand : Command :=
  command "serve" "Launch the interactive playground"
    "Launch a web-based playground for editing, running, and packaging modules."
    [ ⟨"port", ["--port"], .take .integer,
        "Port to run the server on (default: " ++ Text.integer defaultPort ++ ")"⟩,
      ⟨"host", ["--host"], .take .text,
        "Host to bind the server to (default: " ++ defaultHost ++ ")"⟩ ]
    none

/-- The grammar of the command line. -/
def suite : Suite where
  grammar :=
    { program
      description := "wasmplay: compile, run, and package WebAssembly text modules"
      switches :=
        [ .ofHelp,
          ⟨"config", ["--config"], .take .text,
            "Path to a configuration file (default: ./.wasmplay.yaml if present)"⟩,
          ⟨"verbose", ["-v", "--verbose"], .note, "Also print debug diagnostics to stderr"⟩ ]
      operand := some ⟨"COMMAND", .rest, none⟩ }
  commands := [examplesCommand, compileCommand, runCommand, packageCommand, serveCommand]

/-! ## Reading -/

/-- The text that a switch took last. -/
def textOf (r : Reading) (key : Text) : Option Text :=
  match r.switches.lookup key with
  | some (some (.text t)) => some t
  | _ => none

/-- The integer that a switch took last. -/
def integerOf (r : Reading) (key : Text) : Option Int :=
  match r.switches.lookup key with
  | some (some (.integer i)) => some i
  | _ => none

/-- What the operand took. -/
def operandOf (r : Reading) : Option Text := (r.operands.getD []).head?

/-- The task of a command with what followed its name. -/
def taskOf (name : Text) (r : Reading) : Task :=
  let source := (operandOf r).getD ""
  let output := textOf r "output"
  if name = examplesCommand.name then .examples (operandOf r)
  else if name = compileCommand.name then .compile source output
  else if name = runCommand.name then .run source
  else if name = packageCommand.name then .package source output
  else .serve ((textOf r "host").getD defaultHost) ((integerOf r "port").getD defaultPort)

/-- Reads a command line.  Without a command the program only shows its help. -/
def ofArguments (strings : List Text) : Except Reply Invocation := do
  let parsed ← suite.read strings
  match parsed.command with
  | none => .error { output := suite.help }
  | some (c, r) =>
    return { config := textOf parsed.suite "config"
             isVerbose := (parsed.suite.switches.lookup (Text.ofString "verbose")).isSome
             task := taskOf c.name r }

end Invocation

end WatWorkbench
