import WatWorkbench.Engine.Basic
import WatWorkbench.Wasm.Binary.Reader
import WatWorkbench.Wasm.Instantiation
import WatWorkbench.Wasm.Translation
import WatWorkbench.Wasm.Validation

/-!
# The WebAssembly engine

Translation, validation, linking and execution of real modules, with or without an instruction
budget.  The engine's own complaints are not part of what it promises, so they are written as one
mark; what the linker and the host functions say is.

* `WebAssembly.compile`, `WebAssembly.load` — from text to binary and from binary to module.
* `WebAssembly.checkImports` — what is wrong with an import table, first import first.
* `WebAssembly.call` — a call of an export, which also gives the instance after it.
* `WebAssembly.engine` — the engine.
-/

namespace WatWorkbench.WebAssembly

open Wasm

/-- The failure with the engine's own complaint, at a stage. -/
def complaint (s : Stage) : Failure := .stage s engineComplaint

/-- The binary form of a text. -/
def compile (source : Text) : Except Failure Bytes :=
  match source.encode with
  | .error f => .error (.stage .compile f.message)
  | .ok _ =>
    match translate source.toChars with
    | some bs => .ok bs
    | none => .error (complaint .compile)

/-- The binary form of what is to be loaded.  Octets that do not begin with a zero, as a binary does,
are taken for a text and translated. -/
def binaryForm? (octets : Bytes) : Option Bytes :=
  match octets with
  | [] | 0 :: _ => some octets
  | _ =>
    match Text.decode octets with
    | .ok t => translate t.toChars
    | .error _ => none

/-- The module of a binary, or of a text in its place. -/
def load (octets : Bytes) : Except Failure Module :=
  match (binaryForm? octets).bind Binary.read with
  | some m => if m.isValid then .ok m else .error (complaint .compile)
  | none => .error (complaint .compile)

/-! ## Linking -/

/-- The full name of an import. -/
def importLabel (module name : Text) : Text := module ++ "." ++ name

/-- What is wrong with one import, if anything is. -/
def importFault (table : ImportTable Binding) (i : Wasm.Import) : Option Failure :=
  let refuse (before after : Text) : Option Failure :=
    some (.stage .runtime (before ++ importLabel i.module i.name ++ after))
  match table.lookup? i.module i.name with
  | none | some (.inert false .null) => refuse "unknown import: " ""
  | some b =>
    match i.type, b with
    | .func _, .callable => none
    | .func _, .inert _ _ => refuse "import " " is not callable"
    | _, _ => refuse "unsupported import kind for " ": only functions can be imported"

/-- Whether every import of one name is of one type. -/
def importsAgree (m : Module) : Bool :=
  m.imports.all fun i => m.imports.all fun j =>
    i.module ≠ j.module || i.name ≠ j.name || typeOf i = typeOf j
where
  /-- The function type of an import. -/
  typeOf (i : Wasm.Import) : Option FuncType :=
    match i.type with
    | .func t => m.types[t]?
    | _ => none

/-- What is wrong with the imports: the first of them that cannot be satisfied, or one name that is
asked for with different types. -/
def checkImports (m : Module) (table : ImportTable Binding) : Except Failure Unit :=
  match m.imports.findSome? (importFault table) with
  | some e => .error e
  | none => if importsAgree m then .ok () else .error (complaint .runtime)

/-! ## Execution -/

/-- A failure of a host function as the module's caller sees it.  A trap speaks for itself; any
other failure is told with the import's name, unless that text cannot be encoded. -/
def hostFailure (q : HostCall) : Failure → Failure
  | .raised .trap m => .stage .runtime m
  | e =>
    let text := "host function " ++ importLabel q.module q.name ++ " failed: " ++ e.message
    match text.encode with
    | .ok _ => .stage .runtime text
    | .error f => .unencodable f

/-- A script whose host failures are told to the module's caller. -/
def guarded {α : Type} : Script α → Script α
  | .done a => .done a
  | .call q resume => .call q fun r => guarded (resume (r.mapError (hostFailure q)))

/-- The budget as the machine counts it. -/
def budget (fuel : Option Int) : Option Nat := fuel.map fun n => (n % 0x10000000000000000).toNat

/-- A new instance of a module. -/
def instantiate (fuel : Option Int) (m : Module) (table : ImportTable Binding) :
    Script (Except Failure Instance) :=
  match checkImports m table with
  | .error e => .done (.error e)
  | .ok () => guarded (Instance.ofModule m (budget fuel))

/-- The function that an instance exports under a name. -/
def exportedFunc? (i : Instance) (name : Text) : Option Nat :=
  match i.export? name with
  | some ⟨_, .func, index⟩ => some index
  | _ => none

/-- The type of a function of an instance. -/
def signature (i : Instance) (index : Nat) : FuncType :=
  i.program.signatures.getD index ⟨[], []⟩

/-- Whether an instance exports a function of a name that takes nothing. -/
def hasEntry (i : Instance) (name : Text) : Bool :=
  match exportedFunc? i name with
  | some f => (signature i f).params.isEmpty
  | none => false

/-- Calls an export without arguments; also gives the instance after the call. -/
def call (i : Instance) (name : Text) : Script (Except Failure Value × Instance) :=
  match exportedFunc? i name with
  | none => .done (.error (.stage .runtime ("export '" ++ name ++ "' is not a function")), i)
  | some f =>
    if (signature i f).params.isEmpty then do
      let (outcome, i) ← guarded (i.invoke f [])
      return (outcome.map Val.toResult, i)
    else .done (.error (complaint .runtime), i)

/-- The engine.  Its answers do not depend on what it was asked before. -/
def engine (fuel : Option Int) : Engine Module Instance where
  compile _ source := compile source
  load _ binary := load binary
  instantiate _ m table := instantiate fuel m table
  hasEntry _ i name := .ok (hasEntry i name)
  invoke _ i name := do return (← call i name).1

end WatWorkbench.WebAssembly
