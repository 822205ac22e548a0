import WatWorkbench.Wasm.Module
import WatWorkbench.Wasm.Table

/-!
# Instances

An instance is what a module is while it runs: its memories, its tables, its global variables, what
is left of its segments and what is left of its instruction budget.

* `Program` — the part of an instance that never changes.
* `Instance` — the type; `Instance.caller` is what host functions see of it.
-/

namespace WatWorkbench.Wasm

/-- A host function that a module asks for. -/
structure Link where
  /-- The namespace. -/
  module : Text
  /-- The name. -/
  name : Text
  /-- The type that the module gives it. -/
  type : FuncType
  deriving Inhabited

/-- The part of an instance that never changes. -/
structure Program where
  /-- The function types. -/
  types : Array FuncType
  /-- The types of all functions. -/
  signatures : Array FuncType
  /-- The host functions; they come first. -/
  links : Array Link
  /-- The functions that the module defines. -/
  funcs : Array Func
  /-- What the module offers. -/
  exports : List Export
  deriving Inhabited

/-- The program of a module. -/
def Program.ofModule (m : Module) : Program where
  types := m.types.toArray
  signatures := (m.funcTypes.map fun t => m.types[t]?.getD ⟨[], []⟩).toArray
  links := (m.imports.filterMap fun i => match i.type with
    | .func t => some ⟨i.module, i.name, m.types[t]?.getD ⟨[], []⟩⟩
    | _ => none).toArray
  funcs := m.funcs.toArray
  exports := m.exports

/-- The type of a block. -/
def Program.blockType (p : Program) : BlockType → FuncType
  | .empty => ⟨[], []⟩
  | .value t => ⟨[], [t]⟩
  | .index i => p.types.getD i ⟨[], []⟩

/-- A module that runs. -/
structure Instance where
  /-- What never changes. -/
  program : Program
  /-- The memories. -/
  memories : Array Memory := #[]
  /-- The global variables. -/
  globals : Array Val := #[]
  /-- The tables. -/
  tables : Array Table := #[]
  /-- The segments of references; one that has been dropped is empty. -/
  elems : Array (List Val) := #[]
  /-- The segments of octets; one that has been dropped is empty. -/
  datas : Array Bytes := #[]
  /-- What is left of the instruction budget, if there is one. -/
  fuel : Option Nat := none

/-- The export of the given name. -/
def Instance.export? (i : Instance) (name : Text) : Option Export :=
  i.program.exports.find? (·.name = name)

/-- What host functions see of an instance. -/
def Instance.caller (i : Instance) : Caller where
  exports := i.program.exports.map fun e => (e.name, match e.kind with
    | .func => .func
    | .table => .table
    | .memory => .memory (i.memories.getD e.index default)
    | .global => .global)

end WatWorkbench.Wasm
