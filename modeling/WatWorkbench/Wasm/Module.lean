import WatWorkbench.Wasm.Instr

/-!
# Modules of WebAssembly

A module with all its indices resolved.  Things that are imported come before those that are
defined, in each index space.

* `Module` — the module.
* `CustomSection` — octets that a module carries along for other programs.
* `Names` — the names that a module's text gave to its parts, kept for diagnostics.
* `Module.funcType?` and its companions — the index spaces.
-/

namespace WatWorkbench.Wasm

/-- A sequence of instructions that is evaluated once, at instantiation. -/
abbrev Expr := List Instr

/-- Something a module asks for. -/
structure Import where
  /-- The name of the module it comes from. -/
  module : Text
  /-- Its name in that module. -/
  name : Text
  /-- What it has to be. -/
  type : ImportType
  deriving DecidableEq, Inhabited, Repr

/-- A function that a module defines. -/
structure Func where
  /-- The index of its type. -/
  type : Nat
  /-- The types of its local variables, parameters left out. -/
  locals : List ValType
  /-- Its instructions. -/
  body : List Instr
  deriving Inhabited, Repr

/-- A table that a module defines. -/
structure TableDef where
  /-- Its type. -/
  type : TableType
  /-- What its places hold first, if not null references. -/
  init : Option Expr := none
  deriving Inhabited, Repr

/-- A global variable that a module defines. -/
structure Global where
  /-- Its type. -/
  type : GlobalType
  /-- Its first value. -/
  init : Expr
  deriving Inhabited, Repr

/-- Something a module offers. -/
structure Export where
  /-- Its name. -/
  name : Text
  /-- What it is. -/
  kind : ExternKind
  /-- Its index among things of its kind. -/
  index : Nat
  deriving DecidableEq, Inhabited, Repr

/-- When the references of a segment are used. -/
inductive ElemMode where
  /-- They are written into a table at instantiation; which table may be left unsaid. -/
  | active (table : Option Nat) (offset : Expr)
  /-- Instructions may write them. -/
  | passive
  /-- They only declare that the functions are referred to. -/
  | declared
  deriving Inhabited, Repr

/-- The references of a segment. -/
inductive ElemItems where
  /-- Functions by their indices. -/
  | funcs (indices : List Nat)
  /-- References of a type, each by an expression. -/
  | exprs (type : ValType) (items : List Expr)
  deriving Inhabited, Repr

/-- The type of the references. -/
def ElemItems.type : ElemItems → ValType
  | funcs _ => .funcref
  | exprs t _ => t

/-- A segment of references. -/
structure Elem where
  /-- When it is used. -/
  mode : ElemMode
  /-- Its references. -/
  items : ElemItems
  deriving Inhabited, Repr

/-- A segment of octets. -/
structure Data where
  /-- The memory and the place in it where the octets go at instantiation, if they do. -/
  target : Option (Nat × Expr)
  /-- The octets. -/
  bytes : Bytes
  deriving Inhabited, Repr

/-- Names by index. -/
abbrev NameMap := List (Nat × Text)

/-- The names that a module's text gave to its parts. -/
structure Names where
  /-- The module. -/
  module : Option Text := none
  /-- Functions. -/
  funcs : NameMap := []
  /-- Local variables, by function. -/
  locals : List (Nat × NameMap) := []
  /-- Labels, by function. -/
  labels : List (Nat × NameMap) := []
  /-- Types. -/
  types : NameMap := []
  /-- Tables. -/
  tables : NameMap := []
  /-- Memories. -/
  memories : NameMap := []
  /-- Global variables. -/
  globals : NameMap := []
  /-- Segments of references. -/
  elems : NameMap := []
  /-- Segments of octets. -/
  datas : NameMap := []
  /-- Parameters of function types, by type. -/
  typeParams : List (Nat × NameMap) := []
  deriving DecidableEq, Inhabited, Repr

/-- The kinds of sections that others may be placed next to. -/
inductive SectionKind where
  | type | imported | func | table | memory | tag | global | exported | start | elem | code | data
  deriving DecidableEq, Inhabited, Repr

/-- Where a section of octets for other programs stands. -/
inductive CustomPlace where
  /-- Before all sections. -/
  | first
  /-- Before the place of a kind of section. -/
  | before (kind : SectionKind)
  /-- After the place of a kind of section. -/
  | after (kind : SectionKind)
  /-- After all sections. -/
  | last
  deriving DecidableEq, Inhabited, Repr

/-- Octets that a module carries along for other programs. -/
structure CustomSection where
  /-- The name. -/
  name : Text
  /-- Where it stands. -/
  place : CustomPlace
  /-- The octets. -/
  bytes : Bytes
  deriving DecidableEq, Inhabited, Repr

/-- A module. -/
structure Module where
  /-- The function types. -/
  types : List FuncType := []
  /-- What is asked for. -/
  imports : List Import := []
  /-- The functions. -/
  funcs : List Func := []
  /-- The tables. -/
  tables : List TableDef := []
  /-- The memories. -/
  memories : List Limits := []
  /-- The global variables. -/
  globals : List Global := []
  /-- What is offered. -/
  exports : List Export := []
  /-- The function called at the end of instantiation. -/
  start : Option Nat := none
  /-- The segments of references. -/
  elems : List Elem := []
  /-- The segments of octets. -/
  datas : List Data := []
  /-- The number of segments of octets as it is announced before the code, if it is. -/
  dataCount : Option Nat := none
  /-- The names of its parts. -/
  names : Names := {}
  /-- What it carries along for other programs. -/
  customs : List CustomSection := []
  deriving Inhabited, Repr

namespace Module

variable (m : Module)

/-- The types of the imported functions, by index. -/
def importedFuncs : List Nat :=
  m.imports.filterMap fun i => match i.type with
    | .func t => some t
    | _ => none

/-- The types of all functions, by index. -/
def funcTypes : List Nat := m.importedFuncs ++ m.funcs.map (·.type)

/-- The types of all tables. -/
def tableTypes : List TableType :=
  (m.imports.filterMap fun i => match i.type with
    | .table t => some t
    | _ => none) ++ m.tables.map (·.type)

/-- The sizes of all memories. -/
def memoryTypes : List Limits :=
  (m.imports.filterMap fun i => match i.type with
    | .memory l => some l
    | _ => none) ++ m.memories

/-- The types of all global variables. -/
def globalTypes : List GlobalType :=
  (m.imports.filterMap fun i => match i.type with
    | .global t => some t
    | _ => none) ++ m.globals.map (·.type)

/-- The type of a function. -/
def funcType? (index : Nat) : Option FuncType := m.funcTypes[index]?.bind (m.types[·]?)

/-- The type of a block, as that of a function. -/
def blockType? : BlockType → Option FuncType
  | .empty => some ⟨[], []⟩
  | .value t => some ⟨[], [t]⟩
  | .index i => m.types[i]?

end Module

end WatWorkbench.Wasm
