import WatWorkbench.Wasm.Module

/-!
# The fields of a module's text

What a module's text says before names are resolved: parts are referred to by number or by name,
function types may be written out where they are used, and the instructions of a function are one
flat sequence in which blocks are opened and closed.

* `Ref` — a reference to a part; `Title` — what a part is called.
* `TypeUse` — the use of a function type.
* `Op` — an instruction in the flat sequence.
* `Field` — a part of a module.
-/

namespace WatWorkbench.Wasm.Syntax

/-- The name of a part, without the sign before it. -/
abbrev Ident := List Char

/-- A reference to a part. -/
inductive Ref where
  /-- By number. -/
  | index (n : Nat)
  /-- By name. -/
  | ident (name : Ident)
  deriving DecidableEq, Inhabited, Repr

/-- What a part is called. -/
structure Title where
  /-- The name by which the text refers to it. -/
  ident : Option Ident := none
  /-- The name that is kept for diagnostics in place of that one. -/
  label : Option Text := none
  deriving DecidableEq, Inhabited, Repr

/-- The name that is kept for diagnostics. -/
def Title.shown (t : Title) : Option Text := t.label.or (t.ident.map Text.ofChars)

/-- A parameter or a local variable. -/
structure Variable where
  /-- What it is called. -/
  title : Title := {}
  /-- Its type. -/
  type : ValType
  deriving DecidableEq, Inhabited, Repr

/-- The use of a function type: a reference, a type written out, or both. -/
structure TypeUse where
  /-- The reference. -/
  type : Option Ref := none
  /-- Whether a type is written out, be it with nothing in it. -/
  isInline : Bool := false
  /-- The parameters that are written out. -/
  params : List Variable := []
  /-- The results that are written out. -/
  results : List ValType := []
  deriving DecidableEq, Inhabited, Repr

/-- The function type that is written out. -/
def TypeUse.inline (t : TypeUse) : FuncType := ⟨t.params.map (·.type), t.results⟩

/-- The instructions that refer to one part and nothing else. -/
inductive RefOp where
  | br | brIf | call | tailCall | localGet | localSet | localTee | globalGet | globalSet | refFunc
  | memorySize | memoryGrow | memoryFill | dataDrop
  | tableGet | tableSet | tableSize | tableGrow | tableFill | elemDrop
  deriving DecidableEq, Inhabited, Repr

/-- The instructions that refer to two parts and nothing else. -/
inductive PairOp where
  /-- Copies from the second memory to the first. -/
  | memoryCopy
  /-- Copies from a segment of octets, which is the second part, to a memory. -/
  | memoryInit
  /-- Copies from the second table to the first. -/
  | tableCopy
  /-- Copies from a segment of references, which is the second part, to a table. -/
  | tableInit
  deriving DecidableEq, Inhabited, Repr

/-- The kinds of blocks. -/
inductive BlockKind where
  | block | loop | ifElse
  deriving DecidableEq, Inhabited, Repr

/-- An instruction in the flat sequence. -/
inductive Op where
  /-- An instruction that refers to no part. -/
  | plain (i : Instr)
  /-- An instruction that refers to one part. -/
  | ref (op : RefOp) (r : Ref)
  /-- An instruction that refers to two parts. -/
  | pair (op : PairOp) (first second : Ref)
  /-- An instruction that reads a memory. -/
  | load (op : LoadOp) (memory : Ref) (align offset : Nat)
  /-- An instruction that writes a memory. -/
  | store (op : StoreOp) (memory : Ref) (align offset : Nat)
  /-- A branch to one of several labels. -/
  | brTable (labels : List Ref)
  /-- A call of a function of a table; it may take the place of the function that calls. -/
  | callIndirect (isTail : Bool) (table : Ref) (type : TypeUse)
  /-- Opens a block. -/
  | opening (kind : BlockKind) (label : Title) (type : TypeUse)
  /-- Begins the other branch. -/
  | other (label : Option Ident)
  /-- Closes a block. -/
  | closing (label : Option Ident)
  deriving Inhabited, Repr

/-- What an import asks for. -/
inductive ImportItem where
  /-- A function. -/
  | func (type : TypeUse)
  /-- A table. -/
  | table (type : TableType)
  /-- A memory. -/
  | memory (limits : Limits)
  /-- A global variable. -/
  | global (type : GlobalType)
  deriving Inhabited, Repr

/-- Where a segment of references goes. -/
inductive ElemPlace where
  /-- Into a table. -/
  | active (table : Option Ref) (offset : List Op)
  /-- Into the table that is the last one so far. -/
  | activeLast (offset : List Op)
  /-- Where instructions put it. -/
  | passive
  /-- Nowhere. -/
  | declared
  deriving Inhabited, Repr

/-- The references of a segment. -/
inductive ElemList where
  /-- Functions. -/
  | funcs (refs : List Ref)
  /-- Expressions. -/
  | exprs (type : ValType) (items : List (List Op))
  deriving Inhabited, Repr

/-- Where a segment of octets goes. -/
inductive DataPlace where
  /-- Into a memory. -/
  | active (memory : Ref) (offset : List Op)
  /-- Into the memory that is the last one so far. -/
  | activeLast (offset : List Op)
  /-- Where instructions put it. -/
  | passive
  deriving Inhabited, Repr

/-- A reference to the part an export offers, or the part of that kind defined last. -/
inductive ExportRef where
  /-- The part referred to. -/
  | ref (r : Ref)
  /-- The last one so far. -/
  | last
  deriving Inhabited, Repr

/-- A part of a module. -/
inductive Field where
  /-- A function type. -/
  | type (title : Title) (params : List Variable) (results : List ValType)
  /-- An import. -/
  | imported (title : Title) (module item : Text) (type : ImportItem)
  /-- A function. -/
  | func (title : Title) (type : TypeUse) (locals : List Variable) (body : List Op)
  /-- A table. -/
  | table (title : Title) (type : TableType) (init : Option (List Op))
  /-- A memory. -/
  | memory (title : Title) (limits : Limits)
  /-- A global variable. -/
  | global (title : Title) (type : GlobalType) (init : List Op)
  /-- An export. -/
  | exported (name : Text) (kind : ExternKind) (ref : ExportRef)
  /-- The function called at the end of instantiation. -/
  | start (func : Ref)
  /-- A segment of references. -/
  | elem (title : Title) (place : ElemPlace) (items : ElemList)
  /-- A segment of octets. -/
  | data (title : Title) (place : DataPlace) (bytes : Bytes)
  /-- Octets for other programs. -/
  | custom (content : CustomSection)
  deriving Inhabited, Repr

/-- A module's text. -/
structure Source where
  /-- What the module is called. -/
  title : Title := {}
  /-- Its parts, in the order of the text. -/
  fields : List Field := []
  deriving Inhabited, Repr

end WatWorkbench.Wasm.Syntax
