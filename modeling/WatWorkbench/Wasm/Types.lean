import WatWorkbench.Text.Utf8

/-!
# Types of WebAssembly

The types that a module's text, its binary form and the machine share.

* `Width`, `ValType`, `FuncType` — values and functions.
* `Limits`, `TableType`, `GlobalType`, `ImportType` — the other things a module declares.
* `ExternKind` — what can be exported.
-/

namespace WatWorkbench.Wasm

/-- The type of a value. -/
inductive ValType where
  /-- Integers of 32 bits. -/
  | i32
  /-- Integers of 64 bits. -/
  | i64
  /-- Numbers of single precision. -/
  | f32
  /-- Numbers of double precision. -/
  | f64
  /-- References to functions. -/
  | funcref
  /-- References to things of the host. -/
  | externref
  deriving DecidableEq, Inhabited, Repr

namespace ValType

/-- Whether values of the type are numbers. -/
def isNumeric : ValType → Bool
  | funcref | externref => false
  | _ => true

/-- The name of a type. -/
def name : ValType → String
  | i32 => "i32"
  | i64 => "i64"
  | f32 => "f32"
  | f64 => "f64"
  | funcref => "funcref"
  | externref => "externref"

/-- The octet of a type in binary modules. -/
def code : ValType → UInt8
  | i32 => 0x7F
  | i64 => 0x7E
  | f32 => 0x7D
  | f64 => 0x7C
  | funcref => 0x70
  | externref => 0x6F

/-- Every type. -/
def all : List ValType := [i32, i64, f32, f64, funcref, externref]

/-- The type with a given octet. -/
def ofCode? (b : UInt8) : Option ValType := all.find? (·.code = b)

theorem ofCode?_code (t : ValType) : ofCode? t.code = some t := by
  cases t <;> decide

end ValType

/-- The two widths of numbers. -/
inductive Width where
  /-- 32 bits. -/
  | w32
  /-- 64 bits. -/
  | w64
  deriving DecidableEq, Inhabited, Repr

/-- How many bits a width is. -/
def Width.size : Width → Nat
  | w32 => 32
  | w64 => 64

/-- The integers of a width. -/
def Width.int : Width → ValType
  | w32 => .i32
  | w64 => .i64

/-- The floating-point numbers of a width. -/
def Width.float : Width → ValType
  | w32 => .f32
  | w64 => .f64

/-- The type of a function: what it takes and what it gives. -/
structure FuncType where
  /-- The types of the parameters. -/
  params : List ValType
  /-- The types of the results. -/
  results : List ValType
  deriving DecidableEq, Inhabited, Repr

/-- A size at the start and, possibly, the greatest size. -/
structure Limits where
  /-- The width of the integers that places are counted with. -/
  width : Width := .w32
  /-- The size at the start. -/
  min : Nat
  /-- The greatest size. -/
  max : Option Nat
  deriving DecidableEq, Inhabited, Repr

/-- The type of a table of references. -/
structure TableType where
  /-- How many references. -/
  limits : Limits
  /-- References to what. -/
  elem : ValType
  deriving DecidableEq, Inhabited, Repr

/-- The type of a global variable. -/
structure GlobalType where
  /-- Whether it may be set. -/
  mutable : Bool
  /-- The type of its value. -/
  type : ValType
  deriving DecidableEq, Inhabited, Repr

/-- What an import asks for.  Functions are given by the index of their type. -/
inductive ImportType where
  /-- A function. -/
  | func (type : Nat)
  /-- A table. -/
  | table (type : TableType)
  /-- A memory. -/
  | memory (limits : Limits)
  /-- A global variable. -/
  | global (type : GlobalType)
  deriving DecidableEq, Inhabited, Repr

/-- The kinds of things that a module exports. -/
inductive ExternKind where
  /-- Functions. -/
  | func
  /-- Tables. -/
  | table
  /-- Memories. -/
  | memory
  /-- Global variables. -/
  | global
  deriving DecidableEq, Inhabited, Repr

/-- The octet of a kind in binary modules. -/
def ExternKind.code : ExternKind → UInt8
  | func => 0
  | table => 1
  | memory => 2
  | global => 3

/-- The kind with a given octet. -/
def ExternKind.ofCode? (b : UInt8) : Option ExternKind :=
  [func, table, memory, global].find? (·.code = b)

/-- The size of a page of memory, in octets. -/
def pageSize : Nat := 65536

/-- The greatest number of pages of a memory whose octets are counted with integers of a width. -/
def maxPages (w : Width) : Nat := Nat.pow 2 (w.size - 16)

/-- The greatest number of references of a table that are counted with integers of a width. -/
def maxTableSize (w : Width) : Nat := Nat.pow 2 w.size - 1

/-- The greatest number of local variables of a function, its parameters among them. -/
def maxLocals : Nat := 50000

/-- The greatest length of a name in UTF-8. -/
def maxNameLength : Nat := 100000

end WatWorkbench.Wasm
