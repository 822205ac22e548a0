import WatWorkbench.Wasm.Types

/-!
# Instructions of WebAssembly

Instructions are structured: a block holds the instructions inside it.  Indices are resolved, so
that an instruction means the same wherever it came from.  The numeric instructions fall into
families, and a family's members come in the order of their codes; the name and the code of each
are read off these lists.

* `IntUnary`, `IntBinary`, … — the families.
* `NumOp` — a numeric instruction, with `NumOp.all`, its `name`, `code` and `type`.
* `LoadOp`, `StoreOp` — the instructions that read and write memory.
* `Instr` — the instructions.
-/

namespace WatWorkbench.Wasm

/-- Operations on one integer. -/
inductive IntUnary where
  | clz | ctz | popcnt
  deriving DecidableEq, Inhabited, Repr

/-- Operations on two integers. -/
inductive IntBinary where
  | add | sub | mul | divS | divU | remS | remU | and | or | xor | shl | shrS | shrU | rotl | rotr
  deriving DecidableEq, Inhabited, Repr

/-- Comparisons of two integers. -/
inductive IntCompare where
  | eq | ne | ltS | ltU | gtS | gtU | leS | leU | geS | geU
  deriving DecidableEq, Inhabited, Repr

/-- Operations on one floating-point number. -/
inductive FloatUnary where
  | abs | neg | ceil | floor | trunc | nearest | sqrt
  deriving DecidableEq, Inhabited, Repr

/-- Operations on two floating-point numbers. -/
inductive FloatBinary where
  | add | sub | mul | div | min | max | copysign
  deriving DecidableEq, Inhabited, Repr

/-- Comparisons of two floating-point numbers. -/
inductive FloatCompare where
  | eq | ne | lt | gt | le | ge
  deriving DecidableEq, Inhabited, Repr

/-- Conversions between numbers. -/
inductive Conversion where
  /-- The low half of a wide integer. -/
  | wrap
  /-- An integer from a floating-point number, trapping where there is none. -/
  | trunc (target : Width) (source : Width) (signed : Bool)
  /-- An integer from a floating-point number, clamped to the range. -/
  | truncSat (target : Width) (source : Width) (signed : Bool)
  /-- A wide integer from a narrow one. -/
  | extend (signed : Bool)
  /-- A floating-point number from an integer. -/
  | convert (target : Width) (source : Width) (signed : Bool)
  /-- Double precision to single. -/
  | demote
  /-- Single precision to double. -/
  | promote
  /-- The bits of a floating-point number as an integer. -/
  | toBits (width : Width)
  /-- The floating-point number with an integer's bits. -/
  | ofBits (width : Width)
  /-- Repeats the sign of the low bits in the bits above them. -/
  | signExtend (width : Width) (low : Nat)
  deriving DecidableEq, Inhabited, Repr

/-- A numeric instruction. -/
inductive NumOp where
  /-- Is the integer zero? -/
  | eqz (w : Width)
  /-- A comparison of integers. -/
  | icompare (w : Width) (op : IntCompare)
  /-- A comparison of floating-point numbers. -/
  | fcompare (w : Width) (op : FloatCompare)
  /-- An operation on an integer. -/
  | iunary (w : Width) (op : IntUnary)
  /-- An operation on two integers. -/
  | ibinary (w : Width) (op : IntBinary)
  /-- An operation on a floating-point number. -/
  | funary (w : Width) (op : FloatUnary)
  /-- An operation on two floating-point numbers. -/
  | fbinary (w : Width) (op : FloatBinary)
  /-- A conversion. -/
  | convert (op : Conversion)
  deriving DecidableEq, Inhabited, Repr

/-! ## Names -/

/-- The part of a name that tells signed from unsigned. -/
def signSuffix (signed : Bool) : String := if signed then "_s" else "_u"

/-- The members of `IntUnary` with their names, in the order of their codes. -/
def IntUnary.names : List (IntUnary × String) := [(clz, "clz"), (ctz, "ctz"), (popcnt, "popcnt")]

/-- The members of `IntBinary` with their names, in the order of their codes. -/
def IntBinary.names : List (IntBinary × String) :=
  [(add, "add"), (sub, "sub"), (mul, "mul"), (divS, "div_s"), (divU, "div_u"), (remS, "rem_s"),
    (remU, "rem_u"), (and, "and"), (or, "or"), (xor, "xor"), (shl, "shl"), (shrS, "shr_s"),
    (shrU, "shr_u"), (rotl, "rotl"), (rotr, "rotr")]

/-- The members of `IntCompare` with their names, in the order of their codes. -/
def IntCompare.names : List (IntCompare × String) :=
  [(eq, "eq"), (ne, "ne"), (ltS, "lt_s"), (ltU, "lt_u"), (gtS, "gt_s"), (gtU, "gt_u"),
    (leS, "le_s"), (leU, "le_u"), (geS, "ge_s"), (geU, "ge_u")]

/-- The members of `FloatUnary` with their names, in the order of their codes. -/
def FloatUnary.names : List (FloatUnary × String) :=
  [(abs, "abs"), (neg, "neg"), (ceil, "ceil"), (floor, "floor"), (trunc, "trunc"),
    (nearest, "nearest"), (sqrt, "sqrt")]

/-- The members of `FloatBinary` with their names, in the order of their codes. -/
def FloatBinary.names : List (FloatBinary × String) :=
  [(add, "add"), (sub, "sub"), (mul, "mul"), (div, "div"), (min, "min"), (max, "max"),
    (copysign, "copysign")]

/-- The members of `FloatCompare` with their names, in the order of their codes. -/
def FloatCompare.names : List (FloatCompare × String) :=
  [(eq, "eq"), (ne, "ne"), (lt, "lt"), (gt, "gt"), (le, "le"), (ge, "ge")]

/-- The name of a conversion. -/
def Conversion.name : Conversion → String
  | wrap => "i32.wrap_i64"
  | trunc target source signed =>
    target.int.name ++ ".trunc_" ++ source.float.name ++ signSuffix signed
  | truncSat target source signed =>
    target.int.name ++ ".trunc_sat_" ++ source.float.name ++ signSuffix signed
  | extend signed => "i64.extend_i32" ++ signSuffix signed
  | convert target source signed =>
    target.float.name ++ ".convert_" ++ source.int.name ++ signSuffix signed
  | demote => "f32.demote_f64"
  | promote => "f64.promote_f32"
  | toBits w => w.int.name ++ ".reinterpret_" ++ w.float.name
  | ofBits w => w.float.name ++ ".reinterpret_" ++ w.int.name
  | signExtend w low => w.int.name ++ ".extend" ++ String.ofList (Nat.toDigits 10 low) ++ "_s"

namespace NumOp

/-- The numeric instructions with a code of one octet, in the order of their codes, each with its
name.  The first has the code 0x45. -/
def oneOctet : List (NumOp × String) :=
  let compare w := (IntCompare.names.map fun (op, s) => (icompare w op, w.int.name ++ "." ++ s))
  let fcompare w := (FloatCompare.names.map fun (op, s) => (fcompare w op, w.float.name ++ "." ++ s))
  let integer w :=
    (IntUnary.names.map fun (op, s) => (iunary w op, w.int.name ++ "." ++ s))
      ++ (IntBinary.names.map fun (op, s) => (ibinary w op, w.int.name ++ "." ++ s))
  let floating w :=
    (FloatUnary.names.map fun (op, s) => (funary w op, w.float.name ++ "." ++ s))
      ++ (FloatBinary.names.map fun (op, s) => (fbinary w op, w.float.name ++ "." ++ s))
  let conversions : List Conversion :=
    [.wrap, .trunc .w32 .w32 true, .trunc .w32 .w32 false, .trunc .w32 .w64 true,
      .trunc .w32 .w64 false, .extend true, .extend false, .trunc .w64 .w32 true,
      .trunc .w64 .w32 false, .trunc .w64 .w64 true, .trunc .w64 .w64 false,
      .convert .w32 .w32 true, .convert .w32 .w32 false, .convert .w32 .w64 true,
      .convert .w32 .w64 false, .demote, .convert .w64 .w32 true, .convert .w64 .w32 false,
      .convert .w64 .w64 true, .convert .w64 .w64 false, .promote, .toBits .w32, .toBits .w64,
      .ofBits .w32, .ofBits .w64, .signExtend .w32 8, .signExtend .w32 16, .signExtend .w64 8,
      .signExtend .w64 16, .signExtend .w64 32]
  ((eqz .w32, "i32.eqz") :: compare .w32) ++ ((eqz .w64, "i64.eqz") :: compare .w64)
    ++ fcompare .w32 ++ fcompare .w64 ++ integer .w32 ++ integer .w64 ++ floating .w32
    ++ floating .w64 ++ conversions.map fun c => (convert c, c.name)

/-- The numeric instructions whose code is 0xFC and a number, in the order of that number, each
with its name. -/
def twoOctets : List (NumOp × String) :=
  ([.truncSat .w32 .w32 true, .truncSat .w32 .w32 false, .truncSat .w32 .w64 true,
    .truncSat .w32 .w64 false, .truncSat .w64 .w32 true, .truncSat .w64 .w32 false,
    .truncSat .w64 .w64 true, .truncSat .w64 .w64 false] : List Conversion).map
    fun c => (convert c, c.name)

/-- The least code of a numeric instruction. -/
def firstCode : Nat := 0x45

/-- The operand types and the result type of a numeric instruction. -/
def type : NumOp → List ValType × ValType
  | eqz w => ([w.int], .i32)
  | icompare w _ => ([w.int, w.int], .i32)
  | fcompare w _ => ([w.float, w.float], .i32)
  | iunary w _ => ([w.int], w.int)
  | ibinary w _ => ([w.int, w.int], w.int)
  | funary w _ => ([w.float], w.float)
  | fbinary w _ => ([w.float, w.float], w.float)
  | convert .wrap => ([.i64], .i32)
  | convert (.trunc target source _) => ([source.float], target.int)
  | convert (.truncSat target source _) => ([source.float], target.int)
  | convert (.extend _) => ([.i32], .i64)
  | convert (.convert target source _) => ([source.int], target.float)
  | convert .demote => ([.f64], .f32)
  | convert .promote => ([.f32], .f64)
  | convert (.toBits w) => ([w.float], w.int)
  | convert (.ofBits w) => ([w.int], w.float)
  | convert (.signExtend w _) => ([w.int], w.int)

end NumOp

/-! ## Memory access -/

/-- An instruction that reads memory. -/
structure LoadOp where
  /-- The type of the value. -/
  type : ValType
  /-- How many octets are read. -/
  size : Nat
  /-- Whether the sign is repeated in the bits that are not read. -/
  signed : Bool
  deriving DecidableEq, Inhabited, Repr

/-- An instruction that writes memory. -/
structure StoreOp where
  /-- The type of the value. -/
  type : ValType
  /-- How many octets are written. -/
  size : Nat
  deriving DecidableEq, Inhabited, Repr

/-- The number of octets of a whole value. -/
def ValType.size : ValType → Nat
  | i32 | f32 => 4
  | _ => 8

/-- The instructions that read memory, in the order of their codes.  The first has the code
0x28. -/
def LoadOp.all : List LoadOp :=
  [⟨.i32, 4, false⟩, ⟨.i64, 8, false⟩, ⟨.f32, 4, false⟩, ⟨.f64, 8, false⟩, ⟨.i32, 1, true⟩,
    ⟨.i32, 1, false⟩, ⟨.i32, 2, true⟩, ⟨.i32, 2, false⟩, ⟨.i64, 1, true⟩, ⟨.i64, 1, false⟩,
    ⟨.i64, 2, true⟩, ⟨.i64, 2, false⟩, ⟨.i64, 4, true⟩, ⟨.i64, 4, false⟩]

/-- The instructions that write memory, in the order of their codes.  The first has the code
0x36. -/
def StoreOp.all : List StoreOp :=
  [⟨.i32, 4⟩, ⟨.i64, 8⟩, ⟨.f32, 4⟩, ⟨.f64, 8⟩, ⟨.i32, 1⟩, ⟨.i32, 2⟩, ⟨.i64, 1⟩, ⟨.i64, 2⟩,
    ⟨.i64, 4⟩]

/-- The width of an access as it appears in names: nothing when the whole value is meant. -/
def accessWidth (type : ValType) (size : Nat) : String :=
  if size = type.size then "" else String.ofList (Nat.toDigits 10 (8 * size))

/-- The name of an instruction that reads memory. -/
def LoadOp.name (op : LoadOp) : String :=
  op.type.name ++ ".load" ++ accessWidth op.type op.size
    ++ if op.size = op.type.size then "" else signSuffix op.signed

/-- The name of an instruction that writes memory. -/
def StoreOp.name (op : StoreOp) : String :=
  op.type.name ++ ".store" ++ accessWidth op.type op.size

/-- Where memory is accessed: which memory, an alignment, as a power of two, and an offset to the
address. -/
structure MemArg where
  /-- The memory. -/
  memory : Nat := 0
  /-- The exponent of the alignment. -/
  align : Nat
  /-- The offset. -/
  offset : Nat
  deriving DecidableEq, Inhabited, Repr

/-! ## Instructions -/

/-- A number in one of the four formats, floating-point numbers by their bits. -/
inductive Number where
  /-- An integer of 32 bits. -/
  | i32 (n : UInt32)
  /-- An integer of 64 bits. -/
  | i64 (n : UInt64)
  /-- A number of single precision. -/
  | f32 (bits : UInt32)
  /-- A number of double precision. -/
  | f64 (bits : UInt64)
  deriving DecidableEq, Inhabited, Repr

/-- The type of a number. -/
def Number.type : Number → ValType
  | i32 _ => .i32
  | i64 _ => .i64
  | f32 _ => .f32
  | f64 _ => .f64

/-- What a block takes and gives. -/
inductive BlockType where
  /-- Nothing. -/
  | empty
  /-- It gives one value. -/
  | value (t : ValType)
  /-- As the function type of the given index says. -/
  | index (type : Nat)
  deriving DecidableEq, Inhabited, Repr

/-- An instruction. -/
inductive Instr where
  /-- Traps. -/
  | unreachable
  /-- Does nothing. -/
  | nop
  /-- A sequence that a branch leaves. -/
  | block (type : BlockType) (body : List Instr)
  /-- A sequence that a branch begins anew. -/
  | loop (type : BlockType) (body : List Instr)
  /-- One of two sequences.  The second may be left out, which is not the same in binary modules as
  an empty one. -/
  | ifElse (type : BlockType) (yes no : List Instr) (hasElse : Bool)
  /-- Branches. -/
  | br (label : Nat)
  /-- Branches if a condition holds. -/
  | brIf (label : Nat)
  /-- Branches to one of several labels. -/
  | brTable (labels : List Nat) (fallback : Nat)
  /-- Leaves the function. -/
  | ret
  /-- Calls a function. -/
  | call (func : Nat)
  /-- Calls a function of a table. -/
  | callIndirect (type table : Nat)
  /-- Leaves the function by calling another one in its place. -/
  | tailCall (func : Nat)
  /-- Leaves the function by calling one of a table in its place. -/
  | tailCallIndirect (type table : Nat)
  /-- Drops a value. -/
  | drop
  /-- Chooses one of two values. -/
  | select (types : Option (List ValType))
  /-- Reads a local variable. -/
  | localGet (index : Nat)
  /-- Sets a local variable. -/
  | localSet (index : Nat)
  /-- Sets a local variable and keeps the value. -/
  | localTee (index : Nat)
  /-- Reads a global variable. -/
  | globalGet (index : Nat)
  /-- Sets a global variable. -/
  | globalSet (index : Nat)
  /-- Reads memory. -/
  | load (op : LoadOp) (arg : MemArg)
  /-- Writes memory. -/
  | store (op : StoreOp) (arg : MemArg)
  /-- The size of a memory in pages. -/
  | memorySize (memory : Nat)
  /-- Lets a memory grow. -/
  | memoryGrow (memory : Nat)
  /-- Copies a range of one memory to another. -/
  | memoryCopy (target source : Nat)
  /-- Fills a range of a memory. -/
  | memoryFill (memory : Nat)
  /-- Copies a range of a segment of octets to a memory. -/
  | memoryInit (memory data : Nat)
  /-- Empties a segment of octets. -/
  | dataDrop (data : Nat)
  /-- Reads a table. -/
  | tableGet (table : Nat)
  /-- Writes a table. -/
  | tableSet (table : Nat)
  /-- The size of a table. -/
  | tableSize (table : Nat)
  /-- Lets a table grow. -/
  | tableGrow (table : Nat)
  /-- Fills a range of a table. -/
  | tableFill (table : Nat)
  /-- Copies a range of one table to another. -/
  | tableCopy (target source : Nat)
  /-- Copies a range of a segment of references to a table. -/
  | tableInit (table elem : Nat)
  /-- Empties a segment of references. -/
  | elemDrop (elem : Nat)
  /-- A constant. -/
  | const (n : Number)
  /-- A numeric operation. -/
  | num (op : NumOp)
  /-- The null reference of a type. -/
  | refNull (type : ValType)
  /-- Is the reference null? -/
  | refIsNull
  /-- A reference to a function. -/
  | refFunc (func : Nat)
  deriving Inhabited, Repr

end WatWorkbench.Wasm
