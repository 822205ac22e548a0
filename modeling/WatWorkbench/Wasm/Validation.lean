import WatWorkbench.Wasm.Module

/-!
# Validation

A module is valid when every index refers to something, every constant is constant and every
instruction finds operands of its types.  Instructions are checked against a stack of operand
types; after an instruction that never continues, the stack supplies whatever is asked for.

* `Operands` — the stack of operand types.
* `Context.checkAll` — what a sequence of instructions makes of the stack.
* `Module.isValid` — whether a module is valid.
-/

namespace WatWorkbench.Wasm

/-- The types of the operands at hand, the last one first; `none` stands for any type. -/
structure Operands where
  /-- The types. -/
  types : List (Option ValType) := []
  /-- Whether this point is never reached, so that there are operands of any type below these. -/
  dead : Bool := false
  deriving DecidableEq, Repr

namespace Operands

/-- The operands where nothing is ever reached. -/
def unreachable : Operands := ⟨[], true⟩

/-- The operands with one more. -/
def push (t : ValType) (s : Operands) : Operands := { s with types := some t :: s.types }

/-- The operands with more, the last of which comes on top. -/
def pushAll (ts : List ValType) (s : Operands) : Operands :=
  { s with types := (ts.map some).reverse ++ s.types }

/-- The type on top and the operands below it. -/
def popAny (s : Operands) : Option (Option ValType × Operands) :=
  match s.types with
  | t :: ts => some (t, { s with types := ts })
  | [] => if s.dead then some (none, s) else none

/-- The operands below one of the given type. -/
def pop (t : ValType) (s : Operands) : Option Operands := do
  let (found, s) ← s.popAny
  if found = none || found = some t then some s else none

/-- The operands below those of the given types, the last of which is on top. -/
def popAll (ts : List ValType) (s : Operands) : Option Operands :=
  ts.reverse.foldlM (fun s t => s.pop t) s

/-- Whether the operands are exactly of the given types. -/
def areExactly (ts : List ValType) (s : Operands) : Bool :=
  match s.popAll ts with
  | some rest => rest.types.isEmpty
  | none => false

end Operands

/-- What instructions may refer to. -/
structure Context where
  /-- The function types. -/
  types : Array FuncType
  /-- The types of the functions. -/
  funcs : Array FuncType
  /-- The tables. -/
  tables : Array TableType
  /-- The memories. -/
  memories : Array Limits
  /-- The types of the global variables. -/
  globals : Array GlobalType
  /-- The types of the segments of references. -/
  elems : Array ValType
  /-- How many segments of octets have been announced. -/
  datas : Nat
  /-- The functions that references may be made to. -/
  referable : List Nat
  /-- The types of the local variables. -/
  locals : Array ValType := #[]
  /-- The results of the function. -/
  results : List ValType := []

namespace Context

variable (c : Context)

/-- The type of a block, as that of a function. -/
def blockType? : BlockType → Option FuncType
  | .empty => some ⟨[], []⟩
  | .value t => some ⟨[], [t]⟩
  | .index i => c.types[i]?

/-- The width of the addresses of a memory. -/
def memoryWidth? (memory : Nat) : Option Width := c.memories[memory]?.map (·.width)

/-- The width of the indices of a table, and the type of its references. -/
def table? (table : Nat) : Option (Width × ValType) :=
  c.tables[table]?.map fun t => (t.limits.width, t.elem)

/-- The smaller of two widths. -/
def narrower : Width → Width → Width
  | .w64, .w64 => .w64
  | _, _ => .w32

/-- The operands after an instruction that takes and gives values of fixed types. -/
def apply (takes gives : List ValType) (s : Operands) : Option Operands :=
  (s.popAll takes).map (·.pushAll gives)

/-- The operands of an instruction that accesses a memory at an address, with other operands above
the address.  Nothing is aligned to more than its size, and an offset is itself an address. -/
def access (size : Nat) (arg : MemArg) (takes gives : List ValType) (s : Operands) :
    Option Operands := do
  let w ← c.memoryWidth? arg.memory
  if Nat.pow 2 arg.align ≤ size && arg.offset < Nat.pow 2 w.size then apply (w.int :: takes) gives s
  else none

/-- The operands after an instruction on memories. -/
def memoryInstr (s : Operands) : Instr → Option Operands
  | .memorySize m => do apply [] [(← c.memoryWidth? m).int] s
  | .memoryGrow m => do
    let w ← c.memoryWidth? m
    apply [w.int] [w.int] s
  | .memoryFill m => do
    let w ← c.memoryWidth? m
    apply [w.int, .i32, w.int] [] s
  | .memoryCopy target source => do
    let t ← c.memoryWidth? target
    let f ← c.memoryWidth? source
    apply [t.int, f.int, (narrower t f).int] [] s
  | .memoryInit m d => do
    let w ← c.memoryWidth? m
    if d < c.datas then apply [w.int, .i32, .i32] [] s else none
  | .dataDrop d => if d < c.datas then some s else none
  | _ => none

/-- The operands after an instruction on tables. -/
def tableInstr (s : Operands) : Instr → Option Operands
  | .tableGet t => do
    let (w, e) ← c.table? t
    apply [w.int] [e] s
  | .tableSet t => do
    let (w, e) ← c.table? t
    apply [w.int, e] [] s
  | .tableSize t => do apply [] [(← c.table? t).1.int] s
  | .tableGrow t => do
    let (w, e) ← c.table? t
    apply [e, w.int] [w.int] s
  | .tableFill t => do
    let (w, e) ← c.table? t
    apply [w.int, e, w.int] [] s
  | .tableCopy target source => do
    let (t, e) ← c.table? target
    let (f, g) ← c.table? source
    if e = g then apply [t.int, f.int, (narrower t f).int] [] s else none
  | .tableInit t segment => do
    let (w, e) ← c.table? t
    if c.elems[segment]? = some e then apply [w.int, .i32, .i32] [] s else none
  | .elemDrop segment => if segment < c.elems.size then some s else none
  | _ => none

/-- The operands that an indirect call finds, and the type of the function. -/
def indirect (type table : Nat) (s : Operands) : Option (FuncType × Operands) := do
  let t ← c.types[type]?
  let (w, e) ← c.table? table
  if e = .funcref then return (t, ← s.pop w.int) else none

/-- The operands after the function has been left by calling one of some type in its place. -/
def tailCall (t : FuncType) (s : Operands) : Option Operands := do
  let _ ← s.popAll t.params
  if t.results = c.results then some .unreachable else none

/-- The operands after a choice whose type is not given: two numbers of one type. -/
def choose (s : Operands) : Option Operands := do
  let s ← s.pop .i32
  let (a, s) ← s.popAny
  let (b, s) ← s.popAny
  if !a.all (·.isNumeric) || !b.all (·.isNumeric) then none
  else if a ≠ none && b ≠ none && a ≠ b then none
  else some { s with types := (if a = none then b else a) :: s.types }

/-- The operands after a branch to one of several labels. -/
def branchTable (labels : List (List ValType)) (ls : List Nat) (fallback : Nat) (s : Operands) :
    Option Operands := do
  let s ← s.pop .i32
  let last ← labels[fallback]?
  for l in ls do
    let ts ← labels[l]?
    if ts.length ≠ last.length then none
    let _ ← s.popAll ts
  let _ ← s.popAll last
  return .unreachable

/-- The operands after an instruction that holds no others. -/
def plain (labels : List (List ValType)) (s : Operands) : Instr → Option Operands
  | .unreachable => some .unreachable
  | .nop => some s
  | .br l => do
    let _ ← s.popAll (← labels[l]?)
    return .unreachable
  | .brIf l => do
    let ts ← labels[l]?
    apply ts ts (← s.pop .i32)
  | .brTable ls fallback => branchTable labels ls fallback s
  | .ret => do
    let _ ← s.popAll c.results
    return .unreachable
  | .call f => do
    let t ← c.funcs[f]?
    apply t.params t.results s
  | .callIndirect type table => do
    let (t, s) ← c.indirect type table s
    apply t.params t.results s
  | .tailCall f => do c.tailCall (← c.funcs[f]?) s
  | .tailCallIndirect type table => do
    let (t, s) ← c.indirect type table s
    c.tailCall t s
  | .drop => s.popAny.map (·.2)
  | .select none => choose s
  | .select (some [t]) => apply [t, t, .i32] [t] s
  | .select (some _) => none
  | .localGet x => do return s.push (← c.locals[x]?)
  | .localSet x => do s.pop (← c.locals[x]?)
  | .localTee x => do
    let t ← c.locals[x]?
    apply [t] [t] s
  | .globalGet x => do return s.push (← c.globals[x]?).type
  | .globalSet x => do
    let g ← c.globals[x]?
    if g.mutable then s.pop g.type else none
  | .load op arg => c.access op.size arg [] [op.type] s
  | .store op arg => c.access op.size arg [op.type] [] s
  | i@(.memorySize _) | i@(.memoryGrow _) | i@(.memoryFill _) | i@(.memoryCopy _ _)
  | i@(.memoryInit _ _) | i@(.dataDrop _) => c.memoryInstr s i
  | i@(.tableGet _) | i@(.tableSet _) | i@(.tableSize _) | i@(.tableGrow _) | i@(.tableFill _)
  | i@(.tableCopy _ _) | i@(.tableInit _ _) | i@(.elemDrop _) => c.tableInstr s i
  | .const n => some (s.push n.type)
  | .num op => apply op.type.1 [op.type.2] s
  | .refNull t => if t.isNumeric then none else some (s.push t)
  | .refIsNull => do
    let (t, s) ← s.popAny
    if t.any (·.isNumeric) then none else some (s.push .i32)
  | .refFunc f =>
    if f < c.funcs.size && c.referable.contains f then some (s.push .funcref) else none
  | .block _ _ | .loop _ _ | .ifElse _ _ _ _ => none

mutual

/-- The operands after an instruction.  `labels` are the types that the blocks around it take when
they are branched to, the innermost first. -/
def check (labels : List (List ValType)) : Instr → Operands → Option Operands
  | .block t body, s => do
    let f ← c.blockType? t
    let s ← s.popAll f.params
    let inner ← checkAll (f.results :: labels) body (Operands.pushAll f.params {})
    if inner.areExactly f.results then some (s.pushAll f.results) else none
  | .loop t body, s => do
    let f ← c.blockType? t
    let s ← s.popAll f.params
    let inner ← checkAll (f.params :: labels) body (Operands.pushAll f.params {})
    if inner.areExactly f.results then some (s.pushAll f.results) else none
  | .ifElse t yes no hasElse, s => do
    let f ← c.blockType? t
    let s ← s.pop .i32
    let s ← s.popAll f.params
    let first ← checkAll (f.results :: labels) yes (Operands.pushAll f.params {})
    let second ← checkAll (f.results :: labels) no (Operands.pushAll f.params {})
    if first.areExactly f.results && second.areExactly f.results
      && (hasElse || f.params = f.results)
    then some (s.pushAll f.results) else none
  | i, s => c.plain labels s i

/-- The operands after a sequence of instructions. -/
def checkAll (labels : List (List ValType)) : List Instr → Operands → Option Operands
  | [], s => some s
  | i :: is, s => do checkAll labels is (← check labels i s)

end

/-- Whether a sequence of instructions is a constant expression of a type. -/
def isConstant (t : ValType) (e : Expr) : Bool :=
  let constant : Instr → Bool
    | .const _ | .refNull _ | .refFunc _ => true
    | .globalGet x => c.globals[x]?.any (!·.mutable)
    | .num (.ibinary _ .add) | .num (.ibinary _ .sub) | .num (.ibinary _ .mul) => true
    | _ => false
  e.all constant && (c.checkAll [] e {}).any (·.areExactly [t])

end Context

namespace Module

variable (m : Module)

/-- The functions that an expression refers to. -/
def referredTo (e : Expr) : List Nat :=
  e.filterMap fun
    | .refFunc f => some f
    | _ => none

/-- The functions that are referred to outside of function bodies. -/
def referable : List Nat :=
  (m.exports.filterMap fun e => if e.kind = .func then some e.index else none)
    ++ (m.tables.flatMap fun t => t.init.toList.flatMap referredTo)
    ++ (m.globals.flatMap fun g => referredTo g.init)
    ++ (m.elems.flatMap fun e => match e.items with
      | .funcs fs => fs
      | .exprs _ items => items.flatMap referredTo)

/-- What the instructions of the module may refer to, if all types exist. -/
def context? : Option Context := do
  let types := m.types.toArray
  let funcs ← m.funcTypes.mapM (types[·]?)
  return {
    types, funcs := funcs.toArray, tables := m.tableTypes.toArray,
    memories := m.memoryTypes.toArray, globals := m.globalTypes.toArray,
    elems := (m.elems.map (·.items.type)).toArray, datas := m.dataCount.getD 0,
    referable := m.referable }

/-- Whether limits are in order and within a range. -/
def limitsValid (most : Nat) (l : Limits) : Bool :=
  l.min ≤ most && l.max.all fun max => l.min ≤ max && max ≤ most

/-- The greatest number of memories, and of tables. -/
def maxStorages : Nat := 100

/-- The greatest number of parameters, and of results, of a function. -/
def maxArity : Nat := 1000

/-- Whether a function is valid. -/
def funcValid (c : Context) (f : Func) : Bool :=
  match c.types[f.type]? with
  | none => false
  | some t =>
    let c := { c with locals := (t.params ++ f.locals).toArray, results := t.results }
    c.locals.size ≤ maxLocals
      && (c.checkAll [t.results] f.body {}).any (·.areExactly t.results)

/-- Whether the definitions of global variables are valid; each may refer to those before it. -/
def globalsValid (c : Context) : Nat → List Global → Bool
  | _, [] => true
  | count, g :: gs =>
    { c with globals := c.globals.take count }.isConstant g.type.type g.init
      && globalsValid c (count + 1) gs

/-- Whether what the places of a table hold first is valid; it may only refer to global variables
that are imported. -/
def tableValid (c : Context) (imported : Nat) (t : TableDef) : Bool :=
  t.init.all ({ c with globals := c.globals.take imported }.isConstant t.type.elem)

/-- Whether a segment of references is valid. -/
def elemValid (c : Context) (e : Elem) : Bool :=
  let itemsValid := match e.items with
    | .funcs fs => fs.all (· < c.funcs.size)
    | .exprs t items => items.all (c.isConstant t)
  let modeValid := match e.mode with
    | .active table offset =>
      match c.table? (table.getD 0) with
      | some (w, type) => type = e.items.type && c.isConstant w.int offset
      | none => false
    | _ => true
  itemsValid && modeValid

/-- Whether a segment of octets is valid. -/
def dataValid (c : Context) (d : Data) : Bool :=
  match d.target with
  | none => true
  | some (memory, offset) => (c.memoryWidth? memory).any fun w => c.isConstant w.int offset

/-- Whether an export refers to something. -/
def exportValid (c : Context) (e : Export) : Bool :=
  match e.kind with
  | .func => e.index < c.funcs.size
  | .table => e.index < c.tables.size
  | .memory => e.index < c.memories.size
  | .global => e.index < c.globals.size

/-- Whether a name is not too long. -/
def isShort (name : Text) : Bool := name.encodeAny.length ≤ maxNameLength

/-- Whether the sizes that a module declares are in order. -/
def sizesValid : Bool :=
  (m.types.all fun t => t.params.length ≤ maxArity && t.results.length ≤ maxArity)
    && (m.tableTypes.all fun t => limitsValid (maxTableSize t.limits.width) t.limits)
    && (m.memoryTypes.all fun l => limitsValid (maxPages l.width) l)
    && m.tableTypes.length ≤ maxStorages && m.memoryTypes.length ≤ maxStorages
    && (m.imports.all fun i => isShort i.module && isShort i.name)
    && m.exports.all (isShort ·.name)

/-- Whether a module is valid. -/
def isValid : Bool :=
  match m.context? with
  | none => false
  | some c =>
    let imported := m.globalTypes.length - m.globals.length
    m.sizesValid
    && m.tables.all (tableValid c imported)
    && globalsValid c imported m.globals
    && m.exports.all (exportValid c)
    && (m.exports.map (·.name)).Nodup
    && (m.start.all fun f => c.funcs[f]? = some ⟨[], []⟩)
    && m.elems.all (elemValid c)
    && m.datas.all (dataValid c)
    && m.funcs.all (funcValid c)

end Module

end WatWorkbench.Wasm
