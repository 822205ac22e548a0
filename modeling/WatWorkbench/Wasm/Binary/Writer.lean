import WatWorkbench.Wasm.Leb128
import WatWorkbench.Wasm.Module

/-!
# Writing binary modules

The binary form of a module: a header, then a section for each kind of part that the module has,
in a fixed order.  Integers take as few octets as possible.  Names come last, in a section that
machines ignore.

* `Binary.write` — the octets of a module.
-/

namespace WatWorkbench.Wasm.Binary

/-- What every binary module begins with. -/
def magic : Bytes := [0x00, 0x61, 0x73, 0x6D]

/-- The version of the format. -/
def version : Bytes := [0x01, 0x00, 0x00, 0x00]

/-! ## Pieces -/

/-- A natural. -/
def nat (n : Nat) : Bytes := Leb128.unsigned n

/-- A sequence: its length and its members. -/
def vec {α : Type} (f : α → Bytes) (xs : List α) : Bytes := nat xs.length ++ xs.flatMap f

/-- Octets with their length before them. -/
def sized (bs : Bytes) : Bytes := nat bs.length ++ bs

/-- A name. -/
def name (t : Text) : Bytes := sized t.encodeAny

/-- Limits.  The first octet says whether there is a greatest size and whether places are counted
with wide integers. -/
def limits (l : Limits) : Bytes :=
  let wide : UInt8 := if l.width = .w64 then 0x04 else 0x00
  match l.max with
  | none => wide :: nat l.min
  | some m => (wide + 0x01) :: nat l.min ++ nat m

/-- A table type. -/
def tableType (t : TableType) : Bytes := t.elem.code :: limits t.limits

/-- A global variable's type. -/
def globalType (t : GlobalType) : Bytes := [t.type.code, if t.mutable then 1 else 0]

/-- A function type. -/
def funcType (t : FuncType) : Bytes :=
  0x60 :: vec (fun v : ValType => [v.code]) t.params ++ vec (fun v : ValType => [v.code]) t.results

/-- A block type: an octet, or the index of a function type as a signed integer. -/
def blockType : BlockType → Bytes
  | .empty => [0x40]
  | .value t => [t.code]
  | .index i => Leb128.signed i

/-- Bits from the right, an octet at a time. -/
def littleEndian : Nat → Nat → Bytes
  | 0, _ => []
  | size + 1, n => (n % 256).toUInt8 :: littleEndian size (n / 256)

/-! ## Instructions -/

/-- The code of a numeric instruction. -/
def numOp (op : NumOp) : Bytes :=
  match (NumOp.oneOctet.map (·.1)).idxOf? op with
  | some i => [(NumOp.firstCode + i).toUInt8]
  | none => 0xFC :: nat ((NumOp.twoOctets.map (·.1)).idxOf op)

/-- The mark of an access to another memory than the first one. -/
def otherMemory : Nat := 0x40

/-- Where memory is accessed. -/
def memArg (a : MemArg) : Bytes :=
  (if a.memory = 0 then nat a.align else nat (otherMemory + a.align) ++ nat a.memory)
    ++ nat a.offset

/-- A constant. -/
def const : Number → Bytes
  | .i32 n => 0x41 :: Leb128.signed n.toInt32.toInt
  | .i64 n => 0x42 :: Leb128.signed n.toInt64.toInt
  | .f32 bits => 0x43 :: littleEndian 4 bits.toNat
  | .f64 bits => 0x44 :: littleEndian 8 bits.toNat

/-- The octet that ends a sequence of instructions. -/
def endCode : UInt8 := 0x0B

mutual

/-- An instruction. -/
def instr : Instr → Bytes
  | .unreachable => [0x00]
  | .nop => [0x01]
  | .block t body => 0x02 :: blockType t ++ instrs body ++ [endCode]
  | .loop t body => 0x03 :: blockType t ++ instrs body ++ [endCode]
  | .ifElse t yes no hasElse =>
    0x04 :: blockType t ++ instrs yes
      ++ (if hasElse then 0x05 :: instrs no else []) ++ [endCode]
  | .br l => 0x0C :: nat l
  | .brIf l => 0x0D :: nat l
  | .brTable ls d => 0x0E :: vec nat ls ++ nat d
  | .ret => [0x0F]
  | .call f => 0x10 :: nat f
  | .callIndirect type table => 0x11 :: nat type ++ nat table
  | .tailCall f => 0x12 :: nat f
  | .tailCallIndirect type table => 0x13 :: nat type ++ nat table
  | .drop => [0x1A]
  | .select none => [0x1B]
  | .select (some ts) => 0x1C :: vec (fun v : ValType => [v.code]) ts
  | .localGet x => 0x20 :: nat x
  | .localSet x => 0x21 :: nat x
  | .localTee x => 0x22 :: nat x
  | .globalGet x => 0x23 :: nat x
  | .globalSet x => 0x24 :: nat x
  | .load op a => (0x28 + LoadOp.all.idxOf op).toUInt8 :: memArg a
  | .store op a => (0x36 + StoreOp.all.idxOf op).toUInt8 :: memArg a
  | .memorySize m => 0x3F :: nat m
  | .memoryGrow m => 0x40 :: nat m
  | .memoryInit m d => 0xFC :: nat 0x08 ++ nat d ++ nat m
  | .dataDrop d => 0xFC :: nat 0x09 ++ nat d
  | .memoryCopy target source => 0xFC :: nat 0x0A ++ nat target ++ nat source
  | .memoryFill m => 0xFC :: nat 0x0B ++ nat m
  | .tableGet t => 0x25 :: nat t
  | .tableSet t => 0x26 :: nat t
  | .tableInit t e => 0xFC :: nat 0x0C ++ nat e ++ nat t
  | .elemDrop e => 0xFC :: nat 0x0D ++ nat e
  | .tableCopy target source => 0xFC :: nat 0x0E ++ nat target ++ nat source
  | .tableGrow t => 0xFC :: nat 0x0F ++ nat t
  | .tableSize t => 0xFC :: nat 0x10 ++ nat t
  | .tableFill t => 0xFC :: nat 0x11 ++ nat t
  | .const n => const n
  | .num op => numOp op
  | .refNull t => [0xD0, t.code]
  | .refIsNull => [0xD1]
  | .refFunc f => 0xD2 :: nat f

/-- Instructions one after another. -/
def instrs : List Instr → Bytes
  | [] => []
  | i :: is => instr i ++ instrs is

end

/-- Instructions with their end. -/
def expr (e : Expr) : Bytes := instrs e ++ [endCode]

/-! ## Sections -/

/-- A section, unless it would be empty. -/
def section? {α : Type} (id : UInt8) (f : α → Bytes) (xs : List α) : Bytes :=
  if xs.isEmpty then [] else id :: sized (vec f xs)

/-- A section for other programs. -/
def custom (c : CustomSection) : Bytes := 0x00 :: sized (name c.name ++ c.bytes)

/-- The sections for other programs that stand at a place. -/
def customsAt (m : Module) (place : CustomPlace) : Bytes :=
  (m.customs.filter (·.place = place)).flatMap custom

/-- A section between the sections for other programs that stand next to it. -/
def flanked (m : Module) (kind : SectionKind) (content : Bytes) : Bytes :=
  customsAt m (.before kind) ++ content ++ customsAt m (.after kind)

/-- An import. -/
def imported (i : Import) : Bytes :=
  name i.module ++ name i.name ++ match i.type with
    | .func t => 0x00 :: nat t
    | .table t => 0x01 :: tableType t
    | .memory l => 0x02 :: limits l
    | .global t => 0x03 :: globalType t

/-- A table.  One whose places hold something else than null references first begins with a mark of
its own. -/
def table (t : TableDef) : Bytes :=
  match t.init with
  | none => tableType t.type
  | some e => [0x40, 0x00] ++ tableType t.type ++ expr e

/-- A global variable. -/
def global (g : Global) : Bytes := globalType g.type ++ expr g.init

/-- An export. -/
def exported (e : Export) : Bytes := name e.name ++ e.kind.code :: nat e.index

/-- A segment of references.  The first octet says which parts follow. -/
def elem (e : Elem) : Bytes :=
  match e.items with
  | .funcs fs =>
    (match e.mode with
      | .active none offset => 0x00 :: expr offset
      | .passive => [0x01, 0x00]
      | .active (some t) offset => 0x02 :: nat t ++ expr offset ++ [0x00]
      | .declared => [0x03, 0x00]) ++ vec nat fs
  | .exprs type items =>
    (match e.mode, type with
      | .active none offset, .funcref => 0x04 :: expr offset
      | .passive, t => [0x05, t.code]
      | .active table offset, t => 0x06 :: nat (table.getD 0) ++ expr offset ++ [t.code]
      | .declared, t => [0x07, t.code]) ++ vec expr items

/-- Runs of equal neighbours, each with its length. -/
def runs {α : Type} [DecidableEq α] : List α → List (Nat × α)
  | [] => []
  | x :: xs =>
    match runs xs with
    | (n, y) :: rest => if x = y then (n + 1, y) :: rest else (1, x) :: (n, y) :: rest
    | [] => [(1, x)]

/-- The code of a function. -/
def code (f : Func) : Bytes :=
  sized (vec (fun (n, t) => nat n ++ [t.code]) (runs f.locals) ++ expr f.body)

/-- A segment of octets. -/
def data (d : Data) : Bytes :=
  (match d.target with
    | some (0, e) => 0x00 :: expr e
    | some (m, e) => 0x02 :: nat m ++ expr e
    | none => [0x01]) ++ sized d.bytes

/-! ## Names -/

/-- Names by index. -/
def nameMap (m : NameMap) : Bytes := vec (fun (i, t) => nat i ++ name t) m

/-- Names by index, for each index. -/
def indirectNameMap (m : List (Nat × NameMap)) : Bytes :=
  vec (fun (i, names) => nat i ++ nameMap names) m

/-- A part of the section of names, unless it would be empty. -/
def namesPart {α : Type} (id : UInt8) (f : List α → Bytes) (xs : List α) : Bytes :=
  if xs.isEmpty then [] else id :: sized (f xs)

/-- The section of names, unless there are none. -/
def names (n : Names) : Bytes :=
  let parts :=
    (match n.module with
      | some t => 0x00 :: sized (name t)
      | none => [])
    ++ namesPart 1 nameMap n.funcs ++ namesPart 2 indirectNameMap n.locals
    ++ namesPart 3 indirectNameMap n.labels ++ namesPart 4 nameMap n.types
    ++ namesPart 5 nameMap n.tables ++ namesPart 6 nameMap n.memories
    ++ namesPart 7 nameMap n.globals ++ namesPart 8 nameMap n.elems ++ namesPart 9 nameMap n.datas
    ++ namesPart 12 indirectNameMap n.typeParams
  if parts.isEmpty then [] else 0x00 :: sized (name "name" ++ parts)

/-- The octets of a module. -/
def write (m : Module) : Bytes :=
  magic ++ version
    ++ customsAt m .first
    ++ flanked m .type (section? 1 funcType m.types)
    ++ flanked m .imported (section? 2 imported m.imports)
    ++ flanked m .func (section? 3 (fun f : Func => nat f.type) m.funcs)
    ++ flanked m .table (section? 4 table m.tables)
    ++ flanked m .memory (section? 5 limits m.memories)
    ++ flanked m .tag []
    ++ flanked m .global (section? 6 global m.globals)
    ++ flanked m .exported (section? 7 exported m.exports)
    ++ flanked m .start (match m.start with
      | some f => 0x08 :: sized (nat f)
      | none => [])
    ++ flanked m .elem (section? 9 elem m.elems)
    ++ (match m.dataCount with
      | some n => 0x0C :: sized (nat n)
      | none => [])
    ++ flanked m .code (section? 10 code m.funcs)
    ++ flanked m .data (section? 11 data m.datas)
    ++ names m.names
    ++ customsAt m .last

end WatWorkbench.Wasm.Binary
