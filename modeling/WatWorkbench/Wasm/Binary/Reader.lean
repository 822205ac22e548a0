import WatWorkbench.Wasm.Binary.Writer

/-!
# Reading binary modules

Reads what `Binary.write` writes, and more: integers may be longer than necessary, and sections of
other programs are passed over.  Everything has to fit exactly: a section ends where its size says,
each kind comes at most once and in order, and every declared function has its code.

* `Binary.read` — the module that octets stand for, if they do.
-/

namespace WatWorkbench.Wasm.Binary

/-- A reader takes octets from the front, or fails. -/
abbrev Reader := StateT Bytes Option

namespace Reader

/-- One octet. -/
def byte : Reader UInt8 := fun
  | [] => none
  | b :: rest => some (b, rest)

/-- Whether there are no octets left. -/
def atEnd : Reader Bool := fun bs => some (bs.isEmpty, bs)

/-- The given number of octets. -/
def take (n : Nat) : Reader Bytes := fun bs =>
  if bs.length < n then none else some (bs.take n, bs.drop n)

/-- Fails unless a condition holds. -/
def guard (p : Bool) : Reader Unit := fun bs => if p then some ((), bs) else none

/-- A natural of 32 bits. -/
def nat : Reader Nat := Leb128.readUnsigned 32

/-- As many members as asked for. -/
def times {α : Type} (r : Reader α) : Nat → Reader (List α)
  | 0 => pure []
  | n + 1 => do
    let a ← r
    let as ← times r n
    return a :: as

/-- A sequence: its length and its members, each of at least one octet. -/
def vec {α : Type} (r : Reader α) : Reader (List α) := do
  let n ← nat
  let left ← get
  guard (n ≤ left.length)
  times r n

/-- Reads the given number of octets to their end. -/
def within {α : Type} (n : Nat) (r : Reader α) : Reader α := do
  let bs ← take n
  match r bs with
  | some (a, []) => return a
  | _ => failure

/-- A name. -/
def name : Reader Text := do
  let n ← nat
  guard (n ≤ maxNameLength)
  match Text.decode (← take n) with
  | .ok t => return t
  | .error _ => failure

/-- A value type. -/
def valType : Reader ValType := do
  match ValType.ofCode? (← byte) with
  | some t => return t
  | none => failure

/-- A reference type. -/
def refType : Reader ValType := do
  let t ← valType
  guard !t.isNumeric
  return t

/-- A function type. -/
def funcType : Reader FuncType := do
  guard ((← byte) = 0x60)
  return ⟨← vec valType, ← vec valType⟩

/-- A natural of a width. -/
def natOf (w : Width) : Reader Nat := Leb128.readUnsigned w.size

/-- Limits. -/
def limits : Reader Limits := do
  match ← byte with
  | 0x00 => return ⟨.w32, ← natOf .w32, none⟩
  | 0x01 => return ⟨.w32, ← natOf .w32, some (← natOf .w32)⟩
  | 0x04 => return ⟨.w64, ← natOf .w64, none⟩
  | 0x05 => return ⟨.w64, ← natOf .w64, some (← natOf .w64)⟩
  | _ => failure

/-- A table type. -/
def tableType : Reader TableType := do
  let t ← refType
  return ⟨← limits, t⟩

/-- A global variable's type. -/
def globalType : Reader GlobalType := do
  let t ← valType
  match ← byte with
  | 0x00 => return ⟨false, t⟩
  | 0x01 => return ⟨true, t⟩
  | _ => failure

/-- An import. -/
def imported : Reader Import := do
  let module ← name
  let item ← name
  let type ← match ← byte with
    | 0x00 => ImportType.func <$> nat
    | 0x01 => ImportType.table <$> tableType
    | 0x02 => ImportType.memory <$> limits
    | 0x03 => ImportType.global <$> globalType
    | _ => failure
  return ⟨module, item, type⟩

/-- An export. -/
def exported : Reader Export := do
  let n ← name
  match ExternKind.ofCode? (← byte) with
  | some k => return ⟨n, k, ← nat⟩
  | none => failure

/-! ## Instructions -/

/-- Octets as a natural, the first one the lowest. -/
def ofLittleEndian (bs : Bytes) : Nat := bs.foldr (fun b n => b.toNat + 256 * n) 0

/-- A block type. -/
def blockType : Reader BlockType := do
  match ← get with
  | b :: rest =>
    if b = 0x40 then
      set rest
      return .empty
    else match ValType.ofCode? b with
      | some t =>
        set rest
        return .value t
      | none =>
        let i ← (Leb128.readSigned 33 : Reader Int)
        guard (0 ≤ i)
        return .index i.toNat
  | [] => failure

/-- Where a memory is accessed. -/
def memArg : Reader MemArg := do
  let flags ← nat
  guard (flags < 2 * otherMemory)
  let memory ← if flags < otherMemory then pure 0 else nat
  return ⟨memory, flags % otherMemory, ← natOf .w64⟩

/-- An instruction on memories or tables, after the octet 0xFC and the number `code`. -/
def bulk (code : Nat) : Reader Instr := do
  match code with
  | 0x08 =>
    let d ← nat
    return .memoryInit (← nat) d
  | 0x09 => return .dataDrop (← nat)
  | 0x0A => return .memoryCopy (← nat) (← nat)
  | 0x0B => return .memoryFill (← nat)
  | 0x0C =>
    let e ← nat
    return .tableInit (← nat) e
  | 0x0D => return .elemDrop (← nat)
  | 0x0E => return .tableCopy (← nat) (← nat)
  | 0x0F => return .tableGrow (← nat)
  | 0x10 => return .tableSize (← nat)
  | 0x11 => return .tableFill (← nat)
  | _ => failure

/-- An instruction that holds no others, after the octet `code`. -/
def plain (code : Nat) : Reader Instr := do
  match code with
  | 0x00 => return .unreachable
  | 0x01 => return .nop
  | 0x0C => return .br (← nat)
  | 0x0D => return .brIf (← nat)
  | 0x0E => return .brTable (← vec nat) (← nat)
  | 0x0F => return .ret
  | 0x10 => return .call (← nat)
  | 0x11 => return .callIndirect (← nat) (← nat)
  | 0x12 => return .tailCall (← nat)
  | 0x13 => return .tailCallIndirect (← nat) (← nat)
  | 0x1A => return .drop
  | 0x1B => return .select none
  | 0x1C => return .select (some (← vec valType))
  | 0x20 => return .localGet (← nat)
  | 0x21 => return .localSet (← nat)
  | 0x22 => return .localTee (← nat)
  | 0x23 => return .globalGet (← nat)
  | 0x24 => return .globalSet (← nat)
  | 0x25 => return .tableGet (← nat)
  | 0x26 => return .tableSet (← nat)
  | 0x3F => return .memorySize (← nat)
  | 0x40 => return .memoryGrow (← nat)
  | 0x41 =>
    let i ← (Leb128.readSigned 32 : Reader Int)
    return .const (.i32 (i.emod 0x100000000).toNat.toUInt32)
  | 0x42 =>
    let i ← (Leb128.readSigned 64 : Reader Int)
    return .const (.i64 (i.emod 0x10000000000000000).toNat.toUInt64)
  | 0x43 => return .const (.f32 (ofLittleEndian (← take 4)).toUInt32)
  | 0x44 => return .const (.f64 (ofLittleEndian (← take 8)).toUInt64)
  | 0xD0 => return .refNull (← refType)
  | 0xD1 => return .refIsNull
  | 0xD2 => return .refFunc (← nat)
  | 0xFC =>
    let n ← nat
    match NumOp.twoOctets[n]? with
    | some (op, _) => return .num op
    | none => bulk n
  | _ =>
    if code < 0x28 then failure
    else match LoadOp.all[code - 0x28]? with
      | some op => return .load op (← memArg)
      | none => match StoreOp.all[code - 0x36]? with
        | some op => return .store op (← memArg)
        | none =>
          if code < NumOp.firstCode then failure
          else match NumOp.oneOctet[code - NumOp.firstCode]? with
            | some (op, _) => return .num op
            | none => failure

/-- What ends a sequence of instructions. -/
inductive Ending where
  /-- The end of the block. -/
  | done
  /-- The beginning of the other branch. -/
  | other
  deriving DecidableEq

/-- Instructions up to their end.  The first argument bounds their number: each takes at least one
octet. -/
def instrs : Nat → Reader (List Instr × Ending)
  | 0 => failure
  | fuel + 1 => do
    let code := (← byte).toNat
    if code = 0x0B then return ([], .done)
    if code = 0x05 then return ([], .other)
    let i ← (do
      if code = 0x02 || code = 0x03 then
        let t ← blockType
        let (body, ending) ← instrs fuel
        guard (ending = .done)
        return if code = 0x02 then .block t body else .loop t body
      else if code = 0x04 then
        let t ← blockType
        match ← instrs fuel with
        | (yes, .done) => return .ifElse t yes [] false
        | (yes, .other) =>
          let (no, ending) ← instrs fuel
          guard (ending = .done)
          return .ifElse t yes no true
      else plain code)
    let (rest, ending) ← instrs fuel
    return (i :: rest, ending)

/-- Instructions with their end. -/
def expr : Reader Expr := do
  let (is, ending) ← instrs ((← get).length + 1)
  guard (ending = .done)
  return is

/-! ## Sections -/

/-- A table. -/
def table : Reader TableDef := do
  match ← get with
  | 0x40 :: rest =>
    set rest
    guard ((← byte) = 0)
    let t ← tableType
    return ⟨t, some (← expr)⟩
  | _ => return ⟨← tableType, none⟩

/-- A global variable. -/
def global : Reader Global := do
  let t ← globalType
  return ⟨t, ← expr⟩

/-- A segment of references. -/
def elem : Reader Elem := do
  let kind : Reader Unit := do guard ((← byte) = 0)
  match ← nat with
  | 0 => let e ← expr; return ⟨.active none e, .funcs (← vec nat)⟩
  | 1 => kind; return ⟨.passive, .funcs (← vec nat)⟩
  | 2 =>
    let t ← nat
    let e ← expr
    kind
    return ⟨.active (some t) e, .funcs (← vec nat)⟩
  | 3 => kind; return ⟨.declared, .funcs (← vec nat)⟩
  | 4 => let e ← expr; return ⟨.active none e, .exprs .funcref (← vec expr)⟩
  | 5 => let r ← refType; return ⟨.passive, .exprs r (← vec expr)⟩
  | 6 =>
    let t ← nat
    let e ← expr
    let r ← refType
    return ⟨.active (some t) e, .exprs r (← vec expr)⟩
  | 7 => let r ← refType; return ⟨.declared, .exprs r (← vec expr)⟩
  | _ => failure

/-- The code of a function: its local variables and its instructions. -/
def code : Reader (List ValType × List Instr) := do
  let size ← nat
  within size do
    let groups ← vec (do
      let n ← nat
      return (n, ← valType))
    guard (groups.foldl (fun sum g => sum + g.1) 0 ≤ maxLocals)
    return (groups.flatMap fun (n, t) => List.replicate n t, ← expr)

/-- A segment of octets. -/
def data : Reader Data := do
  match ← nat with
  | 0 =>
    let e ← expr
    return ⟨some (0, e), ← take (← nat)⟩
  | 1 => return ⟨none, ← take (← nat)⟩
  | 2 =>
    let m ← nat
    let e ← expr
    return ⟨some (m, e), ← take (← nat)⟩
  | _ => failure

/-- What has been read: the module, and the types of functions whose code is still to come. -/
structure Progress where
  /-- The module so far. -/
  module : Module := {}
  /-- The types of the declared functions. -/
  declared : List Nat := []
  /-- Whether the code has been read. -/
  hasCode : Bool := false

/-- The place of a section in the order of sections.  The count of segments of octets comes before
the code. -/
def position (id : Nat) : Option Nat :=
  [1, 2, 3, 4, 5, 6, 7, 8, 9, 12, 10, 11].idxOf? id

/-- The content of one section. -/
def content (id : Nat) (p : Progress) : Reader Progress := do
  let m := p.module
  match id with
  | 1 => return { p with module := { m with types := ← vec funcType } }
  | 2 => return { p with module := { m with imports := ← vec imported } }
  | 3 => return { p with declared := ← vec nat }
  | 4 => return { p with module := { m with tables := ← vec table } }
  | 5 => return { p with module := { m with memories := ← vec limits } }
  | 6 => return { p with module := { m with globals := ← vec global } }
  | 7 => return { p with module := { m with exports := ← vec exported } }
  | 8 => return { p with module := { m with start := some (← nat) } }
  | 9 => return { p with module := { m with elems := ← vec elem } }
  | 10 =>
    let codes ← vec code
    guard (codes.length = p.declared.length)
    let funcs := (p.declared.zip codes).map fun (t, locals, body) => ⟨t, locals, body⟩
    return { p with module := { m with funcs }, hasCode := true }
  | 11 => return { p with module := { m with datas := ← vec data } }
  | 12 => return { p with module := { m with dataCount := some (← nat) } }
  | _ => failure

/-- Sections up to the end.  `last` is the place of the last section read, counted from one; the
first argument bounds the number of sections. -/
def sections : Nat → Nat → Progress → Reader Progress
  | 0, _, _ => failure
  | fuel + 1, last, p => do
    if ← atEnd then return p
    let id := (← byte).toNat
    let size ← nat
    if id = 0 then
      let bs ← take size
      guard (name bs).isSome
      sections fuel last p
    else match position id with
      | none => failure
      | some place =>
        guard (last ≤ place)
        let p ← within size (content id p)
        sections fuel (place + 1) p

/-- A whole module. -/
def module : Reader Module := do
  guard ((← take 4) = magic)
  guard ((← take 4) = version)
  let p ← sections ((← get).length + 1) 0 {}
  guard (p.hasCode || p.declared.isEmpty)
  guard (p.module.dataCount.all (· = p.module.datas.length))
  return p.module

end Reader

/-- The module that octets stand for. -/
def read (bs : Bytes) : Option Module := (Reader.module bs).map (·.1)

end WatWorkbench.Wasm.Binary
