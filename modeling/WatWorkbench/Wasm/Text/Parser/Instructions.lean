import WatWorkbench.Wasm.Text.Parser.Parts

/-!
# Reading instructions

Instructions are written one after another or in parentheses, with their operands inside; there the
instruction comes after its operands, so that all instructions are read in the order of execution.
A conditional in parentheses holds nothing but groups: its condition, then its branches.

* `Parser.op` — one instruction without its operands.
* `Parser.remainingOps` — all instructions among the trees at hand.
* `Parser.item`, `Parser.elemOffset`, `Parser.dataOffset` — constant expressions.
-/

namespace WatWorkbench.Wasm.Parser

open Syntax

/-! ## One instruction -/

/-- The instructions without anything after their name. -/
def bareInstrs : List (String × Instr) :=
  [("unreachable", .unreachable), ("nop", .nop), ("return", .ret), ("drop", .drop),
    ("ref.is_null", .refIsNull)]
    ++ (NumOp.oneOctet ++ NumOp.twoOctets).map fun (op, name) => (name, .num op)

/-- The instructions that refer to one part. -/
def refInstrs : List (String × RefOp) :=
  [("br", .br), ("br_if", .brIf), ("call", .call), ("return_call", .tailCall),
    ("local.get", .localGet), ("local.set", .localSet), ("local.tee", .localTee),
    ("global.get", .globalGet), ("global.set", .globalSet), ("ref.func", .refFunc),
    ("data.drop", .dataDrop), ("elem.drop", .elemDrop)]

/-- The instructions that refer to a memory or a table, which is the first one unless it is said. -/
def storageInstrs : List (String × RefOp) :=
  [("memory.size", .memorySize), ("memory.grow", .memoryGrow), ("memory.fill", .memoryFill),
    ("table.get", .tableGet), ("table.set", .tableSet), ("table.size", .tableSize),
    ("table.grow", .tableGrow), ("table.fill", .tableFill)]

/-- The instructions that copy from one memory or table to another; both are said or neither is. -/
def copyInstrs : List (String × PairOp) :=
  [("memory.copy", .memoryCopy), ("table.copy", .tableCopy)]

/-- The instructions that copy from a segment; a memory or table may be said before it. -/
def initInstrs : List (String × PairOp) :=
  [("memory.init", .memoryInit), ("table.init", .tableInit)]

/-- What is listed under a name. -/
def listed? {α : Type} (table : List (String × α)) (k : List Char) : Option α :=
  (table.find? (·.1.toList = k)).map (·.2)

/-- The natural below `2 ^ 64` after a given word and an equals sign, if such a word is next. -/
def setting? (k : String) : Parser (Option Nat) := do
  match ← wordIf (k.toList ++ ['=']).isPrefixOf with
  | some cs => some <$> present (naturalOf? 64 (cs.drop (k.length + 1)))
  | none => return none

/-- Where a memory is accessed: the memory, the exponent of the alignment and the offset.  The
alignment is that of the whole access unless it is said. -/
def memArg (size : Nat) : Parser (Ref × Nat × Nat) := do
  let memory ← refOrFirst
  let offset ← setting? "offset"
  match ← setting? "align" with
  | none => return (memory, size.log2, offset.getD 0)
  | some n =>
    guard (n = Nat.pow 2 n.log2)
    return (memory, n.log2, offset.getD 0)

/-- What an indirect call refers to: a table, before or after the type or not at all, and the
type. -/
def indirectCall (isTail : Bool) : Parser Op := do
  let before ← ref?
  let type ← namelessTypeUse
  match before with
  | some table => return .callIndirect isTail table type
  | none => return .callIndirect isTail (← refOrFirst) type

/-- The types after a choice, if there are any. -/
def choiceTypes : Parser (Option (List ValType)) := do
  if beginsGroup "result" (← get) then
    let rs ← (← groups "result").mapM fun ts => inside allValTypes ts
    return some rs.flatten
  return none

/-- The type of things that a null reference refers to. -/
def nullType : Parser ValType := do
  if ← keyword? "func" then return .funcref
  if ← keyword? "extern" then return .externref
  failure

/-- The instruction that a word names, with what belongs to it. -/
def op (k : List Char) : Parser Op := do
  if let some i := listed? bareInstrs k then return .plain i
  if let some o := listed? refInstrs k then return .ref o (← ref)
  if let some o := listed? storageInstrs k then return .ref o (← refOrFirst)
  if let some o := listed? copyInstrs k then
    match ← ref? with
    | some target => return .pair o target (← ref)
    | none => return .pair o (.index 0) (.index 0)
  if let some o := listed? initInstrs k then
    let first ← ref
    match ← ref? with
    | some segment => return .pair o first segment
    | none => return .pair o (.index 0) first
  if let some l := LoadOp.all.find? (·.name.toList = k) then
    let (memory, align, offset) ← memArg l.size
    return .load l memory align offset
  if let some s := StoreOp.all.find? (·.name.toList = k) then
    let (memory, align, offset) ← memArg s.size
    return .store s memory align offset
  if let some t := ValType.all.find? (fun t => (t.name ++ ".const").toList = k) then
    let n ← present ((← wordIf fun _ => true).bind (Literal.const? t))
    return .plain (.const n)
  if k = "br_table".toList then
    let labels ← refs
    guard !labels.isEmpty
    return .brTable labels
  if k = "call_indirect".toList then return ← indirectCall false
  if k = "return_call_indirect".toList then return ← indirectCall true
  if k = "select".toList then return .plain (.select (← choiceTypes))
  if k = "ref.null".toList then return .plain (.refNull (← nullType))
  if k = "block".toList then return .opening .block (← title) (← namelessTypeUse)
  if k = "loop".toList then return .opening .loop (← title) (← namelessTypeUse)
  if k = "if".toList then return .opening .ifElse (← title) (← namelessTypeUse)
  if k = "else".toList then return .other (← ident?)
  if k = "end".toList then return .closing (← ident?)
  failure

/-! ## Instructions and their operands -/

/-- How far the reading of a conditional in parentheses has come. -/
inductive IfState where
  /-- The condition; the instruction that opens the conditional is still to come. -/
  | condition (opening : Op)
  /-- The first branch has been read. -/
  | first
  /-- Both branches have been read. -/
  | second

mutual

/-- All instructions among the trees at hand.  The first argument bounds the depth and number of
steps. -/
def ops : Nat → Parser (List Op)
  | 0 => failure
  | fuel + 1 => do
    match ← get with
    | [] => return []
    | .word k :: ts =>
      set ts
      let o ← op k
      return o :: (← ops fuel)
    | .group (.word k :: members) :: ts =>
      set ts
      let os ← inside (folded fuel k) members
      return os ++ (← ops fuel)
    | _ => failure

/-- The instructions of a group that begins with the word `k`. -/
def folded : Nat → List Char → Parser (List Op)
  | 0, _ => failure
  | fuel + 1, k => do
    let o ← op k
    match o with
    | .opening .ifElse _ _ => branches fuel (.condition o)
    | .opening _ _ _ => return o :: (← ops fuel) ++ [.closing none]
    | o => return (← ops fuel) ++ [o]

/-- The rest of a conditional in parentheses: groups that make its condition, then its branches. -/
def branches : Nat → IfState → Parser (List Op)
  | 0, _ => failure
  | fuel + 1, state => do
    match ← get with
    | [] =>
      match state with
      | .condition _ => failure
      | _ => return [.closing none]
    | .group (.word k :: members) :: ts =>
      set ts
      match state with
      | .condition o =>
        if k = "then".toList then
          let os ← inside (ops fuel) members
          return o :: os ++ (← branches fuel .first)
        else
          let os ← inside (folded fuel k) members
          return os ++ (← branches fuel state)
      | .first =>
        guard (k = "else".toList)
        let os ← inside (ops fuel) members
        return .other none :: os ++ (← branches fuel .second)
      | .second => failure
    | _ => failure

end

/-- All instructions among trees. -/
def opsOf (ts : List Tree) : Option (List Op) := whole (ops (3 * Tree.sizeAll ts + 3)) ts

/-- All instructions among the trees at hand. -/
def remainingOps : Parser (List Op) := fun ts => (opsOf ts).map (·, [])

/-! ## Constant expressions

What initializes a part is an expression in a group.  Where the group begins with the word for it,
the expression is any sequence of instructions; the ways to leave the word out differ.
-/

/-- One instruction in parentheses with operands that are groups as well.  The first argument bounds
the depth. -/
def foldedOf? : Nat → Tree → Option (List Op)
  | fuel + 1, .group (.word k :: members) => do
    let (o, operands) ← op k members
    match o with
    | .opening _ _ _ | .other _ | .closing _ => none
    | o => return (← operands.mapM (foldedOf? fuel)).flatten ++ [o]
  | _, _ => none

/-- The expression of a reference: any instructions after a word for it, or one instruction whose
operands are groups. -/
def item : Parser (List Op) := do
  match ← group? "item" with
  | some ts => present (opsOf ts)
  | none => fun
    | t :: ts => (foldedOf? (t.size + 1) t).map (·, ts)
    | [] => none

/-- Where a segment of references goes in its table: any instructions, with or without a word for
it. -/
def elemOffset : Parser (List Op) := fun
  | .group members :: ts =>
    let instrs := match members with
      | .word k :: rest => if k = "offset".toList then rest else members
      | _ => members
    (opsOf instrs).map (·, ts)
  | _ => none

/-- Where a segment of octets goes in its memory: any instructions after a word for it, or one
instruction before any others, which are its operands. -/
def dataOffset : Parser (List Op) := fun
  | .group (.word k :: members) :: ts =>
    if k = "offset".toList then (opsOf members).map (·, ts)
    else do
      let (o, operands) ← op k members
      return ((← opsOf operands) ++ [o], ts)
  | _ => none

/-- As many references as there are trees, as expressions.  The first argument bounds their number. -/
def items : Nat → Parser (List (List Op))
  | 0 => failure
  | fuel + 1 => do
    if ← atEnd then return []
    let os ← item
    return os :: (← items fuel)

/-- All that is left, as expressions. -/
def remainingItems : Parser (List (List Op)) := do items ((← get).length + 1)

/-- The constant zero of a width. -/
def zero : Width → Op
  | .w32 => .plain (.const (.i32 0))
  | .w64 => .plain (.const (.i64 0))

end WatWorkbench.Wasm.Parser
