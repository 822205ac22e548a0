import WatWorkbench.Wasm.Instance

/-!
# The machine

Execution in small steps.  A frame is a function under way: its local variables, the blocks it is
in, its operands and the instructions that are left of the innermost block.  The machine is a frame,
the frames that wait for it, and the instance.

A budget of instructions is spent one by one and looked at where execution could go on for ever: at
the beginning of a function and at each turn of a loop.  Instructions that only mark places cost
nothing.

* `Machine.step` — one instruction.
* `Machine.run` — steps until the end, as a script that calls the host.
* `Instance.invoke` — a call of an export.
-/

namespace WatWorkbench.Wasm

/-- A block that has been entered. -/
structure Label where
  /-- How many operands a branch to it takes along. -/
  arity : Nat
  /-- The operands below those of the block. -/
  under : List Val
  /-- The instructions after the block. -/
  after : List Instr
  /-- The instructions that a branch begins anew, for a loop. -/
  again : Option (List Instr)

/-- A function under way. -/
structure Frame where
  /-- How many results it gives. -/
  arity : Nat
  /-- Its local variables. -/
  locals : Array Val
  /-- The blocks it is in, the innermost first. -/
  labels : List Label
  /-- Its operands in the innermost block, the last one first. -/
  stack : List Val
  /-- The instructions left of the innermost block. -/
  code : List Instr

/-- An instance that executes. -/
structure Machine where
  /-- The instance. -/
  inst : Instance
  /-- The function under way. -/
  frame : Frame
  /-- The functions that wait for it, the innermost first. -/
  callers : List Frame
  /-- How many functions wait. -/
  depth : Nat

/-- What comes of a step. -/
inductive Step where
  /-- The machine goes on. -/
  | next (m : Machine)
  /-- Execution ends before its time. -/
  | trapped (t : Trap) (i : Instance)
  /-- A host function is called; its results go onto the operands. -/
  | calling (link : Link) (args : List Val) (m : Machine)
  /-- The first function has returned. -/
  | finished (results : List Val) (i : Instance)
  /-- The operands do not fit the instruction, which validation excludes. -/
  | stuck (i : Instance)

/-- How many functions may wait for one another. -/
def maxDepth : Nat := 12000

/-- What an instruction costs. -/
def Instr.cost : Instr → Nat
  | nop | drop | block _ _ | loop _ _ | unreachable | ret => 0
  | _ => 1

namespace Instance

/-- Whether the instruction budget is used up. -/
def isExhausted (i : Instance) : Bool := i.fuel = some 0

/-- The instance after part of the budget has been spent. -/
def spend (i : Instance) (cost : Nat) : Instance := { i with fuel := i.fuel.map (· - cost) }

end Instance

namespace Machine

/-- The machine with other operands. -/
def withStack (m : Machine) (stack : List Val) : Machine :=
  { m with frame := { m.frame with stack } }

/-- The machine with one more operand. -/
def push (m : Machine) (v : Val) : Machine := m.withStack (v :: m.frame.stack)

/-- The machine with one more operand on the given ones. -/
def goOn (m : Machine) (v : Val) (stack : List Val) : Step := .next (m.withStack (v :: stack))

/-- The machine with more operands, the last of which comes on top. -/
def resume (m : Machine) (vs : List Val) : Machine := m.withStack (vs.reverse ++ m.frame.stack)

/-- Calls a function, with arguments in the order of its parameters. -/
def enter (m : Machine) (index : Nat) (args : List Val) : Step :=
  let p := m.inst.program
  match p.links[index]? with
  | some link => .calling link args m
  | none =>
    match p.funcs[index - p.links.size]? with
    | none => .stuck m.inst
    | some f =>
      if m.depth ≥ maxDepth then .trapped .stackOverflow m.inst
      else if m.inst.isExhausted then .trapped .outOfFuel m.inst
      else
        let type := p.types.getD f.type ⟨[], []⟩
        .next {
          inst := m.inst.spend 1
          frame := ⟨type.results.length, (args ++ f.locals.map Val.zero).toArray, [], [], f.body⟩
          callers := m.frame :: m.callers
          depth := m.depth + 1 }

/-- Calls a function that takes its arguments from the operands. -/
def call (m : Machine) (index : Nat) : Step :=
  let count := (m.inst.program.signatures.getD index ⟨[], []⟩).params.length
  let stack := m.frame.stack
  enter (m.withStack (stack.drop count)) index (stack.take count).reverse

/-- Calls a function in place of the one under way, which is over.  A function of the host is called
from where it is, and its results are returned. -/
def tailCall (m : Machine) (index : Nat) : Step :=
  let count := (m.inst.program.signatures.getD index ⟨[], []⟩).params.length
  let stack := m.frame.stack
  let args := (stack.take count).reverse
  if index < m.inst.program.links.size then
    enter { m with frame := { m.frame with stack := stack.drop count, labels := [], code := [] } }
      index args
  else
    match m.callers with
    | [] => .stuck m.inst
    | f :: fs => enter { m with frame := f, callers := fs, depth := m.depth - 1 } index args

/-- The function that a place of a table refers to, if it is of some type, or why there is none. -/
def callee (m : Machine) (type table place : Nat) : Except Trap Nat :=
  match (m.inst.tables.getD table default).get? place with
  | none => .error .tableOutOfBounds
  | some (.funcRef (some f)) =>
    if m.inst.program.signatures[f]? = m.inst.program.types[type]? then .ok f
    else .error .badSignature
  | some _ => .error .nullCall

/-- Returns from the function with the operands on top. -/
def leave (m : Machine) : Step :=
  let results := m.frame.stack.take m.frame.arity
  match m.callers with
  | [] => .finished results.reverse m.inst
  | f :: fs =>
    .next { m with frame := { f with stack := results ++ f.stack }, callers := fs,
                   depth := m.depth - 1 }

/-- Begins a turn of a loop, unless the budget is used up. -/
def turn (m : Machine) : Step :=
  if m.inst.isExhausted then .trapped .outOfFuel m.inst else .next m

/-- Branches to a block, or out of the function. -/
def branch (m : Machine) (n : Nat) : Step :=
  let f := m.frame
  match f.labels[n]? with
  | none => m.leave
  | some l =>
    let kept := f.stack.take l.arity
    match l.again with
    | some body => turn { m with frame := { f with
        labels := f.labels.drop n, stack := kept, code := body } }
    | none => .next { m with frame := { f with
        labels := f.labels.drop (n + 1), stack := kept ++ l.under, code := l.after } }

/-- Enters a block. -/
def openBlock (m : Machine) (type : FuncType) (body : List Instr) (again : Bool) : Machine :=
  let f := m.frame
  let count := type.params.length
  let label : Label :=
    { arity := if again then count else type.results.length
      under := f.stack.drop count
      after := f.code
      again := if again then some body else none }
  { m with frame := { f with labels := label :: f.labels, stack := f.stack.take count,
                             code := body } }

/-- Comes to the end of a block, or of the function. -/
def close (m : Machine) : Step :=
  let f := m.frame
  match f.labels with
  | [] => m.leave
  | l :: ls => .next { m with frame := { f with
      labels := ls, stack := f.stack ++ l.under, code := l.after } }

/-- The machine with another instance. -/
def withInstance (m : Machine) (i : Instance) : Machine := { m with inst := i }

/-- The value that an instruction reads from memory. -/
def loaded (op : LoadOp) (n : Nat) : Val :=
  let bits := 8 * op.size
  let extended := if op.signed && Nat.pow 2 (bits - 1) ≤ n
    then Nat.pow 2 (8 * op.type.size) - Nat.pow 2 bits + n else n
  .number (.ofBits extended op.type)

/-! ### Memories and tables -/

/-- Goes on with another memory, or traps where there is none. -/
def storing (m : Machine) (index : Nat) (memory : Option Memory) (stack : List Val) : Step :=
  match memory with
  | some memory =>
    let inst := { m.inst with memories := m.inst.memories.setIfInBounds index memory }
    .next ((m.withInstance inst).withStack stack)
  | none => .trapped .memoryOutOfBounds m.inst

/-- Goes on with another table, or traps where there is none. -/
def tabling (m : Machine) (index : Nat) (table : Option Table) (stack : List Val) : Step :=
  match table with
  | some table =>
    let inst := { m.inst with tables := m.inst.tables.setIfInBounds index table }
    .next ((m.withInstance inst).withStack stack)
  | none => .trapped .tableOutOfBounds m.inst

/-- A range of a segment, if it is inside. -/
def slice? {α : Type} (xs : List α) (start count : Nat) : Option (List α) :=
  if start + count ≤ xs.length then some ((xs.drop start).take count) else none

/-- What growing gives where it fails: the greatest integer of a width. -/
def refusal (w : Width) : Val := .ofNat w (w.modulus - 1)

/-- Executes an instruction on whole memories. -/
def onMemory (m : Machine) (i : Instr) : Step :=
  let stack := m.frame.stack
  let memory k := m.inst.memories.getD k default
  match i, stack with
  | .memorySize k, _ => m.goOn (.ofNat (memory k).width (memory k).pages) stack
  | .memoryGrow k, .number d :: rest =>
    let old := memory k
    match old.grow? d.bits with
    | some new => m.storing k (some new) (.ofNat old.width old.pages :: rest)
    | none => m.goOn (refusal old.width) rest
  | .memoryFill k, .number n :: .number v :: .number target :: rest =>
    m.storing k ((memory k).fill? target.bits n.bits v.bits.toUInt8) rest
  | .memoryCopy k l, .number n :: .number source :: .number target :: rest =>
    m.storing k (((memory l).read? source.bits n.bits).bind ((memory k).write? target.bits)) rest
  | .memoryInit k d, .number n :: .number source :: .number target :: rest =>
    let segment := m.inst.datas.getD d []
    m.storing k ((slice? segment source.bits n.bits).bind ((memory k).write? target.bits)) rest
  | .dataDrop d, _ =>
    .next (m.withInstance { m.inst with datas := m.inst.datas.setIfInBounds d [] })
  | _, _ => .stuck m.inst

/-- Executes an instruction on tables. -/
def onTable (m : Machine) (i : Instr) : Step :=
  let stack := m.frame.stack
  let table k := m.inst.tables.getD k default
  match i, stack with
  | .tableGet k, .number place :: rest =>
    match (table k).get? place.bits with
    | some v => m.goOn v rest
    | none => .trapped .tableOutOfBounds m.inst
  | .tableSet k, v :: .number place :: rest => m.tabling k ((table k).write? place.bits [v]) rest
  | .tableSize k, _ => m.goOn (.ofNat (table k).width (table k).size) stack
  | .tableGrow k, .number n :: v :: rest =>
    let old := table k
    match old.grow? n.bits v with
    | some new => m.tabling k (some new) (.ofNat old.width old.size :: rest)
    | none => m.goOn (refusal old.width) rest
  | .tableFill k, .number n :: v :: .number place :: rest =>
    m.tabling k ((table k).fill? place.bits n.bits v) rest
  | .tableCopy k l, .number n :: .number source :: .number target :: rest =>
    m.tabling k (((table l).read? source.bits n.bits).bind ((table k).write? target.bits)) rest
  | .tableInit k e, .number n :: .number source :: .number target :: rest =>
    let segment := m.inst.elems.getD e []
    m.tabling k ((slice? segment source.bits n.bits).bind ((table k).write? target.bits)) rest
  | .elemDrop e, _ =>
    .next (m.withInstance { m.inst with elems := m.inst.elems.setIfInBounds e [] })
  | _, _ => .stuck m.inst

/-! ### Instructions -/

/-- Executes an instruction. -/
def execute (m : Machine) (i : Instr) : Step :=
  let stack := m.frame.stack
  let stuck := Step.stuck m.inst
  match i, stack with
  | .unreachable, _ => .trapped .unreachable m.inst
  | .nop, _ => .next m
  | .block t body, _ => .next (m.openBlock (m.inst.program.blockType t) body false)
  | .loop t body, _ => turn (m.openBlock (m.inst.program.blockType t) body true)
  | .ifElse t yes no _, .number (.i32 c) :: rest =>
    .next ((m.withStack rest).openBlock (m.inst.program.blockType t)
      (if c = 0 then no else yes) false)
  | .br n, _ => m.branch n
  | .brIf n, .number (.i32 c) :: rest =>
    if c = 0 then .next (m.withStack rest) else (m.withStack rest).branch n
  | .brTable ls fallback, .number (.i32 c) :: rest =>
    (m.withStack rest).branch (ls[c.toNat]?.getD fallback)
  | .ret, _ => m.leave
  | .call f, _ => m.call f
  | .callIndirect type table, .number c :: rest =>
    match m.callee type table c.bits with
    | .ok f => (m.withStack rest).call f
    | .error t => .trapped t m.inst
  | .tailCall f, _ => m.tailCall f
  | .tailCallIndirect type table, .number c :: rest =>
    match m.callee type table c.bits with
    | .ok f => (m.withStack rest).tailCall f
    | .error t => .trapped t m.inst
  | .drop, _ :: rest => .next (m.withStack rest)
  | .select _, .number (.i32 c) :: b :: a :: rest => m.goOn (if c = 0 then b else a) rest
  | .localGet n, _ => m.goOn (m.frame.locals.getD n default) stack
  | .localSet n, v :: rest =>
    .next { m with frame := { m.frame with
      locals := m.frame.locals.setIfInBounds n v, stack := rest } }
  | .localTee n, v :: _ =>
    .next { m with frame := { m.frame with locals := m.frame.locals.setIfInBounds n v } }
  | .globalGet n, _ => m.goOn (m.inst.globals.getD n default) stack
  | .globalSet n, v :: rest =>
    .next ((m.withInstance { m.inst with globals := m.inst.globals.setIfInBounds n v }).withStack
      rest)
  | .load op arg, .number a :: rest =>
    match (m.inst.memories.getD arg.memory default).load? (a.bits + arg.offset) op.size with
    | some n => m.goOn (loaded op n) rest
    | none => .trapped .memoryOutOfBounds m.inst
  | .store op arg, .number v :: .number a :: rest =>
    m.storing arg.memory ((m.inst.memories.getD arg.memory default).store? (a.bits + arg.offset)
      op.size v.bits) rest
  | .memorySize _, _ | .memoryGrow _, _ | .memoryFill _, _ | .memoryCopy _ _, _
  | .memoryInit _ _, _ | .dataDrop _, _ => m.onMemory i
  | .tableGet _, _ | .tableSet _, _ | .tableSize _, _ | .tableGrow _, _ | .tableFill _, _
  | .tableCopy _ _, _ | .tableInit _ _, _ | .elemDrop _, _ => m.onTable i
  | .const n, _ => m.goOn (.number n) stack
  | .num op, .number b :: rest =>
    let (operands, result) := op.type
    match operands, rest with
    | [_], _ =>
      match op.apply b.bits 0 with
      | .ok n => m.goOn (.number (.ofBits n result)) rest
      | .error t => .trapped t m.inst
    | _, .number a :: rest =>
      match op.apply a.bits b.bits with
      | .ok n => m.goOn (.number (.ofBits n result)) rest
      | .error t => .trapped t m.inst
    | _, _ => stuck
  | .refNull t, _ => m.goOn (.null t) stack
  | .refIsNull, v :: rest => m.goOn (.ofNat32 (ofBool v.isNull)) rest
  | .refFunc f, _ => m.goOn (.funcRef (some f)) stack
  | _, _ => stuck

/-- One step: the next instruction, or the end of a block. -/
def step (m : Machine) : Step :=
  match m.frame.code with
  | [] => m.close
  | i :: code =>
    execute { m with inst := m.inst.spend i.cost, frame := { m.frame with code } } i

end Machine

/-! ## Runs -/

/-- How an execution ends: with results or with a failure. -/
abbrev Outcome := Except Failure (List Val)

/-- The failure that a trap is to whoever called. -/
def Trap.failure (t : Trap) : Failure := .stage .runtime t.message

/-- Goes on from the result of a step.  The first argument bounds the number of steps. -/
def Step.run : Nat → Step → Script (Outcome × Instance)
  | 0, .next m => .done (.error Trap.outOfFuel.failure, m.inst)
  | 0, .calling _ _ m => .done (.error Trap.outOfFuel.failure, m.inst)
  | _, .trapped t i => .done (.error t.failure, i)
  | _, .finished vs i => .done (.ok vs, i)
  | _, .stuck i => .done (.error (.stage .runtime engineComplaint), i)
  | n + 1, .next m => Step.run n m.step
  | n + 1, .calling link args m =>
    .call ⟨link.module, link.name, m.inst.caller, args.map Val.toValue⟩ fun answer =>
      match answer.bind (Val.ofResult link.type.results) with
      | .ok vs => Step.run n (.next (m.resume vs))
      | .error e => .done (.error e, m.inst)

/-- More steps than any execution is given time for. -/
def stepAllowance : Nat := 0x1000000000000000

/-- The frame below the first function: it waits for the results and does nothing else. -/
def Frame.outermost (arity : Nat) : Frame := ⟨arity, #[], [], [], []⟩

namespace Instance

/-- Calls a function of an instance. -/
def invoke (i : Instance) (index : Nat) (args : List Val) : Script (Outcome × Instance) :=
  let arity := (i.program.signatures.getD index ⟨[], []⟩).results.length
  Step.run stepAllowance (Machine.enter ⟨i, .outermost arity, [], 0⟩ index args)

end Instance

end WatWorkbench.Wasm
