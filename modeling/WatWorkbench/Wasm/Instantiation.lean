import WatWorkbench.Wasm.Machine

/-!
# Instantiation

A new instance of a module: its global variables get their first values, its segments are written
into tables and memories, and its start function is called.  All of that may trap, and what was done
before is then lost with the instance.

* `Instance.evaluate?` — the value of a constant expression.
* `Instance.ofModule` — a new instance.
-/

namespace WatWorkbench.Wasm

namespace Instance

/-- The value of a constant expression: its instructions are executed on an empty stack. -/
def evaluate? (i : Instance) (e : Expr) : Option Val :=
  let start : Machine := ⟨i, .outermost 1, [], 0⟩
  let finish := e.foldl (fun (m : Option Machine) op => m.bind fun m =>
    match m.execute op with
    | .next m => some m
    | _ => none) (some start)
  finish.bind (·.frame.stack.head?)

/-- The address that a constant expression gives. -/
def address (i : Instance) (e : Expr) : Nat :=
  match i.evaluate? e with
  | some (.number n) => n.bits
  | _ => 0

/-- The value of a constant expression of a type. -/
def valueOf (i : Instance) (t : ValType) (e : Expr) : Val := (i.evaluate? e).getD (.zero t)

/-- The instance with one more table. -/
def addTable (i : Instance) (t : TableDef) : Instance :=
  let v := t.init.elim (.null t.type.elem) (i.valueOf t.type.elem)
  { i with tables := i.tables.push (.ofType t.type v) }

/-- The instance with one more global variable. -/
def addGlobal (i : Instance) (g : Global) : Instance :=
  { i with globals := i.globals.push (i.valueOf g.type.type g.init) }

/-- The references of a segment. -/
def references (i : Instance) : ElemItems → List Val
  | .funcs fs => fs.map fun f => .funcRef (some f)
  | .exprs t es => es.map (i.valueOf t)

/-- The instance without the references of a segment. -/
def dropElem (i : Instance) (segment : Nat) : Instance :=
  { i with elems := i.elems.setIfInBounds segment [] }

/-- The instance without the octets of a segment. -/
def dropData (i : Instance) (segment : Nat) : Instance :=
  { i with datas := i.datas.setIfInBounds segment [] }

/-- The instance after a segment of references has been used. -/
def useElem (i : Instance) : Elem × Nat → Except Trap Instance
  | (e, segment) =>
    match e.mode with
    | .active table offset =>
      let index := table.getD 0
      match (i.tables.getD index default).write? (i.address offset) (i.elems.getD segment []) with
      | some t => .ok { i.dropElem segment with tables := i.tables.setIfInBounds index t }
      | none => .error .tableOutOfBounds
    | .declared => .ok (i.dropElem segment)
    | .passive => .ok i

/-- The instance after a segment of octets has been used. -/
def useData (i : Instance) : Data × Nat → Except Trap Instance
  | (d, segment) =>
    match d.target with
    | some (index, offset) =>
      match (i.memories.getD index default).write? (i.address offset) d.bytes with
      | some m => .ok { i.dropData segment with memories := i.memories.setIfInBounds index m }
      | none => .error .memoryOutOfBounds
    | none => .ok i

/-- The instance before its segments are used. -/
def blank (m : Module) (fuel : Option Nat) : Instance :=
  let i : Instance :=
    { program := .ofModule m, memories := (m.memories.map Memory.ofLimits).toArray, fuel }
  let i := m.globals.foldl addGlobal (m.tables.foldl addTable i)
  { i with
    elems := (m.elems.map fun e => i.references e.items).toArray
    datas := (m.datas.map (·.bytes)).toArray }

/-- The instance before its start function is called. -/
def prepared (m : Module) (fuel : Option Nat) : Except Trap Instance := do
  let i ← m.elems.zipIdx.foldlM useElem (blank m fuel)
  m.datas.zipIdx.foldlM useData i

/-- A new instance of a module whose imports are all functions of the host. -/
def ofModule (m : Module) (fuel : Option Nat) : Script (Except Failure Instance) :=
  match prepared m fuel with
  | .error t => .done (.error t.failure)
  | .ok i =>
    match m.start with
    | none => .done (.ok i)
    | some f => do
      let (outcome, i) ← i.invoke f []
      return outcome.map fun _ => i

end Instance

end WatWorkbench.Wasm
