import WatWorkbench.Wasm.Text.Parser
import WatWorkbench.Wasm.Text.TypeTable

/-!
# Resolving names

From the fields of a module's text to a module.  Every part gets its number: imports first, then
definitions, each in the order of the text.  A function type that is written out where it is used
is the first one of the module that is equal to it.

* `Scope` — what the parts are called, by number, and the function types.
* `Resolver` — resolution, which notes the names of a function's blocks.
* `Resolver.nest` — blocks from the flat sequence of instructions.
* `Module.ofChars?` — the module of a text.
-/

namespace WatWorkbench.Wasm

open Syntax

/-- What the parts of one kind are called, by number. -/
abbrev Labels := List Title

/-- What all parts are called, by number. -/
structure Scope where
  /-- The function types. -/
  types : Labels := []
  /-- The functions. -/
  funcs : Labels := []
  /-- The tables. -/
  tables : Labels := []
  /-- The memories. -/
  memories : Labels := []
  /-- The global variables. -/
  globals : Labels := []
  /-- The segments of references. -/
  elems : Labels := []
  /-- The segments of octets. -/
  datas : Labels := []
  /-- What the function types are. -/
  typeTable : List FuncType := []

namespace Scope

/-- The scope with the part of one more field. -/
def add (s : Scope) : Field → Scope
  | .type t _ _ => { s with types := s.types ++ [t] }
  | .imported t _ _ (.func _) => { s with funcs := s.funcs ++ [t] }
  | .imported t _ _ (.table _) => { s with tables := s.tables ++ [t] }
  | .imported t _ _ (.memory _) => { s with memories := s.memories ++ [t] }
  | .imported t _ _ (.global _) => { s with globals := s.globals ++ [t] }
  | .func t _ _ _ => { s with funcs := s.funcs ++ [t] }
  | .table t _ _ => { s with tables := s.tables ++ [t] }
  | .memory t _ => { s with memories := s.memories ++ [t] }
  | .global t _ _ => { s with globals := s.globals ++ [t] }
  | .elem t _ _ => { s with elems := s.elems ++ [t] }
  | .data t _ _ => { s with datas := s.datas ++ [t] }
  | .exported _ _ _ | .start _ | .custom _ => s

/-- The scope of fields. -/
def ofFields (fs : List Field) : Scope := fs.foldl add { typeTable := Wasm.typeTable fs }

/-- Whether no name is given twice. -/
def distinct (l : Labels) : Bool := (l.filterMap (·.ident)).Nodup

/-- Whether no name is given twice to parts of one kind.  Segments may share a name. -/
def isDistinct (s : Scope) : Bool :=
  distinct s.types && distinct s.funcs && distinct s.tables && distinct s.memories
    && distinct s.globals

/-- The parts of a kind. -/
def ofKind (s : Scope) : ExternKind → Labels
  | .func => s.funcs
  | .table => s.tables
  | .memory => s.memories
  | .global => s.globals

end Scope

/-- The number that a reference stands for.  The first part with its name is meant. -/
def Syntax.Ref.resolve (labels : Labels) : Ref → Option Nat
  | .index n => some n
  | .ident name => labels.findIdx? (·.ident = some name)

/-- The number that a reference to a segment stands for.  Segments may share a name, and the last one
with it is meant. -/
def Syntax.Ref.resolveSegment (labels : Labels) (r : Ref) : Option Nat :=
  match r with
  | .index n => some n
  | .ident _ => (r.resolve labels.reverse).map fun i => labels.length - 1 - i

/-- The names that are kept for diagnostics, by number. -/
def NameMap.ofLabels (l : Labels) : NameMap :=
  l.zipIdx.filterMap fun (t, i) => t.shown.map fun n => (i, n)

/-- What resolution keeps track of. -/
structure Resolution where
  /-- How many blocks of the function have been opened. -/
  blocks : Nat := 0
  /-- The names of the function's blocks. -/
  labels : NameMap := []

/-- Resolution, which may fail. -/
abbrev Resolver := StateT Resolution Option

namespace Resolver

/-- Fails where there is nothing. -/
def known {α : Type} : Option α → Resolver α
  | some a => pure a
  | none => failure

/-- The number of the function type that is used.  A type that is both referred to and written out
has to be the same. -/
def useType (s : Scope) (t : TypeUse) : Option Nat := do
  match t.type with
  | some r =>
    let i ← r.resolve s.types
    if t.isInline && s.typeTable[i]? ≠ some t.inline then none
    return i
  | none => s.typeTable.idxOf? t.inline

/-- The type of a block. -/
def blockType (s : Scope) (t : TypeUse) : Option BlockType :=
  if t.isShort then
    match t.results with
    | [] => some .empty
    | r :: _ => some (.value r)
  else (useType s t).map .index

/-- The number of the part that an instruction refers to. -/
def referent (s : Scope) (locals labels : Labels) (op : RefOp) (r : Ref) : Option Nat :=
  match op with
  | .br | .brIf => r.resolve labels
  | .localGet | .localSet | .localTee => r.resolve locals
  | .globalGet | .globalSet => r.resolve s.globals
  | .call | .tailCall | .refFunc => r.resolve s.funcs
  | .memorySize | .memoryGrow | .memoryFill => r.resolve s.memories
  | .dataDrop => r.resolveSegment s.datas
  | .tableGet | .tableSet | .tableSize | .tableGrow | .tableFill => r.resolve s.tables
  | .elemDrop => r.resolveSegment s.elems

/-- The instruction that refers to one part. -/
def refInstr : RefOp → Nat → Instr
  | .br => .br
  | .brIf => .brIf
  | .call => .call
  | .tailCall => .tailCall
  | .localGet => .localGet
  | .localSet => .localSet
  | .localTee => .localTee
  | .globalGet => .globalGet
  | .globalSet => .globalSet
  | .refFunc => .refFunc
  | .memorySize => .memorySize
  | .memoryGrow => .memoryGrow
  | .memoryFill => .memoryFill
  | .dataDrop => .dataDrop
  | .tableGet => .tableGet
  | .tableSet => .tableSet
  | .tableSize => .tableSize
  | .tableGrow => .tableGrow
  | .tableFill => .tableFill
  | .elemDrop => .elemDrop

/-- The instruction that refers to two parts. -/
def pairInstr (s : Scope) (first second : Ref) : PairOp → Option Instr
  | .memoryCopy =>
    return .memoryCopy (← first.resolve s.memories) (← second.resolve s.memories)
  | .memoryInit => return .memoryInit (← first.resolve s.memories) (← second.resolveSegment s.datas)
  | .tableCopy => return .tableCopy (← first.resolve s.tables) (← second.resolve s.tables)
  | .tableInit => return .tableInit (← first.resolve s.tables) (← second.resolveSegment s.elems)

/-- The instruction that reads or writes a memory. -/
def accessInstr (s : Scope) (make : MemArg → Instr) (memory : Ref) (align offset : Nat) :
    Option Instr :=
  (memory.resolve s.memories).map fun m => make ⟨m, align, offset⟩

/-- What ends the instructions of a block. -/
inductive Ending where
  /-- The end of the function. -/
  | finished
  /-- The end of the block. -/
  | closing (label : Option Ident)
  /-- The beginning of the other branch. -/
  | other (label : Option Ident)

/-- Whether a name after the end of a block is that of the block. -/
def closes (block : Title) : Option Ident → Bool
  | none => true
  | some name => block.ident = some name

/-- Fails unless a condition holds. -/
def guard (p : Bool) : Resolver Unit := if p then pure () else failure

/-- Notes that a block has been opened. -/
def openBlock (t : Title) : Resolver Unit := modify fun r =>
  { r with
    blocks := r.blocks + 1
    labels := r.labels ++ (t.shown.map fun n => (r.blocks, n)).toList }

/-- The instructions up to the end of the block, what ends them and what follows.  The first
argument bounds the number of steps; `labels` are the names of the blocks around, the innermost
first. -/
def nest (s : Scope) (locals : Labels) :
    Nat → Labels → List Op → Resolver (List Instr × Ending × List Op)
  | 0, _, _ => failure
  | _ + 1, _, [] => return ([], .finished, [])
  | fuel + 1, labels, o :: os => do
    let proceed (i : Instr) (os : List Op) : Resolver (List Instr × Ending × List Op) := do
      let (is, ending, rest) ← nest s locals fuel labels os
      return (i :: is, ending, rest)
    match o with
    | .closing l => return ([], .closing l, os)
    | .other l => return ([], .other l, os)
    | .plain i => proceed i os
    | .ref op r => proceed (refInstr op (← known (referent s locals labels op r))) os
    | .pair op first second => proceed (← known (pairInstr s first second op)) os
    | .load op memory align offset =>
      proceed (← known (accessInstr s (.load op) memory align offset)) os
    | .store op memory align offset =>
      proceed (← known (accessInstr s (.store op) memory align offset)) os
    | .brTable rs =>
      let ls ← known (rs.mapM (·.resolve labels))
      proceed (.brTable ls.dropLast (ls.getLastD 0)) os
    | .callIndirect isTail r t =>
      let table ← known (r.resolve s.tables)
      let type ← known (useType s t)
      proceed (if isTail then .tailCallIndirect type table else .callIndirect type table) os
    | .opening kind name t =>
      let type ← known (blockType s t)
      openBlock name
      let (body, ending, rest) ← nest s locals fuel (name :: labels) os
      match kind, ending with
      | .block, .closing l => guard (closes name l); proceed (.block type body) rest
      | .loop, .closing l => guard (closes name l); proceed (.loop type body) rest
      | .ifElse, .closing l => guard (closes name l); proceed (.ifElse type body [] false) rest
      | .ifElse, .other l =>
        guard (closes name l)
        let (no, ending, rest) ← nest s locals fuel (name :: labels) rest
        match ending with
        | .closing l => guard (closes name l); proceed (.ifElse type body no true) rest
        | _ => failure
      | _, _ => failure

/-- The instructions of a function or an expression. -/
def instrs (s : Scope) (locals : Labels) (os : List Op) : Resolver (List Instr) := do
  match ← nest s locals (2 * os.length + 2) [] os with
  | (is, .finished, _) => return is
  | _ => failure

/-- The instructions of an expression. -/
def expr (s : Scope) (os : List Op) : Resolver Expr := instrs s [] os

/-- What the local variables of a function are called, by number: those of the type, which have names
only if the type is written out, then the others. -/
def localScope (type : FuncType) (t : TypeUse) (locals : List Variable) : Labels :=
  let params := if t.isInline then t.params.map (·.title) else type.params.map fun _ => {}
  params ++ locals.map (·.title)

/-- Names of a function's parts, by the function. -/
def addNames (index : Nat) (names : NameMap) (m : List (Nat × NameMap)) : List (Nat × NameMap) :=
  if names.isEmpty then m else m ++ [(index, names)]

/-- Where the references of a segment go. -/
def elemMode (s : Scope) (m : Module) : ElemPlace → Resolver ElemMode
  | .active none offset => return .active none (← expr s offset)
  | .active (some r) offset => return .active (some (← known (r.resolve s.tables))) (← expr s offset)
  | .activeLast offset => return .active (some (m.tableTypes.length - 1)) (← expr s offset)
  | .passive => return .passive
  | .declared => return .declared

/-- The references of a segment. -/
def elemItems (s : Scope) : ElemList → Resolver ElemItems
  | .funcs rs => return .funcs (← known (rs.mapM (·.resolve s.funcs)))
  | .exprs t es => return .exprs t (← es.mapM (expr s))

/-- Where the octets of a segment go. -/
def dataTarget (s : Scope) (m : Module) : DataPlace → Resolver (Option (Nat × Expr))
  | .active memory offset => return some (← known (memory.resolve s.memories), ← expr s offset)
  | .activeLast offset => return some (m.memoryTypes.length - 1, ← expr s offset)
  | .passive => return none

/-- The number of the part that an export offers. -/
def exportIndex (s : Scope) (m : Module) (kind : ExternKind) : ExportRef → Resolver Nat
  | .ref r => known (r.resolve (s.ofKind kind))
  | .last =>
    let count := match kind with
      | .func => m.funcTypes.length
      | .table => m.tableTypes.length
      | .memory => m.memoryTypes.length
      | .global => m.globalTypes.length
    return count - 1

/-- The type of an import, and the names of the parameters if it is a function. -/
def importType (s : Scope) : ImportItem → Resolver (ImportType × NameMap)
  | .func t => return (.func (← known (useType s t)), NameMap.ofLabels (t.params.map (·.title)))
  | .table t => return (.table t, [])
  | .memory l => return (.memory l, [])
  | .global t => return (.global t, [])

/-- The module with one more field. -/
def field (s : Scope) (m : Module) : Field → Resolver Module
  | .type _ _ _ => return m
  | .imported _ module name item => do
    let (type, params) ← importType s item
    let names := { m.names with locals := addNames m.funcTypes.length params m.names.locals }
    return { m with imports := m.imports ++ [⟨module, name, type⟩], names }
  | .func _ t locals body => do
    let type ← known (useType s t)
    let funcType := s.typeTable[type]?.getD ⟨[], []⟩
    let scope := localScope funcType t locals
    guard (Scope.distinct scope)
    set ({} : Resolution)
    let is ← instrs s scope body
    let index := m.funcTypes.length
    let names := { m.names with
      locals := addNames index (NameMap.ofLabels scope) m.names.locals
      labels := addNames index (← get).labels m.names.labels }
    return { m with funcs := m.funcs ++ [⟨type, locals.map (·.type), is⟩], names }
  | .table _ type init => do
    return { m with tables := m.tables ++ [⟨type, ← init.mapM (expr s)⟩] }
  | .memory _ l => return { m with memories := m.memories ++ [l] }
  | .global _ t init => do
    return { m with globals := m.globals ++ [⟨t, ← expr s init⟩] }
  | .exported name kind r => do
    return { m with exports := m.exports ++ [⟨name, kind, ← exportIndex s m kind r⟩] }
  | .start r => do
    guard m.start.isNone
    return { m with start := some (← known (r.resolve s.funcs)) }
  | .elem _ place items => do
    return { m with elems := m.elems ++ [⟨← elemMode s m place, ← elemItems s items⟩] }
  | .data _ place bytes => do
    return { m with datas := m.datas ++ [⟨← dataTarget s m place, bytes⟩] }
  | .custom c => return { m with customs := m.customs ++ [c] }

end Resolver

/-- Whether no import comes after a definition that has a number. -/
def importsFirst : List Field → Bool
  | [] => true
  | f :: fs =>
    match f with
    | .func _ _ _ _ | .table _ _ _ | .memory _ _ | .global _ _ _ =>
      fs.all fun
        | .imported _ _ _ _ => false
        | _ => true
    | _ => importsFirst fs

/-- The names of the parameters of the function types that fields define, by the type. -/
def typeParams (fs : List Field) : List (Nat × NameMap) :=
  let names := fs.filterMap fun
    | .type _ params _ => some (NameMap.ofLabels (params.map (·.title)))
    | _ => none
  (names.zipIdx.filter (!·.1.isEmpty)).map fun (n, i) => (i, n)

/-- Whether an instruction refers to a segment of octets. -/
def Syntax.Op.usesData : Op → Bool
  | .ref .dataDrop _ | .pair .memoryInit _ _ => true
  | _ => false

/-- Whether the functions among fields refer to segments of octets. -/
def usesData (fs : List Field) : Bool :=
  fs.any fun
    | .func _ _ _ body => body.any (·.usesData)
    | _ => false

/-- The module of fields. -/
def Module.ofSource? (src : Source) : Option Module := do
  let s := Scope.ofFields src.fields
  if !s.isDistinct || !importsFirst src.fields then none
  let m ← (src.fields.foldlM (Resolver.field s) {}).run' {}
  some { m with
    types := s.typeTable
    dataCount := if usesData src.fields then some m.datas.length else none
    names := { m.names with
      module := src.title.shown
      funcs := NameMap.ofLabels s.funcs
      types := NameMap.ofLabels s.types
      tables := NameMap.ofLabels s.tables
      memories := NameMap.ofLabels s.memories
      globals := NameMap.ofLabels s.globals
      elems := NameMap.ofLabels s.elems
      datas := NameMap.ofLabels s.datas
      typeParams := typeParams src.fields } }

/-- The module of a text. -/
def Module.ofChars? (cs : List Char) : Option Module := do
  Module.ofSource? (← Parser.source (← Tree.ofChars? cs))

end WatWorkbench.Wasm
