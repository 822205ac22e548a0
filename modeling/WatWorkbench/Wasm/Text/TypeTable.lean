import WatWorkbench.Wasm.Text.Field

/-!
# The function types of a module's text

A text defines function types, and it implies others: a type that is written out where it is used,
without a reference, has to be among the types of the module.  Types that are implied and not there
yet are added at the end, in the order in which the text comes to them, before any use of a type is
resolved.  So a reference by number may be to a type that only a later part of the text implies.

* `Syntax.Field.implied` — the types that a field implies.
* `typeTable` — all function types of a module's text.
-/

namespace WatWorkbench.Wasm

open Syntax

namespace Syntax

/-- The function type that a type use implies: the one written out, unless there is a reference. -/
def TypeUse.implied? (t : TypeUse) : Option FuncType := if t.type.isNone then some t.inline else none

/-- Whether the type of a block can be said without a function type: it takes nothing and gives at
most one value. -/
def TypeUse.isShort (t : TypeUse) : Bool :=
  t.type.isNone && t.params.isEmpty && t.results.length ≤ 1

/-- The function type that an instruction implies. -/
def Op.implied? : Op → Option FuncType
  | .callIndirect _ _ t => t.implied?
  | .opening _ _ t => if t.isShort then none else t.implied?
  | _ => none

/-- The instructions that say where a segment of references goes. -/
def ElemPlace.ops : ElemPlace → List Op
  | .active _ offset | .activeLast offset => offset
  | .passive | .declared => []

/-- The instructions among the references of a segment. -/
def ElemList.ops : ElemList → List Op
  | .funcs _ => []
  | .exprs _ items => items.flatten

/-- The instructions that say where a segment of octets goes. -/
def DataPlace.ops : DataPlace → List Op
  | .active _ offset | .activeLast offset => offset
  | .passive => []

/-- The instructions of a field, in the order of the text. -/
def Field.ops : Field → List Op
  | .func _ _ _ body => body
  | .table _ _ init => init.getD []
  | .global _ _ init => init
  | .elem _ place items => place.ops ++ items.ops
  | .data _ place _ => place.ops
  | .type _ _ _ | .imported _ _ _ _ | .memory _ _ | .exported _ _ _ | .start _ | .custom _ => []

/-- The type use of a field that is a function. -/
def Field.typeUse? : Field → Option TypeUse
  | .func _ t _ _ | .imported _ _ _ (.func t) => some t
  | _ => none

/-- The function types that a field implies: its own, then those of its instructions. -/
def Field.implied (f : Field) : List FuncType :=
  (f.typeUse?.bind (·.implied?)).toList ++ f.ops.filterMap (·.implied?)

end Syntax

/-- The function types that fields define. -/
def explicitTypes (fs : List Field) : List FuncType :=
  fs.filterMap fun
    | .type _ params results => some ⟨params.map (·.type), results⟩
    | _ => none

/-- Function types with one more at the end, unless it is among them. -/
def addType (ts : List FuncType) (t : FuncType) : List FuncType :=
  if ts.contains t then ts else ts ++ [t]

/-- The function types of a module's text: those that are defined, then those that are implied. -/
def typeTable (fs : List Field) : List FuncType :=
  (fs.flatMap (·.implied)).foldl addType (explicitTypes fs)

end WatWorkbench.Wasm
