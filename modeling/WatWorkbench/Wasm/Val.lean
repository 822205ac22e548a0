import WatWorkbench.Engine.Script
import WatWorkbench.Wasm.Numeric

/-!
# Values

The values that instructions work on, and the passage between them and the values of the host.

* `Val` — a value on the stack.
* `Val.toValue`, `Val.ofValue` — the passage to and from the host.
* `Val.toResult`, `Val.ofResult` — the passage for the results of functions.
-/

namespace WatWorkbench.Wasm

/-- A value on the stack. -/
inductive Val where
  /-- A number. -/
  | number (n : Number)
  /-- A reference to a function, or to none. -/
  | funcRef (index : Option Nat)
  /-- A reference to a thing of the host, or to none. -/
  | externRef (value : Option Value)
  deriving Inhabited

namespace Val

/-- The integer of 32 bits. -/
def ofNat32 (n : Nat) : Val := number (.i32 n.toUInt32)

/-- The integer of a width. -/
def ofNat (w : Width) (n : Nat) : Val := number (.ofBits n w.int)

/-- The first value of a variable. -/
def zero : ValType → Val
  | .funcref => funcRef none
  | .externref => externRef none
  | t => number (.ofBits 0 t)

/-- The null reference of a type. -/
def null : ValType → Val
  | .externref => externRef none
  | _ => funcRef none

/-- Whether the value is a null reference. -/
def isNull : Val → Bool
  | funcRef none | externRef none => true
  | _ => false

/-- The value as the host sees it.  Integers are read as signed, numbers of single precision are
widened, and null references are absent values. -/
def toValue : Val → Value
  | number (.i32 n) => .int (Width.w32.signed n.toNat)
  | number (.i64 n) => .int (Width.w64.signed n.toNat)
  | number (.f32 n) => .float ⟨(BinaryFormat.single.recode .double n.toNat).toUInt64⟩
  | number (.f64 n) => .float ⟨n⟩
  | funcRef none => .null
  | funcRef (some _) => .foreign "Func"
  | externRef v => v.getD .null

/-- The integer of a value that counts as one. -/
def integer? : Value → Option Int
  | .int i => some i
  | .bool b => some (if b then 1 else 0)
  | _ => none

/-- A value of the host as one of a type.  Integers are cut to their width; floating-point numbers
are never made from integers; a thing of the host goes through as it is. -/
def ofValue (t : ValType) (v : Value) : Except Failure Val :=
  let refused : Except Failure Val :=
    .error (.raised .type ("don't know how to convert " ++ v.quoted ++ " to " ++ t.name))
  match t, v with
  | .i32, v => match integer? v with
    | some i => .ok (number (.i32 (Width.w32.ofInt i).toUInt32))
    | none => refused
  | .i64, v => match integer? v with
    | some i => .ok (number (.i64 (Width.w64.ofInt i).toUInt64))
    | none => refused
  | .f32, .float x => .ok (number (.f32 (BinaryFormat.double.recode .single x.bits.toNat).toUInt32))
  | .f64, .float x => .ok (number (.f64 x.bits))
  | .externref, .null => .ok (externRef none)
  | .externref, v => .ok (externRef (some v))
  | .funcref, .null => .ok (funcRef none)
  | _, _ => refused

/-- The elements of a value that has a length. -/
def elements? : Value → Option (List Value)
  | .list vs | .tuple vs | .set vs => some vs
  | .dict es => some (es.map (·.1))
  | .text t => some (t.points.map fun c => .text ⟨[c]⟩)
  | .kind k => some (k.name.points.map fun c => .text ⟨[c]⟩)
  | .bytes bs => some (bs.map fun b => .int b.toNat)
  | _ => none

/-- What a host function returned as values of its result types.  Without result types whatever
was returned is dropped; of several results there has to be the right number. -/
def ofResult (ts : List ValType) (v : Value) : Except Failure (List Val) :=
  match ts with
  | [] => .ok []
  | [t] => do return [← ofValue t v]
  | ts => match elements? v with
    | none => .error (.raised .type ("object of type '" ++ v.typeName ++ "' has no len()"))
    | some vs =>
      if vs.length = ts.length then (ts.zip vs).mapM fun (t, v) => ofValue t v
      else .error (.stage .runtime engineComplaint)

/-- The results of a function as one value of the host. -/
def toResult : List Val → Value
  | [] => .null
  | [v] => v.toValue
  | vs => .list (vs.map toValue)

end Val

end WatWorkbench.Wasm
