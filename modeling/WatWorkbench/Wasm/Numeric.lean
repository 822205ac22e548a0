import WatWorkbench.Number.BinaryArithmetic
import WatWorkbench.Wasm.Instr
import WatWorkbench.Wasm.Trap

/-!
# Numeric instructions

What the numeric instructions compute.  Operands and results are bits, as naturals; an integer is
read as signed where the instruction says so.

* `Width.signed`, `Width.ofInt` — the two readings of an integer's bits.
* `NumOp.apply` — the result of a numeric instruction, or a trap.
-/

namespace WatWorkbench.Wasm

namespace Width

/-- The first natural that does not fit. -/
def modulus (w : Width) : Nat := Nat.pow 2 w.size

/-- The bits as a signed integer. -/
def signed (w : Width) (n : Nat) : Int :=
  if n < Nat.pow 2 (w.size - 1) then n else (n : Int) - w.modulus

/-- The bits of an integer. -/
def ofInt (w : Width) (i : Int) : Nat := (i % w.modulus).toNat

/-- The format of floating-point numbers. -/
def format : Width → BinaryFormat
  | w32 => .single
  | w64 => .double

end Width

/-- The bits of a truth value. -/
def ofBool (b : Bool) : Nat := if b then 1 else 0

/-! ## Integers -/

/-- How many of the lowest bits are zero, up to a bound. -/
def trailingZeros : Nat → Nat → Nat
  | 0, _ => 0
  | bound + 1, n => if n % 2 = 1 then 0 else trailingZeros bound (n / 2) + 1

/-- How many of the lowest bits are one. -/
def countOnes : Nat → Nat → Nat
  | 0, _ => 0
  | bound + 1, n => n % 2 + countOnes bound (n / 2)

/-- An operation on one integer. -/
def IntUnary.apply (w : Width) (n : Nat) : IntUnary → Nat
  | clz => if n = 0 then w.size else w.size - 1 - n.log2
  | ctz => trailingZeros w.size n
  | popcnt => countOnes w.size n

/-- The bits moved round to the left. -/
def rotateLeft (w : Width) (n count : Nat) : Nat :=
  let c := count % w.size
  (n * Nat.pow 2 c + n / Nat.pow 2 (w.size - c)) % w.modulus

/-- An operation on two integers. -/
def IntBinary.apply (w : Width) (a b : Nat) : IntBinary → Except Trap Nat
  | add => .ok ((a + b) % w.modulus)
  | sub => .ok ((a + (w.modulus - b)) % w.modulus)
  | mul => .ok (a * b % w.modulus)
  | divS =>
    if b = 0 then .error .divisionByZero
    else
      let q := (w.signed a).tdiv (w.signed b)
      if q = Nat.pow 2 (w.size - 1) then .error .integerOverflow else .ok (w.ofInt q)
  | divU => if b = 0 then .error .divisionByZero else .ok (a / b)
  | remS => if b = 0 then .error .divisionByZero else .ok (w.ofInt ((w.signed a).tmod (w.signed b)))
  | remU => if b = 0 then .error .divisionByZero else .ok (a % b)
  | and => .ok (a &&& b)
  | or => .ok (a ||| b)
  | xor => .ok (a ^^^ b)
  | shl => .ok (a * Nat.pow 2 (b % w.size) % w.modulus)
  | shrS => .ok (w.ofInt (w.signed a / Nat.pow 2 (b % w.size)))
  | shrU => .ok (a / Nat.pow 2 (b % w.size))
  | rotl => .ok (rotateLeft w a b)
  | rotr => .ok (rotateLeft w a (w.size - b % w.size))

/-- A comparison of two integers. -/
def IntCompare.apply (w : Width) (a b : Nat) : IntCompare → Bool
  | eq => a = b
  | ne => a ≠ b
  | ltS => w.signed a < w.signed b
  | ltU => a < b
  | gtS => w.signed a > w.signed b
  | gtU => a > b
  | leS => w.signed a ≤ w.signed b
  | leU => a ≤ b
  | geS => w.signed a ≥ w.signed b
  | geU => a ≥ b

/-! ## Floating-point numbers -/

/-- An operation on one floating-point number. -/
def FloatUnary.apply (f : BinaryFormat) (x : Nat) : FloatUnary → Nat
  | abs => f.abs x
  | neg => f.neg x
  | ceil => f.roundTo .up x
  | floor => f.roundTo .down x
  | trunc => f.roundTo .toZero x
  | nearest => f.roundTo .nearest x
  | sqrt => f.sqrt x

/-- An operation on two floating-point numbers. -/
def FloatBinary.apply (f : BinaryFormat) (x y : Nat) : FloatBinary → Nat
  | add => f.add x y
  | sub => f.sub x y
  | mul => f.mul x y
  | div => f.div x y
  | min => f.min x y
  | max => f.max x y
  | copysign => f.copysign x y

/-- A comparison of two floating-point numbers.  Something that is no number differs from
everything and is neither less nor greater. -/
def FloatCompare.apply (f : BinaryFormat) (x y : Nat) (op : FloatCompare) : Bool :=
  match op, f.compare? x y with
  | ne, none => true
  | _, none => false
  | eq, some o => o = .eq
  | ne, some o => o ≠ .eq
  | lt, some o => o = .lt
  | gt, some o => o = .gt
  | le, some o => o ≠ .gt
  | ge, some o => o ≠ .lt

/-! ## Conversions -/

/-- The least and the greatest integer of a width. -/
def Width.range (w : Width) (signed : Bool) : Int × Int :=
  if signed then (-(Nat.pow 2 (w.size - 1)), Nat.pow 2 (w.size - 1) - 1) else (0, Nat.pow 2 w.size - 1)

/-- The integer of a floating-point number. -/
def truncate (target source : Width) (signed : Bool) (x : Nat) : Except Trap Nat :=
  if source.format.isNaN x then .error .badConversion
  else match source.format.truncate? x with
    | none => .error .integerOverflow
    | some i =>
      let (low, high) := target.range signed
      if low ≤ i && i ≤ high then .ok (target.ofInt i) else .error .integerOverflow

/-- The integer nearest to a floating-point number within the range; zero for what is no
number. -/
def truncateClamped (target source : Width) (signed : Bool) (x : Nat) : Nat :=
  let (low, high) := target.range signed
  if source.format.isNaN x then 0
  else match source.format.truncate? x with
    | none => target.ofInt (if source.format.isNegative x then low else high)
    | some i => target.ofInt (max low (min high i))

/-- A conversion. -/
def Conversion.apply (x : Nat) : Conversion → Except Trap Nat
  | wrap => .ok (x % 0x100000000)
  | trunc target source signed => truncate target source signed x
  | truncSat target source signed => .ok (truncateClamped target source signed x)
  | extend signed => .ok (if signed then Width.w64.ofInt (Width.w32.signed x) else x)
  | convert target source signed =>
    .ok (target.format.ofInt (if signed then source.signed x else x))
  | demote => .ok (BinaryFormat.double.recode .single x)
  | promote => .ok (BinaryFormat.single.recode .double x)
  | toBits _ | ofBits _ => .ok x
  | signExtend w low =>
    let n := x % Nat.pow 2 low
    .ok (if n < Nat.pow 2 (low - 1) then n else w.modulus - Nat.pow 2 low + n)

/-! ## All together -/

/-- The bits of a number. -/
def Number.bits : Number → Nat
  | i32 n => n.toNat
  | i64 n => n.toNat
  | f32 n => n.toNat
  | f64 n => n.toNat

/-- The number of a type with given bits. -/
def Number.ofBits (n : Nat) : ValType → Number
  | .i64 => i64 n.toUInt64
  | .f32 => f32 n.toUInt32
  | .f64 => f64 n.toUInt64
  | _ => i32 n.toUInt32

/-- The result of a numeric instruction on the bits of its operands.  Where there is one operand,
the second is not looked at. -/
def NumOp.apply (a b : Nat) : NumOp → Except Trap Nat
  | eqz _ => .ok (ofBool (a = 0))
  | icompare w op => .ok (ofBool (op.apply w a b))
  | fcompare w op => .ok (ofBool (op.apply w.format a b))
  | iunary w op => .ok (op.apply w a)
  | ibinary w op => op.apply w a b
  | funary w op => .ok (op.apply w.format a)
  | fbinary w op => .ok (op.apply w.format a b)
  | convert op => op.apply a

end WatWorkbench.Wasm
