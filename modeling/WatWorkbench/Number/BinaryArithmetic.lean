import WatWorkbench.Number.BinaryFormat

/-!
# Arithmetic of binary floating-point formats

Numbers are given by their bits, as naturals.  A finite number is an integer times a power of two,
so sums, products and comparisons are exact and rounding happens once, at the end; quotients are
rounded as ratios, and a square root carries one bit more that tells whether it is inexact.

An operation on a not-a-number gives that one made quiet, the left operand's first.  An operation
without a result gives the not-a-number with the sign set.

* `BinaryFormat.add`, `sub`, `mul`, `div`, `sqrt` — arithmetic, rounded to nearest.
* `BinaryFormat.roundTo` — rounding to an integer in one of four ways.
* `BinaryFormat.min`, `max`, `compare?` — order.
* `BinaryFormat.truncate?`, `ofInt`, `recode` — conversions.
-/

namespace WatWorkbench.BinaryFormat

variable (f : BinaryFormat)

/-! ## Parts of a number -/

/-- The weight of the sign. -/
def signBit : Nat := Nat.pow 2 (f.precision - 1 + f.exponentBits)

/-- The bits below the sign. -/
def magnitude (bits : Nat) : Nat := bits % f.signBit

/-- Whether the sign is set. -/
def isNegative (bits : Nat) : Bool := f.signBit ≤ bits

/-- The number with a sign and a magnitude. -/
def withSign (negative : Bool) (magnitude : Nat) : Nat :=
  if negative then magnitude + f.signBit else magnitude

/-- Whether the bits stand for no number. -/
def isNaN (bits : Nat) : Bool := f.infinity < f.magnitude bits

/-- Whether the number is infinite. -/
def isInfinite (bits : Nat) : Bool := f.magnitude bits = f.infinity

/-- Whether the number is a zero. -/
def isZero (bits : Nat) : Bool := f.magnitude bits = 0

/-- A not-a-number made quiet. -/
def quieted (bits : Nat) : Nat := bits ||| f.unit / 2

/-- The not-a-number of an operation without a result. -/
def invalid : Nat := f.withSign true f.quietNaN

/-- The integer and the power of two of a finite number. -/
def exact (bits : Nat) : Int × Int :=
  let (m, e) := f.split (f.magnitude bits)
  (if f.isNegative bits then -(m : Int) else m, e)

/-- The number nearest to `m * 2 ^ e`; a zero gets the given sign. -/
def ofExact (zeroNegative : Bool) (m e : Int) : Nat :=
  f.withSign (if m = 0 then zeroNegative else m < 0) (f.ofScaled m.natAbs e)

/-- The result of an operation on two operands, one of which may be no number. -/
def propagate (x y : Nat) (result : Nat) : Nat :=
  if f.isNaN x then f.quieted x else if f.isNaN y then f.quieted y else result

/-! ## Signs -/

/-- The number with its sign cleared. -/
def abs (x : Nat) : Nat := f.magnitude x

/-- The number with its sign changed. -/
def neg (x : Nat) : Nat := f.withSign (!f.isNegative x) (f.magnitude x)

/-- The first number with the sign of the second. -/
def copysign (x y : Nat) : Nat := f.withSign (f.isNegative y) (f.magnitude x)

/-! ## Arithmetic -/

/-- The sum of two numbers. -/
def sum (x y : Nat) : Nat :=
  match f.isInfinite x, f.isInfinite y with
  | true, true => if f.isNegative x = f.isNegative y then x else f.invalid
  | true, false => x
  | false, true => y
  | false, false =>
    let (m, d) := f.exact x
    let (n, e) := f.exact y
    let low := if d ≤ e then d else e
    f.ofExact (f.isNegative x && f.isNegative y)
      (m * Nat.pow 2 (d - low).toNat + n * Nat.pow 2 (e - low).toNat) low

/-- Addition. -/
def add (x y : Nat) : Nat := f.propagate x y (f.sum x y)

/-- Subtraction. -/
def sub (x y : Nat) : Nat := f.propagate x y (f.sum x (f.neg y))

/-- Multiplication. -/
def mul (x y : Nat) : Nat :=
  let negative := f.isNegative x != f.isNegative y
  f.propagate x y <|
    if f.isInfinite x || f.isInfinite y then
      if f.isZero x || f.isZero y then f.invalid else f.withSign negative f.infinity
    else
      let (m, d) := f.exact x
      let (n, e) := f.exact y
      f.ofExact negative (m * n) (d + e)

/-- Division. -/
def div (x y : Nat) : Nat :=
  let negative := f.isNegative x != f.isNegative y
  f.propagate x y <|
    match f.isInfinite x, f.isInfinite y with
    | true, true => f.invalid
    | true, false => f.withSign negative f.infinity
    | false, true => f.withSign negative 0
    | false, false =>
      if f.isZero y then
        if f.isZero x then f.invalid else f.withSign negative f.infinity
      else
        let (m, d) := f.exact x
        let (n, e) := f.exact y
        f.withSign negative
          (f.round (m.natAbs * Nat.pow 2 (d - e).toNat) (n.natAbs * Nat.pow 2 (e - d).toNat))

/-- The greatest natural whose square is at most `n`, by its bits from the highest. -/
def squareRoot (n : Nat) : Nat := go (n.log2 / 2 + 1) 0
where
  /-- Decides one bit after another. -/
  go : Nat → Nat → Nat
    | 0, r => r
    | i + 1, r =>
      let next := r + Nat.pow 2 i
      go i (if next * next ≤ n then next else r)

/-- The square root of a number. -/
def sqrt (x : Nat) : Nat :=
  if f.isNaN x then f.quieted x
  else if f.isZero x then x
  else if f.isNegative x then f.invalid
  else if f.isInfinite x then x
  else
    let (m, e) := f.split x
    let shift := f.precision + 2
    let n := m * Nat.pow 2 (2 * shift + (e % 2).toNat)
    let r := squareRoot n
    f.ofScaled (2 * r + if r * r = n then 0 else 1) (e / 2 - shift - 1)

/-! ## Rounding to an integer -/

/-- The ways to round to an integer. -/
inductive Rounding where
  /-- Towards positive infinity. -/
  | up
  /-- Towards negative infinity. -/
  | down
  /-- Towards zero. -/
  | toZero
  /-- To the nearest integer, a half to the even one. -/
  | nearest
  deriving DecidableEq, Repr

/-- The magnitude `num / den`, whose sign is given, rounded to an integer. -/
def Rounding.apply (negative : Bool) (num den : Nat) : Rounding → Nat
  | up => if negative then num / den else (num + den - 1) / den
  | down => if negative then (num + den - 1) / den else num / den
  | toZero => num / den
  | nearest => divNearest num den

/-- The number rounded to an integer, with its sign kept. -/
def roundTo (r : Rounding) (x : Nat) : Nat :=
  if f.isNaN x then f.quieted x
  else if f.isInfinite x then x
  else
    let (m, e) := f.split (f.magnitude x)
    if 0 ≤ e then x
    else f.withSign (f.isNegative x)
      (f.ofScaled (r.apply (f.isNegative x) m (Nat.pow 2 (-e).toNat)) 0)

/-! ## Order -/

/-- A key by which numbers are ordered; both zeros have the same one. -/
def orderKey (x : Nat) : Int :=
  if f.isNegative x then -(f.magnitude x : Int) else f.magnitude x

/-- How two numbers compare, if both are numbers. -/
def compare? (x y : Nat) : Option Ordering :=
  if f.isNaN x || f.isNaN y then none else some (compare (f.orderKey x) (f.orderKey y))

/-- The smaller of two numbers; of two zeros the negative one. -/
def min (x y : Nat) : Nat :=
  f.propagate x y <|
    if f.orderKey x < f.orderKey y then x
    else if f.orderKey y < f.orderKey x then y
    else if f.isNegative x then x else y

/-- The greater of two numbers; of two zeros the positive one. -/
def max (x y : Nat) : Nat :=
  f.propagate x y <|
    if f.orderKey y < f.orderKey x then x
    else if f.orderKey x < f.orderKey y then y
    else if f.isNegative x then y else x

/-! ## Conversions -/

/-- A finite number without its fractional part. -/
def truncate? (x : Nat) : Option Int :=
  if f.infinity ≤ f.magnitude x then none
  else
    let (m, e) := f.split (f.magnitude x)
    let n : Int := if 0 ≤ e then m * Nat.pow 2 e.toNat else m / Nat.pow 2 (-e).toNat
    some (if f.isNegative x then -n else n)

/-- The number nearest to an integer. -/
def ofInt (i : Int) : Nat := f.withSign (i < 0) (f.round i.natAbs 1)

/-- The number of format `g` nearest to one of format `f`.  Of a not-a-number the first bits of the
fraction are kept. -/
def recode (g : BinaryFormat) (x : Nat) : Nat :=
  let negative := f.isNegative x
  if f.isNaN x then
    let fraction := f.magnitude x % f.unit
    let kept := fraction * Nat.pow 2 (g.precision - f.precision) / Nat.pow 2 (f.precision - g.precision)
    g.quieted (g.withSign negative (g.infinity + kept))
  else if f.isInfinite x then g.withSign negative g.infinity
  else
    let (m, e) := f.split (f.magnitude x)
    g.withSign negative (g.ofScaled m e)

end WatWorkbench.BinaryFormat
