import WatWorkbench.Number.BinaryFormat
import WatWorkbench.Text.Basic

/-!
# Numbers of double precision

A double is its 64 bits.  Two doubles are equal as data when their bits agree; `Double.eq` is the
numerical equality, under which a not-a-number differs from itself and both zeros are the same.

* `Double.ofInt?`, `Double.ofScientific` — conversion from integers and decimals.
* `Double.toInt?`, `Double.isIntegral` — conversion to integers.
* `Double.shortestDigits` — the fewest decimal digits that read back as the same double.
* `Double.text` — the written form: positional from 10⁻⁴ up to 10¹⁶, with an exponent elsewhere.
* `Double.fixedDigits` — a magnitude rounded to a given number of decimal places, exactly.
-/

namespace WatWorkbench

/-- A floating-point number of double precision, by its bits. -/
structure Double where
  /-- Sign, exponent and fraction. -/
  bits : UInt64
  deriving DecidableEq, Inhabited, Repr

namespace Double

/-- The bits below the sign. -/
def magnitude (x : Double) : Nat := x.bits.toNat % 0x8000000000000000

/-- Whether the sign bit is set. -/
def isNegative (x : Double) : Bool := 0x8000000000000000 ≤ x.bits.toNat

/-- The double with a sign and a magnitude. -/
def ofMagnitude (negative : Bool) (magnitude : Nat) : Double :=
  ⟨(magnitude % 0x8000000000000000 + if negative then 0x8000000000000000 else 0).toUInt64⟩

/-- Whether the double is no number. -/
def isNaN (x : Double) : Bool := BinaryFormat.double.infinity < x.magnitude

/-- Whether the double is an infinity. -/
def isInfinite (x : Double) : Bool := x.magnitude = BinaryFormat.double.infinity

/-- Whether the double is a number and no infinity. -/
def isFinite (x : Double) : Bool := x.magnitude < BinaryFormat.double.infinity

/-- Positive infinity. -/
def infinity : Double := ofMagnitude false BinaryFormat.double.infinity

/-- The usual not-a-number. -/
def nan : Double := ofMagnitude false BinaryFormat.double.quietNaN

/-- The double nearest to a decimal. -/
def ofScientific (negative : Bool) (m : Nat) (e : Int) : Double :=
  ofMagnitude negative (BinaryFormat.double.ofScientific m e)

/-- The double nearest to an integer, unless that is beyond the finite ones. -/
def ofInt? (i : Int) : Option Double :=
  let magnitude := BinaryFormat.double.round i.natAbs 1
  if magnitude < BinaryFormat.double.infinity then some (ofMagnitude (i < 0) magnitude) else none

/-- The magnitude of a finite double as a ratio of naturals. -/
def ratio (x : Double) : Nat × Nat :=
  let (m, q) := BinaryFormat.double.split x.magnitude
  if q < 0 then (m, Nat.pow 2 (-q).toNat) else (m * Nat.pow 2 q.toNat, 1)

/-- Whether a finite double is an integer. -/
def isIntegral (x : Double) : Bool := x.isFinite && x.ratio.1 % x.ratio.2 = 0

/-- A finite double without its fractional part. -/
def toInt? (x : Double) : Option Int :=
  if x.isFinite then
    let n : Int := (x.ratio.1 / x.ratio.2 : Nat)
    some (if x.isNegative then -n else n)
  else none

/-- Numerical equality. -/
def eq (x y : Double) : Bool :=
  !x.isNaN && !y.isNaN && (x.bits = y.bits || (x.magnitude = 0 && y.magnitude = 0))

/-- Whether a double is numerically equal to an integer. -/
def eqInt (x : Double) (i : Int) : Bool := x.isIntegral && x.toInt? = some i

/-! ## Decimal digits -/

/-- Whether `num / den` is at least `10 ^ e`. -/
def atLeastPowerOfTen (num den : Nat) (e : Int) : Bool :=
  if e < 0 then den ≤ num * Nat.pow 10 (-e).toNat else den * Nat.pow 10 e.toNat ≤ num

/-- The `e` with `10 ^ (e - 1) ≤ num / den < 10 ^ e`, for a positive ratio.  The difference of
the binary logarithms leaves two candidates. -/
def decimalPoint (num den : Nat) : Int :=
  let estimate : Int := (((num.log2 : Int) - den.log2 - 1) * 30103).fdiv 100000 + 1
  if atLeastPowerOfTen num den estimate then estimate + 1 else estimate

/-- The ratio `num / den * 10 ^ e`. -/
def scaleTen (num den : Nat) (e : Int) : Nat × Nat :=
  if e < 0 then (num, den * Nat.pow 10 (-e).toNat) else (num * Nat.pow 10 e.toNat, den)

/-- The decimals that read back as one double: `num / den` units between two bounds. -/
structure Interval where
  /-- The lower bound, in quarters of the unit of the last place. -/
  lower : Nat
  /-- The value. -/
  value : Nat
  /-- The upper bound. -/
  upper : Nat
  /-- Whether the bounds belong to the interval. -/
  closed : Bool

/-- The interval of a magnitude: up to the midpoints to its neighbours, which round to it when its
significand is even.  Just above a power of two the lower neighbour is half as far. -/
def Interval.ofMagnitude (magnitude : Nat) : Interval :=
  let f := BinaryFormat.double
  let (m, q) := f.split magnitude
  ⟨4 * m - (if m = f.unit && f.lowest < q then 1 else 2), 4 * m, 4 * m + 2, m % 2 = 0⟩

/-- Whether `num / den` quarter units lie in the interval. -/
def Interval.holds (i : Interval) (num den : Nat) : Bool :=
  if i.closed then i.lower * den ≤ num && num ≤ i.upper * den
  else i.lower * den < num && num < i.upper * den

/-- Searches the grids of `count`, `count + 1`, … significant digits for a decimal inside the
interval.  On each grid only the two neighbours of the value can be the first inside. -/
def searchGrids (i : Interval) (num den : Nat) (point : Int) : Nat → Nat → Nat × Nat
  | 0, count => (BinaryFormat.divNearest num den, count)
  | fuel + 1, count =>
    let (a, b) := scaleTen num den (count - point)
    let inside (c : Nat) : Bool := i.holds (c * b * i.value) a
    let near := BinaryFormat.divNearest a b
    let far := if near * b ≤ a then near + 1 else near - 1
    if inside near then (near, count)
    else if inside far then (far, count)
    else searchGrids i num den point fuel (count + 1)

/-- A positive finite magnitude as `0.d₁d₂… * 10 ^ e`: its shortest digits and `e`.  Seventeen
digits always suffice. -/
def shortestDigits (magnitude : Nat) : Nat × Int :=
  let (num, den) := (ofMagnitude false magnitude).ratio
  let point := decimalPoint num den
  let (n, count) := searchGrids (.ofMagnitude magnitude) num den point 17 1
  -- rounding up to the next power of ten moves the point
  if n = Nat.pow 10 count then (1, point + 1) else (n, point)

/-- The decimal digits of `n`, trailing zeros left out. -/
def significantDigits (n : Nat) : List Char :=
  ((Nat.toDigits 10 n).reverse.dropWhile (· == '0')).reverse

/-- How decimals are written. -/
structure DecimalStyle where
  /-- The least position of the decimal point written positionally. -/
  lowPoint : Int
  /-- The greatest position of the decimal point written positionally. -/
  highPoint : Int
  /-- The least number of exponent digits. -/
  exponentDigits : Nat

/-- Doubles are positional from 10⁻⁴ to below 10¹⁶, and exponents have two digits or more. -/
def written : DecimalStyle := ⟨-3, 16, 2⟩

/-- The exponent part for `0.d₁d₂… * 10 ^ point`. -/
def DecimalStyle.exponent (s : DecimalStyle) (point : Int) : Text :=
  let e := point - 1
  "e" ++ (if e < 0 then "-" else "+" : Text)
    ++ Text.padLeft '0'.toNat s.exponentDigits (Text.decimal e.natAbs)

/-- The written form of `0.d₁d₂… * 10 ^ point`. -/
def DecimalStyle.render (s : DecimalStyle) (digits : List Char) (point : Int) : Text :=
  let zeros (n : Nat) : List Char := List.replicate n '0'
  if s.lowPoint ≤ point && point ≤ s.highPoint then
    if point ≤ 0 then Text.ofChars ('0' :: '.' :: zeros (-point).toNat ++ digits)
    else if digits.length ≤ point.toNat then
      Text.ofChars (digits ++ zeros (point.toNat - digits.length) ++ ['.', '0'])
    else Text.ofChars (digits.take point.toNat ++ '.' :: digits.drop point.toNat)
  else
    let mantissa := match digits with
      | [] => ['0']
      | [d] => [d]
      | d :: ds => d :: '.' :: ds
    Text.ofChars mantissa ++ s.exponent point

/-- The written form of a double. -/
def text (x : Double) : Text :=
  if x.isNaN then "nan" else
  let sign : Text := if x.isNegative then "-" else ""
  if x.isInfinite then sign ++ "inf"
  else if x.magnitude = 0 then sign ++ "0.0"
  else
    let (n, point) := shortestDigits x.magnitude
    sign ++ written.render (significantDigits n) point

/-- A finite magnitude times `10 ^ places`, rounded to the nearest natural. -/
def fixedDigits (x : Double) (places : Nat) : Nat :=
  let (num, den) := x.ratio
  BinaryFormat.divNearest (num * Nat.pow 10 places) den

/-- A positive finite magnitude rounded to `count` significant digits: the digits as a natural
with exactly `count` of them, and the position of the point before the first. -/
def roundedDigits (x : Double) (count : Nat) : Nat × Int :=
  let (num, den) := x.ratio
  let point := decimalPoint num den
  let (a, b) := scaleTen num den (count - point)
  let n := BinaryFormat.divNearest a b
  if n = Nat.pow 10 count then (Nat.pow 10 (count - 1), point + 1) else (n, point)

end Double

end WatWorkbench
