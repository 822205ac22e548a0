/-!
# Binary floating-point formats

A format is given by its precision and the width of its exponent; a magnitude is then a natural
number, the bits below the sign.  All work here is exact arithmetic on naturals, so that nothing
depends on the machine's own floats.

* `BinaryFormat.round` — the magnitude nearest to a ratio of naturals, ties to the even neighbour.
* `BinaryFormat.split` — the integer and the power of two that a finite magnitude stands for.
* `BinaryFormat.ofScientific`, `BinaryFormat.ofScaled` — magnitudes read from decimal and binary
  exponents.
-/

namespace WatWorkbench

/-- A binary floating-point format. -/
structure BinaryFormat where
  /-- How many bits the significand has, the leading one included. -/
  precision : Nat
  /-- How many bits the exponent has. -/
  exponentBits : Nat
  deriving DecidableEq, Repr

namespace BinaryFormat

/-- The format of 64 bits. -/
def double : BinaryFormat := ⟨53, 11⟩

/-- The format of 32 bits. -/
def single : BinaryFormat := ⟨24, 8⟩

variable (f : BinaryFormat)

/-- The weight of the first bit above the fraction. -/
def unit : Nat := Nat.pow 2 (f.precision - 1)

/-- The exponent of the last bit of the smallest numbers. -/
def lowest : Int := 3 - Nat.pow 2 (f.exponentBits - 1) - f.precision

/-- The magnitude of infinity. -/
def infinity : Nat := (Nat.pow 2 f.exponentBits - 1) * f.unit

/-- The magnitude of the not-a-number that operations produce. -/
def quietNaN : Nat := f.infinity + f.unit / 2

/-- The quotient rounded to the nearest natural, a half to the even one. -/
def divNearest (num den : Nat) : Nat :=
  let q := num / den
  let r := 2 * (num % den)
  if r < den then q else if den < r then q + 1 else q + q % 2

/-- The magnitude nearest to `num / den`; too large a ratio gives infinity.  The exponent of the
last bit is chosen so that the rounded significand has full precision, except below the smallest
such number.  A significand that rounds up to the next power of two carries into the exponent,
which is exactly what adding it to the exponent's weight does. -/
def round (num den : Nat) : Nat :=
  if num = 0 || den = 0 then 0 else
  let estimate : Int := (num.log2 : Int) - den.log2
  let below := if estimate < 0 then num * Nat.pow 2 (-estimate).toNat < den
    else num < den * Nat.pow 2 estimate.toNat
  let exponent := if below then estimate - 1 else estimate
  let last := max (exponent - (f.precision - 1)) f.lowest
  let significand := if last < 0 then divNearest (num * Nat.pow 2 (-last).toNat) den
    else divNearest num (den * Nat.pow 2 last.toNat)
  min ((last - f.lowest).toNat * f.unit + significand) f.infinity

/-- The integer `m` and exponent `q` with value `m * 2 ^ q` of a finite magnitude. -/
def split (magnitude : Nat) : Nat × Int :=
  let exponent := magnitude / f.unit
  let fraction := magnitude % f.unit
  if exponent = 0 then (fraction, f.lowest)
  else (fraction + f.unit, f.lowest + (exponent - 1 : Nat))

/-- The magnitude nearest to `m * 2 ^ e`. -/
def ofScaled (m : Nat) (e : Int) : Nat :=
  if m = 0 then 0
  else if e + m.log2 > 2000 then f.infinity
  else if e + m.log2 < -2000 then 0
  else if e < 0 then f.round m (Nat.pow 2 (-e).toNat) else f.round (m * Nat.pow 2 e.toNat) 1

/-- The magnitude nearest to `m * 10 ^ e`.  Exponents far outside the format's range are decided
without computing the power. -/
def ofScientific (m : Nat) (e : Int) : Nat :=
  let size : Int := e + (Nat.toDigits 10 m).length
  if m = 0 then 0
  else if size > 400 then f.infinity
  else if size < -400 then 0
  else if e < 0 then f.round m (Nat.pow 10 (-e).toNat) else f.round (m * Nat.pow 10 e.toNat) 1

end BinaryFormat

end WatWorkbench
