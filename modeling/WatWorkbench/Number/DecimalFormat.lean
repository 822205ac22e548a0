import WatWorkbench.Number.Double

/-!
# Doubles to a given precision

Three ways to write a double with a precision that is asked for: with so many places, with so many
places and an exponent, or with so many significant digits in whichever of the two is shorter.
What is rounded is the exact value, a half to the even neighbour.  All three write the magnitude;
the sign is for whoever pads.

* `Double.fixed`, `Double.scientific`, `Double.general` — the three ways.
-/

namespace WatWorkbench.Double

/-- Digits with a point after the first `whole` of them.  Without a fraction there is no point,
unless it is asked for. -/
def pointed (keepPoint : Bool) (whole : Nat) (digits : List Char) : Text :=
  let fraction := digits.drop whole
  Text.ofChars <| digits.take whole
    ++ if fraction.isEmpty && !keepPoint then [] else '.' :: fraction

/-- The magnitude with a number of places. -/
def fixed (x : Double) (places : Nat) (keepPoint : Bool) : Text :=
  let digits := Nat.toDigits 10 (x.fixedDigits places)
  let padded := List.replicate (places + 1 - digits.length) '0' ++ digits
  pointed keepPoint (padded.length - places) padded

/-- The significant digits of the magnitude and the position of the point before them; zero has
the position of one. -/
def digitsAndPoint (x : Double) (count : Nat) : List Char × Int :=
  if x.magnitude = 0 then (List.replicate count '0', 1)
  else
    let (n, point) := x.roundedDigits count
    (Nat.toDigits 10 n, point)

/-- Digits without the zeros at the end, as far as they are a fraction. -/
def dropZeros (whole : Nat) (digits : List Char) : List Char :=
  digits.take whole ++ ((digits.drop whole).reverse.dropWhile (· == '0')).reverse

/-- The magnitude with an exponent and a number of places. -/
def scientific (x : Double) (places : Nat) (keepPoint : Bool) : Text :=
  let (digits, point) := x.digitsAndPoint (places + 1)
  pointed keepPoint 1 digits ++ written.exponent point

/-- The magnitude with a number of significant digits, with an exponent where that is below −4 or
not below that number.  Zeros at the end of the fraction are left out, unless the point is asked
for. -/
def general (x : Double) (significant : Nat) (keepPoint : Bool) : Text :=
  let count := max significant 1
  let (digits, point) := x.digitsAndPoint count
  let shown (whole : Nat) (ds : List Char) : Text :=
    pointed keepPoint whole (if keepPoint then ds else dropZeros whole ds)
  if point < -3 || (count : Int) < point then shown 1 digits ++ written.exponent point
  else if point ≤ 0 then shown 1 (List.replicate (1 - point).toNat '0' ++ digits)
  else shown point.toNat digits

end WatWorkbench.Double
