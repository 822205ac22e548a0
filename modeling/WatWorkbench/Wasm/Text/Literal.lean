import WatWorkbench.Number.Numeral
import WatWorkbench.Wasm.Instr
import WatWorkbench.Wasm.Text.Tree

/-!
# Numbers in a module's text

Words that spell numbers: integers in base ten and sixteen, with single underscores between digits,
and floating-point numbers with a fraction, an exponent or a name.

* `Literal.natural?`, `Literal.unsigned?`, `Literal.integer?` — integers.
* `Literal.floating?` — the bits of the nearest number of a format.
* `Literal.const?` — the number that a word spells for a given type.
-/

namespace WatWorkbench.Wasm.Literal

open Numeral (ofDigits sign cut)

/-- The digits of a word part: at least one, with single underscores between them. -/
def digits (isDigit : Char → Bool) (cs : List Char) : Option (List Char) :=
  let doubled := (cs.zip cs.tail).any fun (a, b) => a = '_' && b = '_'
  let ds := cs.filter (· ≠ '_')
  if ds.isEmpty || cs.head? = some '_' || cs.getLast? = some '_' || doubled || !ds.all isDigit
  then none else some ds

/-- Whether a character is a hexadecimal digit. -/
def isHexDigit (c : Char) : Bool := (Token.hexValue? c).isSome

/-- The natural that a word spells. -/
def natural? : List Char → Option Nat
  | '0' :: 'x' :: cs => (digits isHexDigit cs).map (ofDigits 16)
  | cs => (digits Char.isDigit cs).map (ofDigits 10)

/-- The natural that a word spells, perhaps with a plus sign. -/
def unsigned? (cs : List Char) : Option Nat :=
  match cs with
  | '+' :: cs => natural? cs
  | _ => natural? cs

/-- The integer that a word spells. -/
def integer? (cs : List Char) : Option Int :=
  let (negative, cs) := sign cs
  (natural? cs).map fun n => if negative then -(n : Int) else n

/-- The bits of the integer that a word spells, which has to be in the range of signed or of
unsigned integers of the given width. -/
def bits? (width : Nat) (cs : List Char) : Option Nat := do
  let i ← integer? cs
  if -Nat.pow 2 (width - 1) ≤ i && i < Nat.pow 2 width then some (i.emod (Nat.pow 2 width)).toNat
  else none

/-! ## Floating-point numbers -/

/-- The exponent that a word part spells. -/
def exponent? : Option (List Char) → Option Int
  | none => some 0
  | some cs =>
    let (negative, cs) := sign cs
    (digits Char.isDigit cs).map fun ds =>
      let n := ofDigits 10 ds
      if negative then -(n : Int) else n

/-- The digits before and after a point, of which the latter may be missing. -/
def significand? (isDigit : Char → Bool) (cs : List Char) : Option (List Char × List Char) := do
  let (whole, fraction) := cut (· = '.') cs
  let whole ← digits isDigit whole
  match fraction with
  | none | some [] => return (whole, [])
  | some fs => return (whole, ← digits isDigit fs)

/-- Whether an integer fits into 32 bits. -/
def isSmall (i : Int) : Bool := -0x80000000 ≤ i && i < 0x80000000

/-- The number with the given hexadecimal digits, of which the last `places` are behind the point,
times a power of two.  Unless it is zero, neither the exponent nor the power of its leading bit may be
excessive. -/
def hexadecimal? (f : BinaryFormat) (digits : List Char) (places : Nat) (exponent : Int) :
    Option Nat :=
  let n := ofDigits 16 digits
  let leading : Int := exponent - 4 * places + n.log2
  if n = 0 then some (f.ofScaled 0 0)
  else if isSmall exponent && isSmall leading then some (f.ofScaled n (exponent - 4 * places))
  else none

/-- The magnitude that a word without sign spells.  A finite word may not round to infinity.  Of the
digits of a word that is no number, only those count that the format has room for; they may not all
be zero. -/
def magnitude? (f : BinaryFormat) (cs : List Char) : Option Nat :=
  let finite (n : Nat) : Option Nat := if n < f.infinity then some n else none
  match cs with
  | 'i' :: 'n' :: 'f' :: [] => some f.infinity
  | 'n' :: 'a' :: 'n' :: [] => some f.quietNaN
  | 'n' :: 'a' :: 'n' :: ':' :: '0' :: 'x' :: cs => do
    let n := ofDigits 16 (← digits isHexDigit cs)
    let payload := n % f.unit
    if 0 < payload && n < Nat.pow 2 (f.precision + f.exponentBits) then some (f.infinity + payload)
    else none
  | '0' :: 'x' :: cs => do
    let (number, exponent) := cut (fun c => c = 'p' || c = 'P') cs
    let (whole, fraction) ← significand? isHexDigit number
    let e ← exponent? exponent
    finite (← hexadecimal? f (whole ++ fraction) fraction.length e)
  | cs => do
    let (number, exponent) := cut (fun c => c = 'e' || c = 'E') cs
    let (whole, fraction) ← significand? Char.isDigit number
    let e ← exponent? exponent
    finite (f.ofScientific (ofDigits 10 (whole ++ fraction)) (e - fraction.length))

/-- The bits of the floating-point number that a word spells. -/
def floating? (f : BinaryFormat) (cs : List Char) : Option Nat :=
  let (negative, cs) := sign cs
  (magnitude? f cs).map fun n =>
    if negative then n + Nat.pow 2 (f.precision + f.exponentBits - 1) else n

/-- The number that a word spells for a type. -/
def const? (type : ValType) (cs : List Char) : Option Number :=
  match type with
  | .i32 => (bits? 32 cs).map fun n => .i32 n.toUInt32
  | .i64 => (bits? 64 cs).map fun n => .i64 n.toUInt64
  | .f32 => (floating? .single cs).map fun n => .f32 n.toUInt32
  | .f64 => (floating? .double cs).map fun n => .f64 n.toUInt64
  | _ => none

end WatWorkbench.Wasm.Literal
