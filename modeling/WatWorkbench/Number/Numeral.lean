import WatWorkbench.Number.Double
import WatWorkbench.Text.Classes

/-!
# Numerals

Texts that spell numbers.  Digits of every script count, and white space around a numeral does not.

* `Numeral.integer?` — integers in a base, with an optional sign and prefix.
* `Numeral.grouped?` — integers in base ten, with underscores between digits.
* `Numeral.double?` — numbers of double precision: decimals with a fraction and an exponent, the
  infinities and the one that is no number.
-/

namespace WatWorkbench.Numeral

/-! ## Digits -/

/-- The value of a digit or letter in bases up to 36. -/
def digitValue? (c : Char) : Option Nat :=
  if '0' ≤ c && c ≤ '9' then some (c.toNat - '0'.toNat)
  else if 'a' ≤ c && c ≤ 'z' then some (c.toNat - 'a'.toNat + 10)
  else if 'A' ≤ c && c ≤ 'Z' then some (c.toNat - 'A'.toNat + 10)
  else none

/-- Whether a character is a digit of a base. -/
def isDigit (base : Nat) (c : Char) : Bool :=
  match digitValue? c with
  | some d => d < base
  | none => false

/-- The natural that digits spell in a base. -/
def ofDigits (base : Nat) (ds : List Char) : Nat :=
  ds.foldl (fun n d => base * n + (digitValue? d).getD 0) 0

/-- The sign that a numeral begins with, whether it is negative, and the rest. -/
def sign : List Char → Bool × List Char
  | '-' :: cs => (true, cs)
  | '+' :: cs => (false, cs)
  | cs => (false, cs)

/-- A numeral before and after the first of some characters. -/
def cut (p : Char → Bool) (cs : List Char) : List Char × Option (List Char) :=
  match cs.dropWhile (!p ·) with
  | [] => (cs, none)
  | _ :: rest => (cs.takeWhile (!p ·), some rest)

/-! ## Spelling -/

/-- The ASCII character that a code point of a numeral stands for, if it stands for one. -/
def ascii (c : Nat) : Char :=
  if c < 128 then Char.ofNat c
  else if Text.isBlank c then ' '
  else match Text.digitValue? c with
    | some d => Nat.digitChar d
    | none => '?'

/-- Whether a character may stand around a numeral. -/
def isSpace (c : Char) : Bool := c = ' ' || (9 ≤ c.toNat && c.toNat ≤ 13)

/-- The characters of a numeral, without white space around them. -/
def characters (t : Text) : List Char :=
  (((t.points.map ascii).dropWhile isSpace).reverse.dropWhile isSpace).reverse

/-- The letter that marks a base in front of digits. -/
def baseMark (base : Nat) : Option Char :=
  if base = 2 then some 'b' else if base = 8 then some 'o' else if base = 16 then some 'x' else none

/-- Digits without the mark of their base. -/
def withoutMark (base : Nat) : List Char → List Char
  | '0' :: c :: cs => if baseMark base = some c.toLower then cs else '0' :: c :: cs
  | cs => cs

/-- The integer that a text spells in a base. -/
def integer? (base : Nat) (t : Text) : Option Int :=
  let (negative, cs) := sign (characters t)
  let digits := withoutMark base cs
  if digits.isEmpty || !digits.all (isDigit base) then none
  else some (if negative then -(ofDigits base digits : Int) else ofDigits base digits)

/-- The greatest number of digits of an integer in base ten. -/
def digitLimit : Nat := 4300

/-- Digits without the underscores between them; `none` if one stands elsewhere. -/
def ungrouped? (cs : List Char) : Option (List Char) :=
  let isDoubled := (cs.zip cs.tail).any fun (a, b) => a = '_' && b = '_'
  if cs.head? = some '_' || cs.getLast? = some '_' || isDoubled then none
  else some (cs.filter (· ≠ '_'))

/-- The integer that a text spells in base ten.  Single underscores may stand between digits, and
there may not be too many digits. -/
def grouped? (t : Text) : Option Int := do
  let (negative, cs) := sign (characters t)
  let digits ← ungrouped? cs
  if digits.isEmpty || digitLimit < digits.length || !digits.all (isDigit 10) then none
  else some (if negative then -(ofDigits 10 digits : Int) else ofDigits 10 digits)

/-- The power of ten that a numeral gives, which is zero when it gives none. -/
def exponent? : Option (List Char) → Option Int
  | none => some 0
  | some cs =>
    let (negative, digits) := sign cs
    if digits.isEmpty || !digits.all (isDigit 10) then none
    else some (if negative then -(ofDigits 10 digits : Int) else ofDigits 10 digits)

/-- The number of double precision nearest to a decimal. -/
def decimal? (negative : Bool) (cs : List Char) : Option Double := do
  let (mantissa, power) := cut (fun c => c = 'e') cs
  let (whole, fraction) := cut (fun c => c = '.') mantissa
  let digits := whole ++ fraction.getD []
  if digits.isEmpty || !digits.all (isDigit 10) then none
  else
    let e ← exponent? power
    some (.ofScientific negative (ofDigits 10 digits) (e - (fraction.getD []).length))

/-- The number of double precision that a text spells. -/
def double? (t : Text) : Option Double :=
  let (negative, cs) := sign ((characters t).map Char.toLower)
  if cs = "inf".toList || cs = "infinity".toList then
    some (.ofMagnitude negative BinaryFormat.double.infinity)
  else if cs = "nan".toList then some (.ofMagnitude negative BinaryFormat.double.quietNaN)
  else decimal? negative cs

end WatWorkbench.Numeral
