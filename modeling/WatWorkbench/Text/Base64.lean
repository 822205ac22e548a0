import WatWorkbench.Text.Utf8

/-!
# Octets in base 64

Three octets are written as four digits of six bits each.  Where fewer than three are left, padding
completes the four digits.  Reading leaves out everything that is neither a digit nor padding.

* `Base64.encode` — octets as digits.
* `Base64.decode` — octets from digits, or why there are none.
-/

namespace WatWorkbench.Base64

/-- The digits. -/
def digits : List Char :=
  "ABCDEFGHIJKLMNOPQRSTUVWXYZabcdefghijklmnopqrstuvwxyz0123456789+/".toList

/-- What completes four digits. -/
def padding : Char := '='

/-! ## Writing -/

/-- The digit of a value. -/
def digit (n : Nat) : Char := digits.getD n padding

/-- Octets as digits. -/
def encodeChars : Bytes → List Char
  | a :: b :: c :: rest =>
    digit (a.toNat / 4) :: digit (a.toNat % 4 * 16 + b.toNat / 16)
      :: digit (b.toNat % 16 * 4 + c.toNat / 64) :: digit (c.toNat % 64) :: encodeChars rest
  | [a, b] =>
    [digit (a.toNat / 4), digit (a.toNat % 4 * 16 + b.toNat / 16), digit (b.toNat % 16 * 4),
      padding]
  | [a] => [digit (a.toNat / 4), digit (a.toNat % 4 * 16), padding, padding]
  | [] => []

/-- Octets as a text of digits. -/
def encode (bs : Bytes) : Text := Text.ofChars (encodeChars bs)

/-! ## Reading -/

/-- Why digits stand for no octets. -/
inductive Fault where
  /-- Padding is missing. -/
  | unpadded
  /-- After groups of four, one digit is left; there are this many in all. -/
  | single (count : Nat)
  deriving DecidableEq, Repr

/-- The text of a fault. -/
def Fault.message : Fault → Text
  | unpadded => "Incorrect padding"
  | single count =>
    "Invalid base64-encoded string: number of data characters (" ++ Text.decimal count
      ++ ") cannot be 1 more than a multiple of 4"

/-- The value of a digit. -/
def value? (c : Nat) : Option Nat := digits.findIdx? (·.toNat = c)

/-- The values of digits up to the padding that completes a group, and whether there is such
padding.  The other arguments are how many digits the current group has, and how much padding
there is after them. -/
def values : List Nat → Nat → Nat → List Nat × Bool
  | [], _, _ => ([], false)
  | c :: cs, count, pads =>
    if c = padding.toNat then
      if count < 2 then values cs count pads
      else if 4 ≤ count + (pads + 1) then ([], true)
      else values cs count (pads + 1)
    else match value? c with
      | none => values cs count pads
      | some v =>
        let (vs, isPadded) := values cs ((count + 1) % 4) 0
        (v :: vs, isPadded)

/-- The octets that values of digits make up; bits that do not make up an octet are left out. -/
def octets : List Nat → Bytes
  | a :: b :: c :: d :: rest =>
    (a * 4 + b / 16).toUInt8 :: (b % 16 * 16 + c / 4).toUInt8 :: (c % 4 * 64 + d).toUInt8
      :: octets rest
  | [a, b, c] => [(a * 4 + b / 16).toUInt8, (b % 16 * 16 + c / 4).toUInt8]
  | [a, b] => [(a * 4 + b / 16).toUInt8]
  | _ => []

/-- The octets that a text of digits stands for. -/
def decode (t : Text) : Except Fault Bytes :=
  let (vs, isPadded) := values t.points 0 0
  if isPadded || vs.length % 4 = 0 then .ok (octets vs)
  else if vs.length % 4 = 1 then .error (.single vs.length)
  else .error .unpadded

end WatWorkbench.Base64
