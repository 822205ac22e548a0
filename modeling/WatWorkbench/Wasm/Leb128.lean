import WatWorkbench.Text.Utf8

/-!
# Integers of variable length

Seven bits an octet, the low ones first; the top bit of an octet says that more follow.  Negative
integers are in two's complement, cut where only copies of the sign are left.

* `Leb128.unsigned`, `Leb128.signed` — the shortest form of an integer.
* `Leb128.readUnsigned`, `Leb128.readSigned` — read an integer of a given width, in any form that is
  not longer than the width allows.
-/

namespace WatWorkbench.Wasm.Leb128

/-- The shortest form of a natural. -/
def unsigned (n : Nat) : Bytes :=
  if n < 128 then [n.toUInt8] else (n % 128 + 128).toUInt8 :: unsigned (n / 128)
termination_by n
decreasing_by omega

/-- The shortest form of an integer. -/
def signed (i : Int) : Bytes :=
  if -64 ≤ i && i < 64 then [(i.emod 128).toNat.toUInt8]
  else ((i.emod 128).toNat + 128).toUInt8 :: signed (i.fdiv 128)
termination_by i.natAbs
decreasing_by
  have : i.fdiv 128 = i / 128 := Int.fdiv_eq_ediv_of_nonneg i (by decide)
  simp only [this]
  simp_all
  omega

/-- Reads a natural below `2 ^ width`. -/
def readUnsigned (width : Nat) : Bytes → Option (Nat × Bytes)
  | [] => none
  | b :: rest =>
    let n := b.toNat
    if n < 128 then
      if width < 7 && Nat.pow 2 width ≤ n then none else some (n, rest)
    else if width ≤ 7 then none
    else (readUnsigned (width - 7) rest).map fun (high, rest) => (n - 128 + 128 * high, rest)

/-- Reads an integer from `-2 ^ (width - 1)` up to below `2 ^ (width - 1)`.  In the last octet that
the width allows, the bits above it repeat the sign. -/
def readSigned (width : Nat) : Bytes → Option (Int × Bytes)
  | [] => none
  | b :: rest =>
    let n := b.toNat
    if n < 128 then
      let i : Int := if n < 64 then n else (n : Int) - 128
      if width < 7 && (i < -Nat.pow 2 (width - 1) || Nat.pow 2 (width - 1) ≤ i) then none else some (i, rest)
    else if width ≤ 7 then none
    else (readSigned (width - 7) rest).map fun (high, rest) =>
      ((n : Int) - 128 + 128 * high, rest)

end WatWorkbench.Wasm.Leb128
