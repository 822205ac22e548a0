import WatWorkbench.Text.Utf8

/-!
# Naturals as octets

Naturals in a fixed number of octets, the lowest first.

* `LittleEndian.toNat` — the natural that octets spell.
* `LittleEndian.ofNat` — the octets of a natural.
-/

namespace WatWorkbench.LittleEndian

/-- The natural number that octets spell, the lowest first. -/
def toNat (bs : Bytes) : Nat := bs.foldr (fun b n => b.toNat + 256 * n) 0

/-- The lowest octets of a natural number, the lowest first. -/
def ofNat : Nat → Nat → Bytes
  | 0, _ => []
  | count + 1, n => n.toUInt8 :: ofNat count (n / 256)

@[simp] theorem length_ofNat (count n : Nat) : (ofNat count n).length = count := by
  induction count generalizing n with
  | zero => rfl
  | succ k ih => simp [ofNat, ih]

theorem toNat_ofNat (count n : Nat) : toNat (ofNat count n) = n % Nat.pow 256 count := by
  induction count generalizing n with
  | zero => simp [ofNat, toNat, Nat.mod_one]
  | succ k ih =>
    have h : toNat (n.toUInt8 :: ofNat k (n / 256)) = n % 256 + 256 * toNat (ofNat k (n / 256)) := by
      simp [toNat]
    rw [ofNat, h, ih]
    simp only [Nat.pow_eq]
    rw [Nat.pow_succ, Nat.mul_comm (256 ^ k), Nat.mod_mul]

end WatWorkbench.LittleEndian
