import WatWorkbench.Text.Utf8

/-!
# Cyclic redundancy check

The check sum of 32 bits that archives keep of their entries: the remainder of a polynomial
division over single bits, lowest bit first.

* `Crc32.ofBytes` — the check sum of octets.
-/

namespace WatWorkbench.Crc32

/-- The divisor, its lowest coefficient in the highest bit. -/
def divisor : UInt32 := 0xEDB88320

/-- The remainder after one more bit. -/
def shift (r : UInt32) : UInt32 :=
  if r &&& 1 = 1 then (r >>> 1) ^^^ divisor else r >>> 1

/-- The remainder after the eight bits of an octet. -/
def octet (r : UInt32) : UInt32 := shift (shift (shift (shift (shift (shift (shift (shift r)))))))

/-- The remainders of all octets. -/
def table : Array UInt32 := Array.ofFn fun i : Fin 256 => octet i.val.toUInt32

/-- The remainder after one more octet. -/
def step (r : UInt32) (b : UInt8) : UInt32 :=
  (r >>> 8) ^^^ table.getD ((r ^^^ b.toUInt32) &&& 0xFF).toNat 0

/-- The check sum of octets. -/
def ofBytes (bs : Bytes) : UInt32 := (bs.foldl step 0xFFFFFFFF) ^^^ 0xFFFFFFFF

end WatWorkbench.Crc32
