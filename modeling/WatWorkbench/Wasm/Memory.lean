import Std.Data.HashMap
import WatWorkbench.Number.LittleEndian
import WatWorkbench.Wasm.Types

/-!
# Linear memory

A memory is a size and the octets that have been written; all others are zero.  Only written
octets are kept, so that a large memory costs nothing until it is used.

* `Memory.read`, `Memory.write` — ranges of octets.
* `Memory.read?`, `Memory.write?` — ranges of octets, where they fit.
* `Memory.load?`, `Memory.store?` — numbers, lowest octet first, where they fit.
* `Memory.grow?` — a larger memory.
-/

namespace WatWorkbench.Wasm

/-- A linear memory. -/
structure Memory where
  /-- The size in octets. -/
  size : Nat
  /-- The octets that have been written. -/
  written : Std.HashMap Nat UInt8 := {}
  /-- The width of addresses. -/
  width : Width := .w32
  /-- The greatest number of pages. -/
  most : Nat := size / pageSize

instance : Inhabited Memory := ⟨{ size := 0 }⟩

namespace Memory

/-- The memory that a module declares. -/
def ofLimits (l : Limits) : Memory where
  size := l.min * pageSize
  width := l.width
  most := l.max.getD (maxPages l.width)

/-- The number of pages. -/
def pages (m : Memory) : Nat := m.size / pageSize

/-- Whether a range lies within the memory. -/
def holds (m : Memory) (start count : Nat) : Bool := start + count ≤ m.size

/-- The octet at an address. -/
def octet (m : Memory) (address : Nat) : UInt8 := m.written.getD address 0

/-- The octets of a range. -/
def read (m : Memory) (start count : Nat) : Bytes :=
  (List.range' start count).map m.octet

/-- The memory after octets have been written from an address on. -/
def write (m : Memory) (start : Nat) (bs : Bytes) : Memory :=
  { m with written := (bs.foldl (fun (w, i) b => (w.insert i b, i + 1)) (m.written, start)).1 }

/-- The octets of a range. -/
def read? (m : Memory) (start count : Nat) : Option Bytes :=
  if m.holds start count then some (m.read start count) else none

/-- The memory after octets have been written from an address on. -/
def write? (m : Memory) (start : Nat) (bs : Bytes) : Option Memory :=
  if m.holds start bs.length then some (m.write start bs) else none

/-- The memory after an octet has been written to every address of a range. -/
def fill? (m : Memory) (start count : Nat) (b : UInt8) : Option Memory :=
  if m.holds start count then some (m.write start (List.replicate count b)) else none

/-- The memory with more pages; there may be only so many. -/
def grow? (m : Memory) (count : Nat) : Option Memory :=
  if m.pages + count ≤ m.most then some { m with size := (m.pages + count) * pageSize } else none

/-- The natural number at an address. -/
def load? (m : Memory) (address count : Nat) : Option Nat :=
  if m.holds address count then some (LittleEndian.toNat (m.read address count)) else none

/-- The memory after a natural number has been written at an address. -/
def store? (m : Memory) (address count n : Nat) : Option Memory :=
  if m.holds address count then some (m.write address (LittleEndian.ofNat count n)) else none

end Memory

end WatWorkbench.Wasm
