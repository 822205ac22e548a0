import Std.Data.HashMap
import WatWorkbench.Wasm.Val

/-!
# Tables

A table is a size and the references that have been written; every other place holds what the table
began with, or what it was told to hold there when it grew.  Only written references are kept, so that
a large table costs nothing until it is used.

* `Table.get?` — the reference at a place.
* `Table.read?`, `Table.write?` — ranges of references, where they fit.
* `Table.grow?` — a larger table.
-/

namespace WatWorkbench.Wasm

/-- A table of references. -/
structure Table where
  /-- The type of its references. -/
  type : ValType := .funcref
  /-- The width of the integers that places are counted with. -/
  width : Width := .w32
  /-- How many references there are. -/
  size : Nat
  /-- How many there may be. -/
  most : Nat := size
  /-- The references that hold from some place on, the last place first. -/
  bases : List (Nat × Val) := []
  /-- The references that have been written. -/
  written : Std.HashMap Nat Val := {}

instance : Inhabited Table := ⟨{size := 0}⟩

namespace Table

/-- The table that a module declares, with the reference that its places hold first. -/
def ofType (t : TableType) (v : Val) : Table where
  type := t.elem
  width := t.limits.width
  size := t.limits.min
  most := t.limits.max.getD (maxTableSize t.limits.width)
  bases := [(0, v)]

/-- What a place holds if nothing has been written there. -/
def base (t : Table) (place : Nat) : Val :=
  ((t.bases.find? (·.1 ≤ place)).map (·.2)).getD (.null t.type)

/-- Whether a range lies within the table. -/
def holds (t : Table) (start count : Nat) : Bool := start + count ≤ t.size

/-- The reference at a place. -/
def get? (t : Table) (place : Nat) : Option Val :=
  if place < t.size then some (t.written.getD place (t.base place)) else none

/-- The references of a range. -/
def read? (t : Table) (start count : Nat) : Option (List Val) :=
  if t.holds start count then
    some ((List.range' start count).map fun i => t.written.getD i (t.base i))
  else none

/-- The table after references have been written from a place on. -/
def write? (t : Table) (start : Nat) (vs : List Val) : Option Table :=
  if t.holds start vs.length then
    some { t with written := (vs.foldl (fun (w, i) v => (w.insert i v, i + 1)) (t.written, start)).1 }
  else none

/-- The table after a reference has been written to every place of a range. -/
def fill? (t : Table) (start count : Nat) (v : Val) : Option Table :=
  if t.holds start count then t.write? start (List.replicate count v) else none

/-- The table with more places, which hold a reference; there may be only so many. -/
def grow? (t : Table) (count : Nat) (v : Val) : Option Table :=
  if t.size + count ≤ t.most then
    some { t with size := t.size + count, bases := (t.size, v) :: t.bases }
  else none

end Table

end WatWorkbench.Wasm
