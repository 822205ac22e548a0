import WatWorkbench.Archive.Expansion

/-!
# Prefix codes

Codes for symbols in bits, of which none begins with another one.  Shorter codes come first, and
codes of one length are numbered in the order of their symbols; so the lengths alone tell the code.

* `PrefixCode` — the codes.
* `PrefixCode.ofLengths` — the code in which the symbols have codes of given lengths.
* `PrefixCode.symbol` — reads a symbol.
-/

namespace WatWorkbench

open Expansion

/-- A prefix code. -/
structure PrefixCode where
  /-- How many codes there are of each length, from one on. -/
  counts : List Nat
  /-- The symbols in the order of their codes. -/
  symbols : Array Nat

namespace PrefixCode

/-- The code in which each symbol has a code of a given length, zero meaning that it has none. -/
def ofLengths (lengths : List Nat) : PrefixCode :=
  let indexed := lengths.zipIdx
  let used := lengths.foldl max 1
  { counts := (List.range used).map fun k => lengths.count (k + 1)
    symbols := ((List.range used).flatMap fun k =>
      (indexed.filter (·.1 = k + 1)).map (·.2)).toArray }

/-- How many codes of the greatest length are left over; negative if there are too many codes. -/
def surplus (c : PrefixCode) : Int :=
  c.counts.foldl (fun (left : Int) (count : Nat) => 2 * left - count) 1

/-- Whether there are never too many codes, up to every length. -/
def fits (c : PrefixCode) : Bool :=
  (c.counts.foldl (fun (s : Int × Bool) (count : Nat) =>
    let left := 2 * s.1 - count
    (left, s.2 && 0 ≤ left)) (1, true)).2

/-- Whether a code is complete.  If `loose`, a single code of one bit will do.  No code at all is
complete. -/
def isUsable (c : PrefixCode) (loose : Bool) : Bool :=
  c.fits && (c.surplus = 0 || (loose && c.counts.length = 1) || c.symbols.isEmpty)

/-- A code that is read up to a given length before a symbol is found missing. -/
def upTo (c : PrefixCode) (length : Nat) : PrefixCode :=
  { c with counts := c.counts ++ List.replicate (length - c.counts.length) 0 }

/-- Reads a symbol.  The arguments are what reads a bit, the counts of the longer codes, the code so
far, the first code of this length and the number of symbols with shorter codes. -/
def symbolFrom (bit : Reader Nat) (c : PrefixCode) : List Nat → Nat → Nat → Nat → Reader Nat
  | [], _, _, _ => throw .invalid
  | count :: counts, code, first, index => do
    let code := code + (← bit)
    if code < first + count then
      match c.symbols[index + (code - first)]? with
      | some s => return s
      | none => throw .invalid
    else c.symbolFrom bit counts (2 * code) (2 * (first + count)) (index + count)

/-- Reads a symbol, bit by bit. -/
def symbol (bit : Reader Nat) (c : PrefixCode) : Reader Nat := c.symbolFrom bit c.counts 0 0 0

end PrefixCode

end WatWorkbench
