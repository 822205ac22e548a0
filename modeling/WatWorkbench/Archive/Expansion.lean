import WatWorkbench.Text.Utf8

/-!
# Expanding compressed octets

What the readers of compressed octets have in common.  Octets that end too early give what could be
read until then, so a reading has several ends, and what has been read stays whatever the end.

* `Expansion.Reading` — what is being read and what has been read.
* `Expansion.Reader` — a reading, which may stop.
* `Expansion.Ending` — how a reading ended.
* `Expansion.run` — the octets read, and how the reading ended.
-/

namespace WatWorkbench.Expansion

/-- Why reading stops before its end. -/
inductive Stop where
  /-- There are no more octets. -/
  | exhausted
  /-- The octets are not in the format. -/
  | invalid
  deriving DecidableEq, Repr

/-- What is being read and what has been read. -/
structure Reading where
  /-- The octets that have not been looked at. -/
  rest : Bytes
  /-- The bits left of the last octet that has. -/
  held : Nat := 0
  /-- How many they are. -/
  count : Nat := 0
  /-- The octets read. -/
  out : Array UInt8 := #[]

/-- Reading, which may stop; what has been read until then stays. -/
abbrev Reader := ExceptT Stop (StateM Reading)

/-- Adds octets to those read. -/
def emit (bs : Array UInt8) : Reader Unit := modify fun r => { r with out := r.out ++ bs }

/-- A bound for the number of further steps, each of which takes a bit at least. -/
def stepLimit : Reader Nat := return 8 * (← get).rest.length + 8

/-- How a reading ended. -/
inductive Ending where
  /-- With the end of what is written in the format. -/
  | complete
  /-- With the last octet, before that. -/
  | exhausted
  /-- With octets that are not in the format. -/
  | invalid
  deriving DecidableEq, Repr

/-- How a reading ended that may have stopped. -/
def Ending.ofStop : Except Stop Unit → Ending
  | .ok () => complete
  | .error .exhausted => exhausted
  | .error .invalid => invalid

/-- The octets read, and how the reading ended. -/
def run (r : Reader Unit) (bs : Bytes) : Bytes × Ending :=
  let (stop, reading) := r.run.run { rest := bs }
  (reading.out.toList, .ofStop stop)

end WatWorkbench.Expansion
