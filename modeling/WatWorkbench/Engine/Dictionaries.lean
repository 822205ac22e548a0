import WatWorkbench.Engine.Imports

/-!
# Tables that can be shared

Import tables are dictionaries of dictionaries, and several tables may hold the same dictionary.
Merging two of them reads both and builds a third one; here it is told which dictionary is read and
which one is written at each step.

* `Dictionaries` — all dictionaries, each known by its number.
* `Dictionaries.view` — what a table holds, whatever it shares.
* `Dictionaries.merge` — a new table that overlays one with another.
-/

namespace WatWorkbench

/-- Dictionaries, each known by its number. -/
structure Dictionaries (α : Type) where
  /-- Those of a namespace, which hold things by name. -/
  spaces : List (Entries α) := []
  /-- Those of a table, which hold the numbers of namespaces. -/
  tables : List (Entries Nat) := []

namespace Dictionaries

variable {α : Type}

/-- What the dictionary of a namespace holds. -/
def space (s : Dictionaries α) (r : Nat) : Entries α := s.spaces[r]?.getD []

/-- What the dictionary of a table holds. -/
def table (s : Dictionaries α) (t : Nat) : Entries Nat := s.tables[t]?.getD []

/-- What a table holds, with its namespaces looked up. -/
def view (s : Dictionaries α) (t : Nat) : ImportTable α :=
  (s.table t).map fun (m, r) => (m, s.space r)

/-- What a table holds that may not be given. -/
def view? (s : Dictionaries α) (t? : Option Nat) : ImportTable α := t?.elim [] s.view

/-- A new dictionary of a namespace. -/
def newSpace (es : Entries α) : StateM (Dictionaries α) Nat := fun s =>
  (s.spaces.length, { s with spaces := s.spaces ++ [es] })

/-- A new dictionary of a table, without any namespaces. -/
def newTable : StateM (Dictionaries α) Nat := fun s =>
  (s.tables.length, { s with tables := s.tables ++ [[]] })

/-- Puts more things into the dictionary of a namespace. -/
def update (r : Nat) (more : Entries α) : StateM (Dictionaries α) Unit := fun s =>
  ((), { s with spaces := s.spaces.modify r (Entries.overlay · more) })

/-- Gives a namespace of a table a dictionary. -/
def assign (t : Nat) (m : Text) (r : Nat) : StateM (Dictionaries α) Unit := fun s =>
  ((), { s with tables := s.tables.modify t (Entries.put m r) })

/-- The dictionary of a namespace, which is the given one if the table had none. -/
def setDefault (t : Nat) (m : Text) (r : Nat) : StateM (Dictionaries α) Nat := do
  match Entries.find? ((← get).table t) m with
  | some own => return own
  | none =>
    assign t m r
    return r

/-- Gives a table a copy of a namespace. -/
def copyInto (merged : Nat) (m : Text) (r : Nat) : StateM (Dictionaries α) Unit := do
  assign merged m (← newSpace ((← get).space r))

/-- Puts what a namespace holds into the table's own one. -/
def overlayInto (merged : Nat) (m : Text) (r : Nat) : StateM (Dictionaries α) Unit := do
  let own ← setDefault merged m (← newSpace [])
  update own ((← get).space r)

/-- Gives a table copies of the namespaces of another one. -/
def copyAll (merged t : Nat) : StateM (Dictionaries α) Unit := do
  ((← get).table t).forM fun (m, r) => copyInto merged m r

/-- Puts what the namespaces of another table hold into those of the table. -/
def overlayAll (merged : Nat) (t? : Option Nat) : StateM (Dictionaries α) Unit := do
  (t?.elim [] (← get).table).forM fun (m, r) => overlayInto merged m r

/-- A new table with the namespaces of one, overlaid with those of another that may not be given. -/
def merge (defaults : Nat) (overrides : Option Nat) : StateM (Dictionaries α) Nat := do
  let merged ← newTable
  copyAll merged defaults
  overlayAll merged overrides
  return merged

end Dictionaries

end WatWorkbench
