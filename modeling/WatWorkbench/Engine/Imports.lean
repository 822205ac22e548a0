import WatWorkbench.Engine.Script

/-!
# Import tables

What a module may ask for, by namespace and name.  Tables are overlaid: the second one's entries
take the place of the first one's, and new ones come at the end.

* `Import` — what a table holds under a name, for host functions that act on a world.
* `ImportTable`, `ImportTable.lookup?`, `ImportTable.merge` — the tables.
-/

namespace WatWorkbench

/-- An operation that may change the world and may fail; what it changed before stays changed. -/
abbrev Act (W α : Type) := ExceptT Failure (StateM W) α

/-- What an engine can tell about an entry of an import table. -/
inductive Binding where
  /-- It can be called. -/
  | callable
  /-- It is a value that cannot be called, possibly presented as a host function. -/
  | inert (wrapped : Bool) (value : Value)
  deriving Inhabited

/-- An entry of an import table. -/
inductive Import (W : Type) where
  /-- A host function. -/
  | function (run : List Value → Act W Value)
  /-- A host function that looks at the instance that calls it. -/
  | withCaller (run : Caller → List Value → Act W Value)
  /-- A value that cannot be called, possibly presented as a host function. -/
  | inert (wrapped : Bool) (value : Value)

/-- What an engine can tell about an entry. -/
def Import.binding {W : Type} : Import W → Binding
  | function _ | withCaller _ => .callable
  | inert wrapped v => .inert wrapped v

/-- Things by name, in order. -/
abbrev Entries (α : Type) := List (Text × α)

namespace Entries

variable {α : Type}

/-- The thing of a name. -/
def find? (es : Entries α) (name : Text) : Option α := (List.find? (·.1 = name) es).map (·.2)

/-- Gives a name to a thing: in place of the one that had it, or at the end. -/
def put (name : Text) (a : α) : Entries α → Entries α
  | [] => [(name, a)]
  | (n, b) :: es => if n = name then (n, a) :: es else (n, b) :: put name a es

/-- Gives names to more things, one after another. -/
def overlay (es more : Entries α) : Entries α := more.foldl (fun es (n, a) => put n a es) es

end Entries

/-- Things by namespace and name. -/
abbrev ImportTable (α : Type) := Entries (Entries α)

namespace ImportTable

variable {α β : Type}

/-- The thing of a name in a namespace. -/
def lookup? (t : ImportTable α) (module name : Text) : Option α :=
  (Entries.find? t module).bind (Entries.find? · name)

/-- A table overlaid with another one, namespace by namespace. -/
def merge (defaults overrides : ImportTable α) : ImportTable α :=
  overrides.foldl (fun t (m, es) =>
    Entries.put m (Entries.overlay ((Entries.find? t m).getD []) es) t) defaults

/-- A table with each entry changed. -/
def map (f : α → β) (t : ImportTable α) : ImportTable β :=
  List.map (fun (m, es) => (m, List.map (fun (n, a) => (n, f a)) es)) t

/-- A table from namespaces some of which may be missing their entries, which is refused. -/
def ofNamespaces : List (Text × Option (Entries α)) → Except Failure (ImportTable α)
  | [] => .ok []
  | (_, none) :: _ => .error (.raised .type "'NoneType' object is not iterable")
  | (m, some es) :: rest => do return (m, es) :: (← ofNamespaces rest)

end ImportTable

end WatWorkbench
