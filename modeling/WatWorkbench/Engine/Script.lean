import WatWorkbench.Failure
import WatWorkbench.Wasm.Memory

/-!
# Computations that call the host

An engine computes on its own except where a module calls a function of the host.  A `Script` is
such a computation as a tree: it either has its result or waits for the outcome of one call.  What
a host function does, and what it changes, is left to whoever runs the script.

* `Caller` — what a host function sees of the instance that calls it.
* `HostCall` — a call of a host function.
* `Script`, `Script.bind` — the computations.
* `Script.run` — running one, with the host functions in any monad.
-/

namespace WatWorkbench

/-- Something that an instance exports, as far as a host function can use it. -/
inductive Extern where
  /-- A memory, which can be read. -/
  | memory (m : Wasm.Memory)
  /-- A function. -/
  | func
  /-- A global variable. -/
  | global
  /-- A table. -/
  | table

/-- The name of a thing's type. -/
def Extern.typeName : Extern → Text
  | memory _ => "Memory"
  | func => "Func"
  | global => "Global"
  | table => "Table"

/-- The exports of the instance that calls, by name. -/
structure Caller where
  /-- The exports. -/
  exports : List (Text × Extern) := []

/-- The export of the given name. -/
def Caller.get? (c : Caller) (name : Text) : Option Extern :=
  (c.exports.find? (·.1 = name)).map (·.2)

/-- A call of a host function. -/
structure HostCall where
  /-- The namespace of the function. -/
  module : Text
  /-- The name of the function. -/
  name : Text
  /-- The instance that calls. -/
  caller : Caller
  /-- The arguments. -/
  args : List Value

/-- A computation that may call the host. -/
inductive Script (α : Type) where
  /-- It has its result. -/
  | done (result : α)
  /-- It waits for the outcome of a call. -/
  | call (request : HostCall) (resume : Except Failure Value → Script α)

namespace Script

variable {α β : Type}

/-- One computation after another. -/
def bind : Script α → (α → Script β) → Script β
  | done a, k => k a
  | call q r, k => call q fun x => (r x).bind k

instance : Monad Script where
  pure := done
  bind := bind

/-- Runs a computation, with the calls answered in a monad. -/
def run {m : Type → Type} [Monad m] (answer : HostCall → m (Except Failure Value)) :
    Script α → m α
  | done a => pure a
  | call q r => do run answer (r (← answer q))

end Script

end WatWorkbench
