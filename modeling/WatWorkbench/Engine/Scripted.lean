import WatWorkbench.Engine.Basic

/-!
# Scripted engines

An engine whose answers are laid down in advance, for each source or for all of them.  It lets
everything around engines be examined on its own: any answer and any failure can be asked for, and
any calls of host functions.

* `Plan` — the answers for one source.
* `Plan.engine` — the engine.
-/

namespace WatWorkbench

/-- What an engine answers once a source has been translated. -/
structure Plan where
  /-- The failure to translate the source. -/
  compileFailure : Option Failure := none
  /-- The failure to load the binary. -/
  loadFailure : Option Failure := none
  /-- The failure to link the module. -/
  instantiateFailure : Option Failure := none
  /-- The failure to tell whether there is an entry point. -/
  hasEntryFailure : Option Failure := none
  /-- The failure to run the module, after its calls. -/
  invokeFailure : Option Failure := none
  /-- The binary: by default, that of a module without anything. -/
  binary : Bytes := [0, 0x61, 0x73, 0x6D, 1, 0, 0, 0]
  /-- Whether there is an entry point. -/
  hasEntry : Bool := true
  /-- What the caller's host functions see. -/
  caller : Caller := {}
  /-- The host functions that are called when the module runs, with their arguments. -/
  calls : List (Text × Text × List Value) := []
  /-- The result, if it is not that of the last call. -/
  result : Option Value := none

namespace Plan

/-- Fails if there is a failure. -/
def check : Option Failure → Except Failure Unit
  | some e => .error e
  | none => .ok ()

/-- The plan under a source; `none` is the source of those that are not listed. -/
def find (plans : List (Option Text × Plan)) (source : Option Text) : Plan :=
  ((plans.lookup source).orElse fun _ => plans.lookup none).getD {}

/-- The source that was translated last. -/
def lastSource {M I : Type} (h : History M I) : Option Text :=
  h.reverse.findSome? fun
    | .compile s => some s
    | _ => none

/-- Makes calls one after another; the result is that of the last one. -/
def play (caller : Caller) (last : Value) :
    List (Text × Text × List Value) → Script (Except Failure Value)
  | [] => .done (.ok last)
  | (module, name, args) :: rest => .call ⟨module, name, caller, args⟩ fun
    | .ok v => play caller v rest
    | .error e => .done (.error e)

/-- The engine that answers as plans say.  A module is the plan of the source translated last. -/
def engine (plans : List (Option Text × Plan)) : Engine Plan Plan where
  compile _ source := do
    let p := find plans (some source)
    check p.compileFailure
    return p.binary
  load h _ := do
    let p := find plans (lastSource h)
    check p.loadFailure
    return p
  instantiate _ p _ := .done do
    check p.instantiateFailure
    return p
  hasEntry _ p _ := do
    check p.hasEntryFailure
    return p.hasEntry
  invoke _ p _ := do
    let outcome ← play p.caller .null p.calls
    return do
      let last ← outcome
      check p.invokeFailure
      return p.result.getD last

end Plan

end WatWorkbench
