import WatWorkbench.Engine.Imports

/-!
# Engines

An engine translates text, loads binaries, and links and runs modules.  Its answers may depend on
everything it was asked before, so it is given its history; it changes nothing itself, and host
functions are called by scripts.

* `EngineCall` — something that an engine was asked.
* `Engine` — an engine with its kinds of modules and instances.
* `Engine.left`, `Engine.right` — an engine among those of two kinds.
-/

namespace WatWorkbench

/-- Something that an engine was asked. -/
inductive EngineCall (M I : Type) where
  /-- To translate a text. -/
  | compile (source : Text)
  /-- To load a binary. -/
  | load (binary : Bytes)
  /-- To link a module. -/
  | instantiate (module : M) (imports : ImportTable Binding)
  /-- Whether an instance has an entry point. -/
  | hasEntry (inst : I) (name : Text)
  /-- To call an entry point. -/
  | invoke (inst : I) (name : Text)

/-- Everything that an engine was asked, first to last. -/
abbrev History (M I : Type) := List (EngineCall M I)

/-- An engine. -/
structure Engine (M I : Type) where
  /-- The binary form of a text. -/
  compile : History M I → Text → Except Failure Bytes
  /-- The module of a binary. -/
  load : History M I → Bytes → Except Failure M
  /-- A new instance of a module. -/
  instantiate : History M I → M → ImportTable Binding → Script (Except Failure I)
  /-- Whether an instance has a function of the given name that takes nothing. -/
  hasEntry : History M I → I → Text → Except Failure Bool
  /-- The result of calling a function of an instance. -/
  invoke : History M I → I → Text → Script (Except Failure Value)

/-! ## Engines of two kinds -/

namespace EngineCall

variable {M N I J : Type}

/-- What an engine of the first kind was asked, if it was about things of its kind. -/
def left? : EngineCall (M ⊕ N) (I ⊕ J) → Option (EngineCall M I)
  | compile s => some (.compile s)
  | load b => some (.load b)
  | instantiate (.inl m) t => some (.instantiate m t)
  | hasEntry (.inl i) n => some (.hasEntry i n)
  | invoke (.inl i) n => some (.invoke i n)
  | _ => none

/-- What an engine of the second kind was asked, if it was about things of its kind. -/
def right? : EngineCall (M ⊕ N) (I ⊕ J) → Option (EngineCall N J)
  | compile s => some (.compile s)
  | load b => some (.load b)
  | instantiate (.inr m) t => some (.instantiate m t)
  | hasEntry (.inr i) n => some (.hasEntry i n)
  | invoke (.inr i) n => some (.invoke i n)
  | _ => none

end EngineCall

namespace Engine

variable {M N I J : Type}

/-- What an engine says of things of another engine. -/
def wrongKind : Failure := .raised .type "the module belongs to another engine"

/-- An engine of the first of two kinds. -/
def left (e : Engine M I) : Engine (M ⊕ N) (I ⊕ J) where
  compile h s := e.compile (h.filterMap EngineCall.left?) s
  load h b := (e.load (h.filterMap EngineCall.left?) b).map .inl
  instantiate h m t := match m with
    | .inl m => do return (← e.instantiate (h.filterMap EngineCall.left?) m t).map .inl
    | .inr _ => .done (.error wrongKind)
  hasEntry h i n := match i with
    | .inl i => e.hasEntry (h.filterMap EngineCall.left?) i n
    | .inr _ => .error wrongKind
  invoke h i n := match i with
    | .inl i => e.invoke (h.filterMap EngineCall.left?) i n
    | .inr _ => .done (.error wrongKind)

/-- An engine of the second of two kinds. -/
def right (e : Engine N J) : Engine (M ⊕ N) (I ⊕ J) where
  compile h s := e.compile (h.filterMap EngineCall.right?) s
  load h b := (e.load (h.filterMap EngineCall.right?) b).map .inr
  instantiate h m t := match m with
    | .inr m => do return (← e.instantiate (h.filterMap EngineCall.right?) m t).map .inr
    | .inl _ => .done (.error wrongKind)
  hasEntry h i n := match i with
    | .inr i => e.hasEntry (h.filterMap EngineCall.right?) i n
    | .inl _ => .error wrongKind
  invoke h i n := match i with
    | .inr i => e.invoke (h.filterMap EngineCall.right?) i n
    | .inl _ => .done (.error wrongKind)

end Engine

end WatWorkbench
