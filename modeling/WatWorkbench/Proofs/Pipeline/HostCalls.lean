import WatWorkbench.Proofs.Engine.HostCalls
import WatWorkbench.Proofs.Pipeline.Asking

/-!
# How a run of a module can fail

Everything that goes wrong while a module is run is meant to be a failure of the run.  A host
function has the last word all the same: what it gives is converted, and what it fails with is told,
where nobody guards any more.

* `Sandbox.calls` — the calls of host functions that a run makes, each with what came of it.
* **`Sandbox.stray?_runModule`** — a run has failed otherwise than as a run exactly if its last call
  has come to such a failure.
* **`Sandbox.runModule_strays_iff`** — that is, if the last host function called gave a value that
  cannot be converted, or failed with a text that cannot be encoded.
-/

namespace WatWorkbench

open Failure (stray?)

variable {M I H : Type}

lemma World.fst_bind_pure {α β : Type} (act : Act (World M I H) α) (g : α → β) (w : World M I H) :
    ((act >>= fun a => pure (g a)) w).1 = (act w).1.map g := by
  rw [World.run_bind]
  rcases act w with ⟨r | r, v⟩ <;> rfl

namespace Sandbox

section Calls

variable (id : Nat) (e : Engine M I) (logger : Text) (m : M)
  (imports : ImportTable (Import (World M I H)))

/-- What a run does with the instance: it calls its entry point, if it has one. -/
def enter (i : I) : Act (World M I H) Results := do
  if ← World.hasEntry id e i entryPoint then
    return [(entryPoint, ← World.invoke id e i entryPoint (linkTable logger imports))]
  else
    World.log logger Level.debug
      "Module exports no zero-argument '%s'; nothing to invoke" [.text entryPoint]
    return []

lemma runModule_eq : runModule id e logger m imports =
    World.instantiate id e m (linkTable logger imports) >>= enter id e logger imports := rfl

/-- The calls that an instance makes when its entry point is called, if it has one. -/
def entryCalls (i : I) (w : World M I H) : List (HostCall × Except Failure Value) :=
  match World.hasEntry id e i entryPoint w with
  | (.ok true, w) =>
    (e.invoke (w.histories id) i entryPoint).trace (World.answer (linkTable logger imports))
      (w.asked id (.invoke i entryPoint))
  | _ => []

/-- The calls that a module makes when it is instantiated. -/
def startCalls (w : World M I H) : List (HostCall × Except Failure Value) :=
  let table := linkTable logger imports
  (e.instantiate (w.histories id) m (table.map Import.binding)).trace (World.answer table)
    (w.asked id (linking logger m imports))

/-- The calls of host functions that a run of a module makes, first to last, each with what came of
it. -/
def calls (w : World M I H) : List (HostCall × Except Failure Value) :=
  startCalls id e logger m imports w ++
    match World.instantiate id e m (linkTable logger imports) w with
    | (.ok i, w) => entryCalls id e logger imports i w
    | (.error _, _) => []

end Calls

/-! ## The WebAssembly engine -/

section WebAssembly

open Wasm WebAssembly

variable (id : Nat) (fuel : Option Int) (logger : Text) {m : Module}
  (imports : ImportTable (Import (World Module Instance H))) (w : World Module Instance H)

/-- The call of the entry point fails otherwise than as a run only where its last call does. -/
lemma stray?_enter {i : Instance} (hagree : importsAgree m) (hprogram : i.program = .ofModule m) :
    stray? (enter id (engine fuel) logger imports i w).1 =
      (entryCalls id (engine fuel) logger imports i w).getLast?.bind fun c => slip? m c.1 c.2 := by
  have hinvoke (asked : History Module Instance) :
      ((engine fuel).invoke asked i entryPoint).Reports stray? (slip? m) :=
    (call_reports hprogram hagree entryPoint).map fun _ => rfl
  have hentry :
      (engine fuel).hasEntry (w.histories id) i entryPoint = .ok (hasEntry i entryPoint) := rfl
  rw [enter, entryCalls, World.run_bind, World.run_hasEntry, hentry]
  cases hasEntry i entryPoint with
  | false => simp [World.log, World.run_bind, stray?]
  | true =>
      dsimp only
      rw [if_pos rfl, World.fst_bind_pure, Failure.stray?_map, World.run_invoke]
      exact (hinvoke _).run _ _

variable (m) in
/-- **A run of a module** has failed otherwise than as a run exactly if its last call of a host
function has come to such a failure, which it then ends with. -/
theorem stray?_runModule :
    stray? (runModule id (engine fuel) logger m imports w).1 =
      (calls id (engine fuel) logger m imports w).getLast?.bind fun c => slip? m c.1 c.2 := by
  have hstart := (instantiate_reports fuel m ((linkTable logger imports).map Import.binding)).run
    (World.answer (linkTable logger imports)) (w.asked id (linking logger m imports))
  have hinstance := (instantiate_gives fuel m ((linkTable logger imports).map Import.binding)).run
    (World.answer (linkTable logger imports)) (w.asked id (linking logger m imports))
  have hrun : World.instantiate id (engine fuel) m (linkTable logger imports) w =
      (instantiate fuel m ((linkTable logger imports).map Import.binding)).run
        (World.answer (linkTable logger imports)) (w.asked id (linking logger m imports)) :=
    World.run_instantiate id (engine fuel) (linkTable logger imports) w m
  rw [← hrun] at hstart hinstance
  rw [runModule_eq, World.run_bind, calls]
  generalize World.instantiate id (engine fuel) m (linkTable logger imports) w = linked at *
  rcases linked with ⟨f | i, v⟩
  · rw [List.append_nil]
    exact (Failure.stray?_map (.error f) fun _ => []).trans hstart
  · obtain ⟨hagree, hprogram⟩ := hinstance i rfl
    dsimp only
    rw [stray?_enter id fuel logger imports v hagree hprogram, List.getLast?_append]
    -- without calls of the entry point the last one is of the start function, and it has not failed
    cases (entryCalls id (engine fuel) logger imports i v).getLast? with
    | none => exact hstart
    | some c => rfl

/-- **A run of a module** ends otherwise than with results or as a failed run exactly if the last
host function that it calls gives a value that cannot be converted, or fails other than by a trap
and with a text that cannot be encoded. -/
theorem runModule_strays_iff :
    (∃ f, (runModule id (engine fuel) logger m imports w).1 = .error f ∧
        ∀ text, f ≠ .stage .runtime text) ↔
      ∃ q x, (calls id (engine fuel) logger m imports w).getLast? = some (q, x) ∧ Slips m q x := by
  simp only [← Failure.stray?_eq_some, ← Option.isSome_iff_exists, stray?_runModule]
  cases (calls id (engine fuel) logger m imports w).getLast? with
  | none => simp
  | some c =>
      obtain ⟨q, x⟩ := c
      simp [slip?_isSome_iff]

/-- The binary of `(module (import "env" "f" (func $f (result i32))) (func (export "main")
(result i32) (call $f)))`. -/
def asking : Bytes :=
  [0x00, 0x61, 0x73, 0x6D, 0x01, 0x00, 0x00, 0x00, 0x01, 0x05, 0x01, 0x60, 0x00, 0x01, 0x7F,
    0x02, 0x09, 0x01, 0x03, 0x65, 0x6E, 0x76, 0x01, 0x66, 0x00, 0x00, 0x03, 0x02, 0x01, 0x00,
    0x07, 0x08, 0x01, 0x04, 0x6D, 0x61, 0x69, 0x6E, 0x00, 0x01,
    0x0A, 0x06, 0x01, 0x04, 0x00, 0x10, 0x00, 0x0B]

/-- A host function that gives a text, where the module asks for an integer. -/
def textual : ImportTable (Import (World Module Instance Unit)) :=
  [("env", [("f", .function fun _ => pure (.text "x"))])]

/-- Whether an outcome is a value of the wrong type that is refused with this text. -/
def isTypeRefusal (text : Text) : Except Failure Results → Bool
  | .error (.raised .type t) => t = text
  | _ => false

lemma eq_of_isTypeRefusal {text : Text} {r : Except Failure Results} (h : isTypeRefusal text r) :
    r = .error (.raised .type text) := by
  unfold isTypeRefusal at h
  split at h
  · rw [of_decide_eq_true h]
  · cases h

/-- So a run can end with a failure that is none of a run. -/
theorem runModule_asking_textual : ∃ m, load asking = .ok m ∧
    (runModule 0 (engine none) loggerName m textual { files := { working := "/" }, host := () }).1 =
      .error (.raised .type "don't know how to convert 'x' to i32") := by
  have hrun : (load asking).toOption.map (fun m =>
      isTypeRefusal "don't know how to convert 'x' to i32"
        (runModule 0 (engine none) loggerName m textual
          { files := { working := "/" }, host := () }).1) = some true := by
    decide +kernel
  cases hload : load asking with
  | error f => rw [hload] at hrun; cases hrun
  | ok m =>
      rw [hload] at hrun
      exact ⟨m, rfl, eq_of_isTypeRefusal (Option.some.inj hrun)⟩

end WebAssembly

end Sandbox

end WatWorkbench
