import WatWorkbench.Proofs.Pipeline.HostCalls

/-!
# Host functions without state

A host function without state gives the same outcome and writes the same records in all worlds, and
it changes nothing else.  If a module is linked with such functions only, then a run of it is the
same from all worlds: how it ends, which host functions it calls and what they are told, and which
records are written meanwhile.

* `World.Steady`, `World.SteadyIn` — what code without state does, and which records it writes.
* `Script.exists_run` — a script that calls only such code.
* **`Sandbox.exists_runModule_eq`** — a run of a module that is linked with such functions.
* `Sandbox.Behaves`, `Sandbox.exists_behaves` — what a run amounts to, whatever world it is made in.
-/

namespace WatWorkbench

variable {M I H α β : Type}

namespace World

/-- What the action comes to and which records it writes are the same in all worlds, and it changes
nothing else. -/
def Steady (act : Act (World M I H) α) : Prop :=
  ∃ (r : Except Failure α) (rs : List LogRecord), ∀ w, act w = (r, w.writtenAll rs)

/-- So it is, and the records have a property. -/
def SteadyIn (Q : LogRecord → Prop) (act : Act (World M I H) α) : Prop :=
  ∃ (r : Except Failure α) (rs : List LogRecord), (∀ x ∈ rs, Q x) ∧
    ∀ w, act w = (r, w.writtenAll rs)

lemma Steady.steadyIn {act : Act (World M I H) α} (h : Steady act) : SteadyIn (fun _ => True) act := by
  obtain ⟨r, rs, hact⟩ := h
  exact ⟨r, rs, fun _ _ => trivial, hact⟩

protected lemma Steady.pure (a : α) : Steady (pure a : Act (World M I H) α) :=
  ⟨.ok a, [], fun _ => rfl⟩

namespace SteadyIn

variable {Q Q' : LogRecord → Prop}

protected lemma settle (r : Except Failure α) : SteadyIn Q (settle r : Act (World M I H) α) :=
  ⟨r, [], fun _ h => (List.not_mem_nil h).elim, fun _ => rfl⟩

protected lemma write {r : LogRecord} (h : Q r) :
    SteadyIn Q (write r : Act (World M I H) Unit) :=
  ⟨.ok (), [r], by simpa using h, fun w => run_write w r⟩

protected lemma bind {act : Act (World M I H) α} {next : α → Act (World M I H) β}
    (h : SteadyIn Q act) (hnext : ∀ a, SteadyIn Q (next a)) : SteadyIn Q (act >>= next) := by
  obtain ⟨r, rs, hrs, hact⟩ := h
  cases r with
  | error e => exact ⟨.error e, rs, hrs, fun w => by rw [run_bind, hact]⟩
  | ok a =>
      obtain ⟨s, ss, hss, hthen⟩ := hnext a
      refine ⟨s, rs ++ ss, List.forall_mem_append.mpr ⟨hrs, hss⟩, fun w => ?_⟩
      rw [run_bind, hact, writtenAll_append]
      exact hthen _

protected lemma mono {act : Act (World M I H) α} (h : SteadyIn Q act) (hQ : ∀ r, Q r → Q' r) :
    SteadyIn Q' act := by
  obtain ⟨r, rs, hrs, hact⟩ := h
  exact ⟨r, rs, fun x hx => hQ x (hrs x hx), hact⟩

end SteadyIn

/-- The calls of a module are answered in the same way, if its host functions are without state. -/
lemma answer_steady {Q : LogRecord → Prop} {table : ImportTable (Import (World M I H))}
    (h : ∀ act, table.Offers act → SteadyIn Q act) (q : HostCall) :
    ∃ (x : Except Failure Value) (rs : List LogRecord), (∀ r ∈ rs, Q r) ∧
      ∀ w, answer table q w = (x, w.writtenAll rs) := by
  rcases answer_cases table q with ⟨act, hact, heq⟩ | ⟨e, he⟩
  · rw [heq]
    exact h act hact
  · exact ⟨.error e, [], fun _ h => (List.not_mem_nil h).elim, he⟩

end World

/-- A script that calls only code without state has one result, makes the same calls and has the
same records written from all worlds. -/
lemma Script.exists_run {Q : LogRecord → Prop}
    {answer : HostCall → StateM (World M I H) (Except Failure Value)}
    (h : ∀ q, ∃ (x : Except Failure Value) (rs : List LogRecord), (∀ r ∈ rs, Q r) ∧
      ∀ w, answer q w = (x, w.writtenAll rs)) (s : Script α) :
    ∃ (a : α) (rs : List LogRecord) (cs : List (HostCall × Except Failure Value)),
      (∀ r ∈ rs, Q r) ∧ ∀ w, s.run answer w = (a, w.writtenAll rs) ∧ s.trace answer w = cs := by
  induction s with
  | done a => exact ⟨a, [], [], fun _ h => (List.not_mem_nil h).elim, fun _ => ⟨rfl, rfl⟩⟩
  | call q resume ih =>
      obtain ⟨x, rs, hrs, hx⟩ := h q
      obtain ⟨a, ss, cs, hss, hrest⟩ := ih x
      refine ⟨a, rs ++ ss, (q, x) :: cs, List.forall_mem_append.mpr ⟨hrs, hss⟩, fun w => ?_⟩
      rw [run_call, trace, hx, World.writtenAll_append]
      exact ⟨(hrest _).1, congrArg _ (hrest _).2⟩

namespace Sandbox

/-- The default host functions are without state, and write to their logger. -/
lemma defaultImports_steady (logger : Text) (act : Act (World M I H) Value)
    (h : (defaultImports logger).Offers act) : World.SteadyIn (·.logger = logger) act := by
  have hline (v : Value) :
      World.SteadyIn (·.logger = logger) (logLine (M := M) (I := I) (H := H) logger v) :=
    .write (Q := (·.logger = logger)) rfl
  obtain ⟨i, ⟨m, es, n, hm, hn⟩, hact⟩ := h
  simp only [defaultImports, List.mem_singleton, Prod.mk.injEq] at hm
  obtain ⟨-, rfl⟩ := hm
  simp only [List.mem_cons, Prod.mk.injEq, List.not_mem_nil, or_false] at hn
  rcases hn with ⟨-, rfl⟩ | ⟨-, rfl⟩
  · obtain ⟨args, rfl⟩ := hact
    unfold logValue
    split
    · exact (hline _).bind fun _ => .settle (.ok _)
    · exact .settle (.error _)
  · obtain ⟨caller, args, rfl⟩ := hact
    unfold logString
    split
    · exact .bind (.settle _) fun _ => (hline _).bind fun _ => .settle (.ok _)
    · exact .settle (.error _)

lemma linkTable_steady {Q : LogRecord → Prop} {logger : Text} (hlogger : ∀ r, r.logger = logger → Q r)
    {imports : ImportTable (Import (World M I H))}
    (hosts : ∀ act, imports.Offers act → World.SteadyIn Q act) (act : Act (World M I H) Value)
    (h : (linkTable logger imports).Offers act) : World.SteadyIn Q act := by
  obtain ⟨i, hi, hact⟩ := h
  rcases ImportTable.holds_merge hi with hdefault | hown
  · exact (defaultImports_steady logger act ⟨i, hdefault, hact⟩).mono hlogger
  · exact hosts act ⟨i, hown, hact⟩

/-- What a run of a module amounts to, whatever world it is made in: how it ends, which calls of
host functions it makes, and which records are written meanwhile. -/
structure Behaves (id : Nat) (e : Engine M I) (logger : Text) (m : M)
    (imports : ImportTable (Import (World M I H))) (outcome : Except Failure Results)
    (cs : List (HostCall × Except Failure Value)) (rs : List LogRecord) : Prop where
  outcome : ∀ w, (runModule id e logger m imports w).1 = outcome
  calls : ∀ w, calls id e logger m imports w = cs
  records : ∀ w, (runModule id e logger m imports w).2.logs = w.logs.writtenAll rs

/-- The record of a run that finds nothing to call. -/
def idleRecord (logger : Text) : LogRecord where
  logger := logger
  level := Level.debug
  message := .text "Module exports no zero-argument '%s'; nothing to invoke"
  args := [.text entryPoint]

section WebAssembly

open Wasm WebAssembly

section Runs

variable (fuel : Option Int) {Q : LogRecord → Prop} {logger : Text}
  {imports : ImportTable (Import (World Module Instance H))}
  (hlogger : ∀ r, r.logger = logger → Q r)
  (hosts : ∀ act, imports.Offers act → World.SteadyIn Q act)

include hlogger hosts

/-- What is done with an instance is the same in all worlds, whoever asks for it. -/
lemma exists_enter (i : Instance) :
    ∃ (outcome : Except Failure Results) (cs : List (HostCall × Except Failure Value))
      (rs : List LogRecord), (∀ r ∈ rs, Q r) ∧ ∀ id (w : World Module Instance H),
      entryCalls id (engine fuel) logger imports i w = cs ∧
      ∃ histories, enter id (engine fuel) logger imports i w =
        (outcome, { w.writtenAll rs with histories }) := by
  have hentry (id : Nat) (w : World Module Instance H) :
      World.hasEntry id (engine fuel) i entryPoint w =
        (.ok (hasEntry i entryPoint), w.asked id (.hasEntry i entryPoint)) :=
    World.run_hasEntry id (engine fuel) w i entryPoint
  simp only [enter, entryCalls, World.run_bind, hentry]
  cases hasEntry i entryPoint with
  | false =>
      refine ⟨.ok [], [], [idleRecord logger], ?_, fun id w =>
        ⟨rfl, (w.asked id (.hasEntry i entryPoint)).histories, ?_⟩⟩
      · simpa using hlogger _ rfl
      · rw [if_neg Bool.false_ne_true, World.run_bind, World.log, World.run_write]
        rfl
  | true =>
      obtain ⟨r, rs, cs, hrs, hrun⟩ := Script.exists_run
        (World.answer_steady (linkTable_steady hlogger hosts))
        ((engine fuel).invoke [] i entryPoint)
      have hinvoke (asked : History Module Instance) (v : World Module Instance H) :
          World.runScript (linkTable logger imports) ((engine fuel).invoke asked i entryPoint) v =
            (r, v.writtenAll rs) := (hrun v).1
      refine ⟨r.map fun v => [(entryPoint, v)], cs, rs, hrs, fun id w => ⟨(hrun _).2,
        ((w.asked id (.hasEntry i entryPoint)).asked id (.invoke i entryPoint)).histories, ?_⟩⟩
      rw [if_pos rfl, World.run_bind, World.run_invoke, hinvoke]
      cases r <;> rfl

/-- **A run of a module** that is linked with host functions without state ends in the same way,
makes the same calls and has the same records written in all worlds, and changes nothing else. -/
theorem exists_runModule_eq (m : Module) :
    ∃ (outcome : Except Failure Results) (cs : List (HostCall × Except Failure Value))
      (rs : List LogRecord), (∀ r ∈ rs, Q r) ∧ ∀ id (w : World Module Instance H),
      calls id (engine fuel) logger m imports w = cs ∧
      ∃ histories, runModule id (engine fuel) logger m imports w =
        (outcome, { w.writtenAll rs with histories }) := by
  obtain ⟨r, rs, cs, hrs, hrun⟩ := Script.exists_run
    (World.answer_steady (linkTable_steady hlogger hosts))
    (instantiate fuel m ((linkTable logger imports).map Import.binding))
  have hlink (id : Nat) (w : World Module Instance H) :
      World.instantiate id (engine fuel) m (linkTable logger imports) w =
        (r, (w.asked id (linking logger m imports)).writtenAll rs) :=
    (World.run_instantiate id (engine fuel) (linkTable logger imports) w m).trans (hrun _).1
  have hcalls (id : Nat) (w : World Module Instance H) :
      startCalls id (engine fuel) logger m imports w = cs := (hrun _).2
  simp only [calls, hcalls, runModule_eq, World.run_bind, hlink]
  cases r with
  | error f =>
      exact ⟨.error f, cs, rs, hrs, fun id w =>
        ⟨List.append_nil cs, (w.asked id (linking logger m imports)).histories, rfl⟩⟩
  | ok i =>
      obtain ⟨outcome, ds, ss, hss, henter⟩ := exists_enter fuel hlogger hosts i
      refine ⟨outcome, cs ++ ds, rs ++ ss, List.forall_mem_append.mpr ⟨hrs, hss⟩, fun id w => ?_⟩
      obtain ⟨hmore, histories, hentered⟩ :=
        henter id ((w.asked id (linking logger m imports)).writtenAll rs)
      refine ⟨congrArg _ hmore, histories, hentered.trans ?_⟩
      rw [← World.writtenAll_append]
      rfl

end Runs

/-- So a run of it amounts to something. -/
theorem exists_behaves (id : Nat) (fuel : Option Int) (logger : Text)
    {imports : ImportTable (Import (World Module Instance H))}
    (hosts : ∀ act, imports.Offers act → World.Steady act) (m : Module) :
    ∃ outcome cs rs, Behaves id (engine fuel) logger m imports outcome cs rs := by
  have hlogger : ∀ r : LogRecord, r.logger = logger → True := fun _ _ => trivial
  obtain ⟨outcome, cs, rs, -, hrun⟩ :=
    exists_runModule_eq fuel hlogger (fun act hact => (hosts act hact).steadyIn) m
  refine ⟨outcome, cs, rs, fun w => ?_, fun w => (hrun id w).1, fun w => ?_⟩ <;>
    obtain ⟨-, histories, hw⟩ := hrun id w <;> rw [hw]
  rfl

end WebAssembly

end Sandbox

end WatWorkbench
