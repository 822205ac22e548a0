import WatWorkbench.Proofs.Pipeline.HostFailures

/-!
# Linking

Before anything of a module runs, its imports are looked up one by one in the table that it is linked
with.  The first one that an obstacle stands in the way of is reported, with the first obstacle to
it.  A name may be imported any number of times, which is no obstacle: whichever import of a name is
called, the one host function of that name answers.

* `WebAssembly.Obstacle` — what can stand in the way of an import; `WebAssembly.FirstObstacle` — the
  one that is reported.
* `WebAssembly.checkImports_eq_error_iff` — which obstacle linking is refused for.
* `WebAssembly.enter_import` — which host function the machine calls for an import.
* **`Sandbox.runModule_linking`** — linking, as part of a run.
-/

namespace WatWorkbench

open Wasm

variable {W : Type}

/-- What an entry of an import table does when it is called. -/
def Import.respond : Import W → HostCall → Act W Value
  | .function f, q => f q.args
  | .withCaller f, q => f q.caller q.args
  | .inert _ v, _ => throw (.raised .type ("'" ++ v.typeName ++ "' object is not callable"))

lemma ImportTable.lookup?_map {α β : Type} (f : α → β) (t : ImportTable α) (module name : Text) :
    (t.map f).lookup? module name = (t.lookup? module name).map f := by
  rw [lookup?, show t.map f = Entries.each (Entries.each f) t from rfl, Entries.find?_each, lookup?]
  cases Entries.find? t module with
  | none => rfl
  | some es => exact Entries.find?_each f es name

/-- What the table holds under the name of a call answers it. -/
lemma World.answer_eq_respond {M I H : Type} {table : ImportTable (Import (World M I H))}
    {q : HostCall} {host : Import (World M I H)}
    (h : table.lookup? q.module q.name = some host) : World.answer table q = host.respond q := by
  obtain ⟨es, hes, hhost⟩ := Option.bind_eq_some_iff.mp h
  unfold World.answer
  rw [hes]
  dsimp only
  rw [hhost]
  cases host <;> rfl

namespace WebAssembly

/-! ## Obstacles -/

/-- What can stand in the way of an import. -/
inductive Obstacle where
  /-- The table has nothing under its name. -/
  | unknown
  /-- It is to be something else than a function. -/
  | unsupported
  /-- What the table has under its name cannot be called. -/
  | notCallable

namespace Obstacle

/-- The obstacles that are looked for earlier. -/
def earlier : Obstacle → List Obstacle
  | unknown => []
  | unsupported => [unknown]
  | notCallable => [unknown, unsupported]

/-- The obstacle stands in the way of an import.  The absent value, where it is not presented as a
host function, counts as nothing. -/
def Stands (table : ImportTable (Import W)) (i : Wasm.Import) : Obstacle → Prop
  | unknown => table.lookup? i.module i.name = none ∨
      table.lookup? i.module i.name = some (.inert false .null)
  | unsupported => ∀ t, i.type ≠ .func t
  | notCallable => ∃ wrapped v, table.lookup? i.module i.name = some (.inert wrapped v)

/-- The first obstacle to an import. -/
def IsFirst (table : ImportTable (Import W)) (i : Wasm.Import) (o : Obstacle) : Prop :=
  o.Stands table i ∧ ∀ o' ∈ o.earlier, ¬ o'.Stands table i

/-- What is said of the obstacle. -/
def message (i : Wasm.Import) : Obstacle → Text
  | unknown => "unknown import: " ++ importLabel i.module i.name
  | unsupported => "unsupported import kind for " ++ importLabel i.module i.name
      ++ ": only functions can be imported"
  | notCallable => "import " ++ importLabel i.module i.name ++ " is not callable"

end Obstacle

/-- Of imports in their order, the first one that an obstacle stands in the way of, and the first
obstacle to it. -/
def FirstObstacle (table : ImportTable (Import W)) (imports : List Wasm.Import) (i : Wasm.Import)
    (o : Obstacle) : Prop :=
  ∃ before after, imports = before ++ i :: after ∧
    (∀ j ∈ before, ∀ o' : Obstacle, ¬ o'.Stands table j) ∧ o.IsFirst table i

/-- Functions that are imported under one name are of one type. -/
def OneTypeEach (m : Module) : Prop :=
  ∀ i ∈ m.imports, ∀ j ∈ m.imports, i.module = j.module → i.name = j.name →
    ∀ t u, i.type = .func t → j.type = .func u → m.types[t]? = m.types[u]?

section Faults

variable {table : ImportTable (Import W)} {i : Wasm.Import} {m : Module}
  {o o' : Obstacle}

lemma Obstacle.mem_earlier (o o' : Obstacle) : o = o' ∨ o ∈ o'.earlier ∨ o' ∈ o.earlier := by
  cases o <;> cases o' <;> simp [earlier]

lemma Obstacle.IsFirst.unique (h : o.IsFirst table i) (h' : o'.IsFirst table i) : o = o' := by
  rcases o.mem_earlier o' with heq | hmem | hmem
  · exact heq
  · exact absurd h.1 (h'.2 o hmem)
  · exact absurd h'.1 (h.2 o' hmem)

/-- What is wrong with an import that something is found for. -/
def boundFault (i : Wasm.Import) (b : Binding) : Option Failure :=
  match i.type, b with
  | .func _, .callable => none
  | .func _, .inert _ _ => some (.stage .runtime (Obstacle.notCallable.message i))
  | _, _ => some (.stage .runtime (Obstacle.unsupported.message i))

lemma importFault_of_bound {table : ImportTable Binding} {b : Binding}
    (hbound : table.lookup? i.module i.name = some b) (hnull : b ≠ .inert false .null) :
    importFault table i = boundFault i b := by
  unfold importFault
  rw [hbound]
  dsimp only
  split
  case h_1 h => cases h
  case h_2 h => exact absurd (Option.some.inj h) hnull
  case h_3 h =>
    obtain rfl := Option.some.inj h
    rfl

/-- Nothing stands in the way of an import, or its first obstacle is reported. -/
lemma importFault_cases (table : ImportTable (Import W)) (i : Wasm.Import) :
    ((∀ o : Obstacle, ¬ o.Stands table i) ∧ importFault (table.map Import.binding) i = none) ∨
      ∃ o : Obstacle, o.IsFirst table i ∧
        importFault (table.map Import.binding) i = some (.stage .runtime (o.message i)) := by
  by_cases hunknown : Obstacle.unknown.Stands table i
  · refine .inr ⟨.unknown, ⟨hunknown, by simp [Obstacle.earlier]⟩, ?_⟩
    have hempty (t : Text) : t ++ "" = t := congrArg Text.mk (List.append_nil _)
    unfold importFault
    rw [ImportTable.lookup?_map]
    rcases hunknown with h | h <;> rw [h] <;> simp [Obstacle.message, Import.binding, hempty]
  · obtain ⟨host, hbound⟩ : ∃ host, table.lookup? i.module i.name = some host :=
      Option.ne_none_iff_exists'.mp fun h => hunknown (.inl h)
    have hbinding : (table.map Import.binding).lookup? i.module i.name = some host.binding := by
      rw [ImportTable.lookup?_map, hbound, Option.map_some]
    have hnull : host.binding ≠ .inert false .null := by
      intro h
      apply hunknown
      right
      cases host <;> cases h
      exact hbound
    rw [importFault_of_bound hbinding hnull]
    unfold boundFault
    cases htype : i.type with
    | func t =>
        cases host with
        | function f | withCaller f =>
            left
            refine ⟨fun o => ?_, rfl⟩
            cases o with
            | unknown => exact hunknown
            | unsupported => simp [Obstacle.Stands, htype]
            | notCallable => simp [Obstacle.Stands, hbound]
        | inert wrapped v =>
            right
            refine ⟨.notCallable, ⟨⟨wrapped, v, hbound⟩, ?_⟩, rfl⟩
            simpa [Obstacle.earlier, Obstacle.Stands, htype] using hunknown
    | table t | memory l | global g =>
        right
        refine ⟨.unsupported, ⟨by simp [Obstacle.Stands, htype], ?_⟩, rfl⟩
        simpa [Obstacle.earlier] using hunknown

lemma importFault_eq_none_iff :
    importFault (table.map Import.binding) i = none ↔ ∀ o : Obstacle, ¬ o.Stands table i := by
  rcases importFault_cases table i with ⟨hnone, hfault⟩ | ⟨o, hfirst, hfault⟩
  · exact iff_of_true hfault hnone
  · exact iff_of_false (by simp [hfault]) fun h => h o hfirst.1

lemma importFault_of_isFirst (h : o.IsFirst table i) :
    importFault (table.map Import.binding) i = some (.stage .runtime (o.message i)) := by
  rcases importFault_cases table i with ⟨hnone, -⟩ | ⟨o', hfirst, hfault⟩
  · exact absurd h.1 (hnone o)
  · rw [hfault, hfirst.unique h]

/-! ## Checking all imports -/

/-- The first import that an obstacle stands in the way of is the first fault that is found. -/
lemma findSome?_of_firstObstacle {imports : List Wasm.Import}
    (h : FirstObstacle table imports i o) :
    imports.findSome? (importFault (table.map Import.binding)) =
      some (.stage .runtime (o.message i)) := by
  obtain ⟨before, after, rfl, hbefore, hfirst⟩ := h
  exact List.findSome?_eq_some_iff.mpr ⟨before, i, after, rfl, importFault_of_isFirst hfirst,
    fun j hj => importFault_eq_none_iff.mpr (hbefore j hj)⟩

lemma exists_func (h : ∀ o : Obstacle, ¬ o.Stands table i) : ∃ t, i.type = .func t :=
  Classical.byContradiction fun hnone => h .unsupported fun t ht => hnone ⟨t, ht⟩

/-- Imports that nothing stands in the way of agree, if each name is of one type. -/
lemma importsAgree_of_oneTypeEach (hone : OneTypeEach m)
    (h : ∀ i ∈ m.imports, ∀ o : Obstacle, ¬ o.Stands table i) : importsAgree m := by
  simp only [importsAgree, List.all_eq_true, Bool.or_eq_true, decide_eq_true_eq]
  intro i hi j hj
  by_cases hnames : i.module = j.module ∧ i.name = j.name
  · right
    obtain ⟨t, ht⟩ := exists_func (h i hi)
    obtain ⟨u, hu⟩ := exists_func (h j hj)
    simpa only [importsAgree.typeOf, ht, hu] using hone i hi j hj hnames.1 hnames.2 t u ht hu
  · left
    exact not_and_or.mp hnames

lemma checkImports_of_firstObstacle (h : FirstObstacle table m.imports i o) :
    checkImports m (table.map Import.binding) = .error (.stage .runtime (o.message i)) := by
  rw [checkImports, findSome?_of_firstObstacle h]

lemma checkImports_eq_ok (hone : OneTypeEach m)
    (h : ∀ i ∈ m.imports, ∀ o : Obstacle, ¬ o.Stands table i) :
    checkImports m (table.map Import.binding) = .ok () := by
  have hnone : m.imports.findSome? (importFault (table.map Import.binding)) = none :=
    List.findSome?_eq_none_iff.mpr fun i hi => importFault_eq_none_iff.mpr (h i hi)
  rw [checkImports, hnone]
  exact if_pos (importsAgree_of_oneTypeEach hone h)

/-- **Linking is refused** just where an obstacle stands in the way of some import, however often
names are imported. -/
theorem checkImports_eq_error_iff (hone : OneTypeEach m) :
    (∃ f, checkImports m (table.map Import.binding) = .error f) ↔
      ∃ i ∈ m.imports, ∃ o : Obstacle, o.Stands table i := by
  constructor
  · rintro ⟨f, hf⟩
    by_contra hnone
    rw [checkImports_eq_ok hone fun i hi o ho => hnone ⟨i, hi, o, ho⟩] at hf
    cases hf
  · rintro ⟨i, hi, o, ho⟩
    rcases hcheck : checkImports m (table.map Import.binding) with f | ⟨⟩
    · exact ⟨f, rfl⟩
    · unfold checkImports at hcheck
      split at hcheck
      · cases hcheck
      case h_2 hnone =>
        exact absurd ho (importFault_eq_none_iff.mp (List.findSome?_eq_none_iff.mp hnone i hi) o)

/-- The host function that the machine calls for an import. -/
def linkOf (m : Module) (i : Wasm.Import) : Link :=
  ⟨i.module, i.name, (importsAgree.typeOf m i).getD ⟨[], []⟩⟩

/-- Where all imports are functions, they are numbered as they are declared. -/
lemma links_eq_map (h : ∀ i ∈ m.imports, ∃ t, i.type = .func t) :
    (Program.ofModule m).links = (m.imports.map (linkOf m)).toArray := by
  rw [← List.filterMap_eq_map]
  refine congrArg List.toArray (List.filterMap_congr fun i hi => ?_)
  obtain ⟨t, ht⟩ := h i hi
  simp [linkOf, importsAgree.typeOf, ht]

/-- Whoever calls an import, the machine waits for the host function of its names. -/
lemma enter_import {k : Nat} {machine : Machine} (h : ∀ i ∈ m.imports, ∃ t, i.type = .func t)
    (hk : m.imports[k]? = some i) (hprogram : machine.inst.program = .ofModule m)
    (args : List Val) : machine.enter k args = .calling (linkOf m i) args machine := by
  have hlink : (Program.ofModule m).links[k]? = some (linkOf m i) := by
    simp [links_eq_map h, hk]
  unfold Machine.enter
  rw [hprogram]
  dsimp only
  rw [hlink]

end Faults

end WebAssembly

namespace Sandbox

open WebAssembly

variable {H : Type} (id : Nat) (fuel : Option Int) (logger : Text) {m : Module}
  (imports : ImportTable (Import (World Module Instance H))) (w : World Module Instance H)

/-- The host function of each name that a module imports. -/
lemma exists_hostOf {table : ImportTable (Import (World Module Instance H))}
    (h : ∀ i ∈ m.imports, ∀ o : Obstacle, ¬ o.Stands table i) :
    ∃ hostOf : Text → Text → Import (World Module Instance H), ∀ i ∈ m.imports,
      table.lookup? i.module i.name = some (hostOf i.module i.name) ∧
        (hostOf i.module i.name).binding = .callable := by
  refine ⟨fun module name => (table.lookup? module name).getD (.inert false .null),
    fun i hi => ?_⟩
  rcases hbound : table.lookup? i.module i.name with _ | host
  · exact absurd (.inl hbound) (h i hi .unknown)
  · simp only [hbound, Option.getD_some, true_and]
    cases host with
    | function f | withCaller f => rfl
    | inert wrapped v => exact absurd ⟨wrapped, v, hbound⟩ (h i hi .notCallable)

/-- **Linking** a module with the default host functions, overlaid with the caller's, where functions
that are imported under one name are of one type.

It is refused just where an obstacle stands in the way of some import, however often names are
imported.  The first obstacle to the first such import is what the run fails with: that does not
depend on what else there is in the module, no host function is called, and nothing has happened in
the world but that the engine has been asked.  Otherwise the module is instantiated, and for every
name that it imports there is one host function, which answers whichever import of that name is
called. -/
theorem runModule_linking (hone : OneTypeEach m) :
    ((∃ f, checkImports m ((linkTable logger imports).map Import.binding) = .error f) ↔
      ∃ i ∈ m.imports, ∃ o : Obstacle, o.Stands (linkTable logger imports) i) ∧
    (∀ i o, FirstObstacle (linkTable logger imports) m.imports i o →
      (∀ fuel' m', m'.imports = m.imports →
        instantiate fuel' m' ((linkTable logger imports).map Import.binding) =
          .done (.error (.stage .runtime (o.message i)))) ∧
      visits id (engine fuel) logger m imports w = [] ∧
      runModule id (engine fuel) logger m imports w =
        (.error (.stage .runtime (o.message i)), w.asked id (linking logger m imports))) ∧
    ((∀ i ∈ m.imports, ∀ o : Obstacle, ¬ o.Stands (linkTable logger imports) i) →
      instantiate fuel m ((linkTable logger imports).map Import.binding) =
        guarded (Instance.ofModule m (budget fuel)) ∧
      ∃ hostOf : Text → Text → Import (World Module Instance H), ∀ k i, m.imports[k]? = some i →
        (hostOf i.module i.name).binding = .callable ∧
        ∀ (machine : Machine) (args : List Val) (n : Nat),
          machine.inst.program = .ofModule m → ∃ q resume,
            Step.run (n + 1) (machine.enter k args) = .call q resume ∧
            q = ⟨i.module, i.name, machine.inst.caller, args.map Val.toValue⟩ ∧
            World.answer (linkTable logger imports) q = (hostOf i.module i.name).respond q) := by
  refine ⟨checkImports_eq_error_iff hone, fun i o hfirst => ?_, fun hclear => ⟨?_, ?_⟩⟩
  · have hrefused : ∀ fuel' m', m'.imports = m.imports →
        instantiate fuel' m' ((linkTable logger imports).map Import.binding) =
          .done (.error (.stage .runtime (o.message i))) := by
      intro fuel' m' himports
      rw [instantiate, checkImports_of_firstObstacle (himports ▸ hfirst)]
    have hscript : (engine fuel).instantiate (w.histories id) m
        ((linkTable logger imports).map Import.binding) =
          .done (.error (.stage .runtime (o.message i))) := hrefused fuel m rfl
    have hlinked : World.instantiate id (engine fuel) m (linkTable logger imports) w =
        (.error (.stage .runtime (o.message i)), w.asked id (linking logger m imports)) := by
      rw [World.run_instantiate, hscript]
      rfl
    refine ⟨hrefused, ?_, ?_⟩
    · rw [visits, hscript, hlinked]
      rfl
    · rw [runModule_eq, World.run_bind, hlinked]
  · rw [instantiate, checkImports_eq_ok hone hclear]
  · obtain ⟨hostOf, hhosts⟩ := exists_hostOf hclear
    refine ⟨hostOf, fun k i hk => ?_⟩
    obtain ⟨hlookup, hcallable⟩ := hhosts i (List.mem_of_getElem? hk)
    refine ⟨hcallable, fun machine args n hprogram => ?_⟩
    rw [enter_import (fun j hj => exists_func (hclear j hj)) hk hprogram args]
    exact ⟨_, _, rfl, rfl, World.answer_eq_respond hlookup⟩

/-- The binary of `(module (import "env" "log" (func (param i32) (result i32))) (import "env" "log"
(func (param i32) (result i32))) (import "env" "m" (memory 1)) (import "env" "f" (func)))`. -/
def wanting : Bytes :=
  [0x00, 0x61, 0x73, 0x6D, 0x01, 0x00, 0x00, 0x00,
    0x01, 0x09, 0x02, 0x60, 0x01, 0x7F, 0x01, 0x7F, 0x60, 0x00, 0x00, 0x02, 0x26, 0x04,
    0x03, 0x65, 0x6E, 0x76, 0x03, 0x6C, 0x6F, 0x67, 0x00, 0x00,
    0x03, 0x65, 0x6E, 0x76, 0x03, 0x6C, 0x6F, 0x67, 0x00, 0x00,
    0x03, 0x65, 0x6E, 0x76, 0x01, 0x6D, 0x02, 0x00, 0x01,
    0x03, 0x65, 0x6E, 0x76, 0x01, 0x66, 0x00, 0x01]

/-- A table with a value under the name that the memory is imported under. -/
def misplaced : ImportTable (Import (World Module Instance Unit)) :=
  [("env", [("m", .inert false (.int 1))])]

/-- A function that is imported twice is no obstacle.  The memory is one, and it is reported as what it
is and not for what is bound to its name; the function that is not there comes after it. -/
theorem runModule_wanting : ∃ m, load wanting = .ok m ∧ OneTypeEach m ∧
    (runModule 0 (engine none) loggerName m misplaced
      { files := { working := "/" }, host := () }).1 =
        .error (.stage .runtime
          "unsupported import kind for env.m: only functions can be imported") := by
  have hparts : (load wanting).toOption.map (fun m => (m.imports, m.types)) =
      some ([⟨"env", "log", .func 0⟩, ⟨"env", "log", .func 0⟩, ⟨"env", "m", .memory ⟨.w32, 1, none⟩⟩,
        ⟨"env", "f", .func 1⟩], [⟨[.i32], [.i32]⟩, ⟨[], []⟩]) := by
    decide +kernel
  cases hload : load wanting with
  | error f => rw [hload] at hparts; cases hparts
  | ok m =>
      rw [hload] at hparts
      obtain ⟨himports, htypes⟩ := Prod.mk.inj (Option.some.inj hparts)
      have hfuncs : ∀ i ∈ m.imports, ∀ t, i.type = .func t →
          (i.name = "log" ∧ t = 0) ∨ (i.name = "f" ∧ t = 1) := by
        simp [himports]
      have hone : OneTypeEach m := by
        intro i hi j hj _ hname t u ht hu
        rcases hfuncs i hi t ht with ⟨hi, rfl⟩ | ⟨hi, rfl⟩ <;>
          rcases hfuncs j hj u hu with ⟨hj, rfl⟩ | ⟨hj, rfl⟩
        · rfl
        · exact absurd (hi.symm.trans (hname.trans hj)) (by decide)
        · exact absurd (hi.symm.trans (hname.trans hj)) (by decide)
        · rfl
      have hlog (o : Obstacle) :
          ¬ o.Stands (linkTable loggerName misplaced) ⟨"env", "log", .func 0⟩ := by
        have hbound : (linkTable loggerName misplaced).lookup? "env" "log" =
          some (.function (logValue loggerName)) := rfl
        cases o <;> simp [Obstacle.Stands, hbound]
      have hfirst : FirstObstacle (linkTable loggerName misplaced) m.imports
          ⟨"env", "m", .memory ⟨.w32, 1, none⟩⟩ .unsupported := by
        refine ⟨[⟨"env", "log", .func 0⟩, ⟨"env", "log", .func 0⟩], [⟨"env", "f", .func 1⟩],
          himports, by simpa using hlog, by simp [Obstacle.Stands], ?_⟩
        have hbound : (linkTable loggerName misplaced).lookup? "env" "m" =
          some (.inert false (.int 1)) := rfl
        simp [Obstacle.earlier, Obstacle.Stands, hbound]
      refine ⟨m, rfl, hone, ?_⟩
      have hrun := (runModule_linking 0 none loggerName misplaced
        { files := { working := "/" }, host := () } hone).2.1 _ _ hfirst
      rw [hrun.2.2]
      rfl

end Sandbox

end WatWorkbench
