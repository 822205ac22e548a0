import WatWorkbench.Engine.WebAssembly
import WatWorkbench.Proofs.Engine.Scripts
import WatWorkbench.Proofs.Wasm.Execution
import Mathlib.Tactic.Common

/-!
# Host functions that the engine's guard lets through

What goes wrong while a module is linked, instantiated or executed is told as a failure of the run:
traps by the machine, failures of host functions by the guard around them.  The guard is done when
the host function has returned, and then its value is still to be converted to the result types of
the import.  A value that cannot be converted is refused as a value of the wrong type, and so is a
text for the guard's own report that cannot be encoded.

* `Failure.stray?` — the failures that are not failures of the run.
* `WebAssembly.slip?` — the stray failure that a call of a host function comes to.
* `WebAssembly.Slips` — when it comes to one; `ValType.takes` says which values are converted.
* `WebAssembly.instantiate_reports`, `WebAssembly.call_reports` — instantiation and calls of exports
  end in a stray failure only where a host function's call comes to one.
-/

namespace WatWorkbench

/-- The failure that an outcome is, unless it is a failure of running a module. -/
def Failure.stray? {α : Type} : Except Failure α → Option Failure
  | .ok _ | .error (.stage .runtime _) => none
  | .error f => some f

lemma Failure.stray?_eq_some {α : Type} {r : Except Failure α} {f : Failure} :
    stray? r = some f ↔ r = .error f ∧ ∀ m, f ≠ .stage .runtime m := by
  unfold stray?
  split <;> grind

@[simp] lemma Failure.stray?_map {α β : Type} (r : Except Failure α) (g : α → β) :
    stray? (r.map g) = stray? r := by
  rcases r with f | a
  · cases f with
    | stage s => cases s <;> rfl
    | _ => rfl
  · rfl

open Failure (stray?)

/-! ## Conversion of results -/

namespace Wasm

/-- Whether a value of the host is taken for one of a type. -/
def ValType.takes : ValType → Value → Bool
  | .i32, v | .i64, v => (Val.integer? v).isSome
  | .f32, .float _ | .f64, .float _ => true
  | .externref, _ => true
  | .funcref, .null => true
  | _, _ => false

/-- The refusal of a value. -/
def ValType.refusal (t : ValType) (v : Value) : Failure :=
  .raised .type ("don't know how to convert " ++ v.quoted ++ " to " ++ t.name)

lemma Val.ofValue_eq_ok_iff {t : ValType} {v : Value} :
    (∃ a, Val.ofValue t v = .ok a) ↔ t.takes v := by
  unfold Val.ofValue ValType.takes
  cases t <;> cases v <;> simp [Val.integer?]

lemma Val.ofValue_of_not_takes {t : ValType} {v : Value} (h : ¬ t.takes v) :
    Val.ofValue t v = .error (t.refusal v) := by
  unfold Val.ofValue ValType.refusal
  unfold ValType.takes at h
  cases t <;> cases v <;> simp_all [Val.integer?]

/-- A value that cannot be converted to result types: one of the wrong type, one for several types
that has no elements, or one with as many elements as there are types, one of them of the wrong
type. -/
def Val.Misfit (ts : List ValType) (v : Value) : Prop :=
  match ts with
  | [] => False
  | [t] => ¬ t.takes v
  | ts => ∀ vs, Val.elements? v = some vs →
      vs.length = ts.length ∧ ∃ c ∈ ts.zip vs, ¬ c.1.takes c.2

/-- Several values are converted if each of them is. -/
lemma Val.mapM_ofValue_strays_iff (cs : List (ValType × Value)) :
    (stray? (cs.mapM fun (t, v) => Val.ofValue t v)).isSome ↔ ∃ c ∈ cs, ¬ c.1.takes c.2 := by
  induction cs with
  | nil => simp [stray?, pure, Except.pure]
  | cons c cs ih =>
      obtain ⟨t, v⟩ := c
      rw [List.mapM_cons]
      by_cases h : t.takes v
      · obtain ⟨a, ha⟩ := Val.ofValue_eq_ok_iff.mpr h
        simp only [List.mem_cons, exists_eq_or_imp, h, not_true_eq_false, false_or, ← ih, ha]
        cases cs.mapM fun (t, v) => Val.ofValue t v <;> rfl
      · simp only [Val.ofValue_of_not_takes h]
        exact iff_of_true rfl ⟨(t, v), List.mem_cons_self, h⟩

lemma Val.ofResult_strays_iff (ts : List ValType) (v : Value) :
    (stray? (Val.ofResult ts v)).isSome ↔ Val.Misfit ts v := by
  unfold Val.ofResult Val.Misfit
  match ts with
  | [] => simp [stray?]
  | [t] =>
      dsimp only
      by_cases h : t.takes v
      · obtain ⟨a, ha⟩ := Val.ofValue_eq_ok_iff.mpr h
        simp [ha, h, stray?, bind, Except.bind, pure, Except.pure]
      · simp [Val.ofValue_of_not_takes h, h, stray?, bind, Except.bind, ValType.refusal]
  | t :: u :: ts =>
      dsimp only
      cases Val.elements? v with
      | none => simp [stray?]
      | some vs =>
          by_cases hlength : vs.length = (t :: u :: ts).length
          · simp [hlength, Val.mapM_ofValue_strays_iff]
          · dsimp only
            rw [if_neg hlength]
            exact iff_of_false Bool.false_ne_true fun h => hlength (h vs rfl).1

end Wasm

open Wasm

namespace WebAssembly

/-- The result types of an import, none if there is no such function. -/
def resultTypes (m : Module) (module name : Text) : List ValType :=
  match (Program.ofModule m).links.find? fun l => l.module = module ∧ l.name = name with
  | some l => l.type.results
  | none => []

/-- The stray failure that a call comes to inside the machine, which converts the value. -/
def landing? (m : Module) (q : HostCall) (x : Except Failure Value) : Option Failure :=
  stray? (x.bind (Val.ofResult (resultTypes m q.module q.name)))

/-- The stray failure that a call of a host function comes to; if it failed, that is what the guard
tells of it. -/
def slip? (m : Module) (q : HostCall) (x : Except Failure Value) : Option Failure :=
  landing? m q (x.mapError (hostFailure q))

/-- What the guard writes about a host function that failed. -/
def report (q : HostCall) (e : Failure) : Text :=
  "host function " ++ importLabel q.module q.name ++ " failed: " ++ e.message

/-- A call of a host function that the guard does not turn into a failure of the run: it gave a
value that cannot be converted, or it failed other than by a trap and with a text that cannot be
encoded. -/
inductive Slips (m : Module) (q : HostCall) : Except Failure Value → Prop
  /-- The value cannot be converted. -/
  | misfit {v : Value} (h : Val.Misfit (resultTypes m q.module q.name) v) : Slips m q (.ok v)
  /-- The failure cannot be told. -/
  | untold {e : Failure} (htrap : ∀ t, e ≠ .raised .trap t)
      (h : ∀ bs, (report q e).encode ≠ .ok bs) : Slips m q (.error e)

lemma hostFailure_strays_iff (q : HostCall) (e : Failure) :
    (stray? (.error (hostFailure q e) : Except Failure (List Val))).isSome ↔
      (∀ t, e ≠ .raised .trap t) ∧ ∀ bs, (report q e).encode ≠ .ok bs := by
  unfold hostFailure
  split
  · simp [stray?]
  case h_2 htrap =>
      dsimp only
      rw [← report]
      cases (report q e).encode with
      | ok bs => simp [stray?]
      | error f => simpa [stray?] using htrap

lemma slip?_isSome_iff (m : Module) (q : HostCall) (x : Except Failure Value) :
    (slip? m q x).isSome ↔ Slips m q x := by
  cases x with
  | ok v =>
      refine (Val.ofResult_strays_iff _ v).trans ⟨.misfit, fun h => ?_⟩
      cases h with
      | misfit h => exact h
  | error e =>
      refine (hostFailure_strays_iff q e).trans ⟨fun h => .untold h.1 h.2, fun h => ?_⟩
      cases h with
      | untold htrap h => exact ⟨htrap, h⟩

/-! ## Execution -/

lemma mem_links {m : Module} {l : Link} (h : l ∈ (Program.ofModule m).links) :
    ∃ i ∈ m.imports, i.module = l.module ∧ i.name = l.name ∧
      l.type = (importsAgree.typeOf m i).getD ⟨[], []⟩ := by
  simp only [Program.ofModule, List.mem_toArray, List.mem_filterMap] at h
  obtain ⟨i, hi, hl⟩ := h
  refine ⟨i, hi, ?_⟩
  unfold importsAgree.typeOf
  split at hl <;> cases hl
  simp only [*, and_self]

/-- One name is asked for at one type only. -/
lemma type_of_importsAgree {m : Module} (hagree : importsAgree m) {l l' : Link}
    (hl : l ∈ (Program.ofModule m).links) (hl' : l' ∈ (Program.ofModule m).links)
    (hmodule : l.module = l'.module) (hname : l.name = l'.name) : l.type = l'.type := by
  obtain ⟨i, hi, himodule, hiname, htype⟩ := mem_links hl
  obtain ⟨j, hj, hjmodule, hjname, htype'⟩ := mem_links hl'
  simp only [importsAgree, List.all_eq_true] at hagree
  have hsame := hagree i hi j hj
  simp only [himodule, hjmodule, hmodule, hiname, hjname, hname, ne_eq, not_true_eq_false,
    decide_false, Bool.false_or, decide_eq_true_eq] at hsame
  rw [htype, htype', hsame]

/-- So the result types of a name are those of any link of it. -/
lemma resultTypes_of_mem {m : Module} (hagree : importsAgree m) {l : Link}
    (h : l ∈ (Program.ofModule m).links) : resultTypes m l.module l.name = l.type.results := by
  unfold resultTypes
  split
  case h_1 l' hfind =>
      have hnames := Array.find?_some hfind
      simp only [decide_eq_true_eq] at hnames
      rw [type_of_importsAgree hagree (Array.mem_of_find?_eq_some hfind) h hnames.1 hnames.2]
  case h_2 hfind =>
      rw [Array.find?_eq_none] at hfind
      exact absurd (decide_eq_true ⟨rfl, rfl⟩) (hfind l h)

/-- A machine fails for no reason of its own but traps, which are failures of the run. -/
lemma run_reports {m : Module} (hagree : importsAgree m) {s : Step}
    (h : s.Within (.ofModule m)) (n : Nat) :
    (Step.run n s).Reports (fun r => stray? r.1) (landing? m) := by
  induction n generalizing s with
  | zero => cases s <;> rfl
  | succ n ih =>
      cases s with
      | trapped t i | finished vs i | stuck i => rfl
      | next machine => exact ih (Machine.step_within h)
      | calling link args machine =>
          obtain ⟨hlink, hprogram⟩ := h
          intro x
          rw [landing?, resultTypes_of_mem hagree hlink]
          dsimp only
          cases x.bind (Val.ofResult link.type.results) with
          | ok vs => exact ih hprogram
          | error f =>
              cases hstray : stray? (.error f : Except Failure (List Val)) with
              | none => exact hstray
              | some g => exact ⟨_, rfl, hstray⟩

/-- The guard tells of a failure before the machine has it. -/
lemma guarded_reports {α : Type} {m : Module} {failure : α → Option Failure} {s : Script α}
    (h : s.Reports failure (landing? m)) : (guarded s).Reports failure (slip? m) := by
  induction s with
  | done a => exact h
  | call q resume ih =>
      intro x
      have hcall := h (x.mapError (hostFailure q))
      rw [slip?]
      cases hlanding : landing? m q (x.mapError (hostFailure q)) with
      | none =>
          rw [hlanding] at hcall
          exact ih _ hcall
      | some f =>
          rw [hlanding] at hcall
          obtain ⟨a, hdone, hfails⟩ := hcall
          exact ⟨a, congrArg guarded hdone, hfails⟩

lemma guarded_gives {α : Type} {P : α → Prop} {s : Script α} (h : s.Gives P) :
    (guarded s).Gives P := by
  induction s with
  | done a => exact h
  | call q resume ih => exact fun x => ih _ (h _)

/-- An execution leaves an instance of the same program. -/
lemma run_gives {p : Program} {s : Step} (h : s.Within p) (n : Nat) :
    (Step.run n s).Gives fun r => r.2.program = p := by
  induction n generalizing s with
  | zero => cases s <;> first | exact h | exact h.2
  | succ n ih =>
      cases s with
      | trapped t i | finished vs i | stuck i => exact h
      | next machine => exact ih (Machine.step_within h)
      | calling link args machine =>
          intro x
          dsimp only
          cases x.bind (Val.ofResult link.type.results) with
          | ok vs => exact ih h.2
          | error f => exact h.2

section Instances

variable {m : Module} {i : Instance} (hprogram : i.program = .ofModule m)

include hprogram

lemma invoke_reports (hagree : importsAgree m) (index : Nat) (args : List Val) :
    (i.invoke index args).Reports (fun r => stray? r.1) (landing? m) := by
  apply run_reports hagree
  apply Machine.enter_within
  exact hprogram

lemma invoke_gives (index : Nat) (args : List Val) :
    (i.invoke index args).Gives fun r => r.2.program = .ofModule m := by
  apply run_gives
  apply Machine.enter_within
  exact hprogram

/-- **A call of an export** ends in a stray failure only where a call of a host function comes to
one. -/
theorem call_reports (hagree : importsAgree m) (name : Text) :
    (call i name).Reports (fun r => stray? r.1) (slip? m) := by
  unfold call
  split
  · rfl
  · split
    · exact (guarded_reports (invoke_reports hprogram hagree _ _)).map fun r =>
        Failure.stray?_map r.1 _
    · rfl

end Instances

variable (fuel : Option Int) (m : Module) (table : ImportTable Binding)

lemma importFault_strays {i : Wasm.Import} {f : Failure} (h : importFault table i = some f) :
    stray? (.error f : Except Failure Instance) = none := by
  unfold importFault at h
  dsimp only at h
  repeat' first | cases h <;> rfl | split at h

lemma checkImports_strays {f : Failure} (h : checkImports m table = .error f) :
    stray? (.error f : Except Failure Instance) = none := by
  unfold checkImports at h
  split at h
  case h_1 hfault =>
      cases h
      obtain ⟨i, -, hi⟩ := List.exists_of_findSome?_eq_some hfault
      exact importFault_strays table hi
  case h_2 =>
      split at h <;> cases h
      rfl

lemma importsAgree_of_checkImports (h : checkImports m table = .ok ()) : importsAgree m := by
  unfold checkImports at h
  split at h
  · cases h
  · split at h
    · assumption
    · cases h

/-- **Instantiation** ends in a stray failure only where a call of a host function comes to one. -/
theorem instantiate_reports : (instantiate fuel m table).Reports stray? (slip? m) := by
  unfold instantiate
  split
  case h_1 f hcheck => exact checkImports_strays m table hcheck
  case h_2 hcheck =>
      apply guarded_reports
      unfold Instance.ofModule
      split
      · rfl
      case h_2 i hprepared =>
          have hagree := importsAgree_of_checkImports m table hcheck
          have hprogram := Instance.program_prepared hprepared
          split
          · rfl
          · exact (invoke_reports hprogram hagree _ _).map fun r => Failure.stray?_map r.1 _

/-- A new instance is one of its module's program, whose imports are of one type each. -/
lemma instantiate_gives : (instantiate fuel m table).Gives fun r =>
    ∀ i, r = .ok i → importsAgree m ∧ i.program = .ofModule m := by
  unfold instantiate
  split
  case h_1 => rintro i ⟨⟩
  case h_2 hcheck =>
      have hagree := importsAgree_of_checkImports m table hcheck
      apply guarded_gives
      unfold Instance.ofModule
      split
      · rintro i ⟨⟩
      case h_2 i hprepared =>
          have hprogram := Instance.program_prepared hprepared
          split
          · rintro _ ⟨⟩
            exact ⟨hagree, hprogram⟩
          · refine (invoke_gives hprogram _ _).bind fun r hr => ?_
            rcases r with ⟨f | vs, i⟩
            · rintro _ ⟨⟩
            · rintro _ ⟨⟩
              exact ⟨hagree, hr⟩

end WebAssembly

end WatWorkbench
