import WatWorkbench.Engine.WebAssembly
import WatWorkbench.Proofs.Engine.Scripts
import WatWorkbench.Proofs.Wasm.Refuelling

/-!
# Scripts with larger budgets

A module that is given a larger budget makes the same calls of host functions and comes to the same
result, unless the smaller budget gives out; then its script stops short.

* `Script.Outlasted` — a script does what another one does, until that one has given out.
* `Instance.SameOutcome` — the same failure, or the same instance with a larger budget.
* **`WebAssembly.instantiate_outlasted`**, **`WebAssembly.call_outlasted`** — instantiating a valid
  module and calling an export, with a budget and with a larger one.
-/

namespace WatWorkbench

/-! ## Scripts that stop short -/

namespace Script

variable {α α' β β' : Type}

/-- The second script makes the calls of the first one and comes to a result that stands in a
relation to the first one's, unless the first one has given out. -/
def Outlasted (out : α → Prop) (R : α → β → Prop) : Script α → Script β → Prop
  | done a, t => out a ∨ ∃ b, t = done b ∧ R a b
  | call q resume, t => ∃ more, t = call q more ∧ ∀ x, Outlasted out R (resume x) (more x)

namespace Outlasted

variable {out : α → Prop} {R : α → β → Prop} {out' : α' → Prop} {R' : α' → β' → Prop}
  {s : Script α} {t : Script β}

/-- What is done with the results, if a script that has given out is over. -/
protected lemma bind (h : s.Outlasted out R t) {next : α → Script α'} {next' : β → Script β'}
    (hout : ∀ a, out a → ∃ c, next a = done c ∧ out' c)
    (hnext : ∀ a b, R a b → (next a).Outlasted out' R' (next' b)) :
    (s.bind next).Outlasted out' R' (t.bind next') := by
  induction s generalizing t with
  | done a =>
      rcases h with ha | ⟨b, rfl, hab⟩
      · obtain ⟨c, hc, hcout⟩ := hout a ha
        have hdone : (done a).bind next = done c := hc
        rw [hdone]
        exact Or.inl hcout
      · exact hnext a b hab
  | call q resume ih =>
      obtain ⟨more, rfl, hmore⟩ := h
      exact ⟨_, rfl, fun x => ih x (hmore x)⟩

protected lemma map (h : s.Outlasted out R t) {g : α → α'} {g' : β → β'}
    (hout : ∀ a, out a → out' (g a)) (hR : ∀ a b, R a b → R' (g a) (g' b)) :
    (s.bind fun a => done (g a)).Outlasted out' R' (t.bind fun b => done (g' b)) :=
  h.bind (fun a ha => ⟨g a, rfl, hout a ha⟩) fun a b hab => Or.inr ⟨g' b, rfl, hR a b hab⟩

end Outlasted

end Script

namespace Wasm

/-! ## The machine -/

/-- The execution has ended because the budget is used up. -/
def GaveOut (r : Outcome × Instance) : Prop := r.1 = .error Trap.outOfFuel.failure

/-- Two executions have ended in the same way. -/
def SameEnd (r r' : Outcome × Instance) : Prop := r.1 = r'.1 ∧ r.2.Richer r'.2

variable {i j : Instance}

/-- The same failure, or the same instance with a budget that is at least as large. -/
inductive Instance.SameOutcome : Except Failure Instance → Except Failure Instance → Prop
  | error (e : Failure) : SameOutcome (.error e) (.error e)
  | ok {i j : Instance} (h : i.Richer j) : SameOutcome (.ok i) (.ok j)

lemma Instance.Richer.program (h : i.Richer j) : j.program = i.program := by
  obtain ⟨f, -, rfl⟩ := h
  rfl

/-- Host functions cannot see the budget. -/
lemma Machine.Richer.caller {m n : Machine} (h : m.Richer n) : n.inst.caller = m.inst.caller := by
  obtain ⟨f, -, rfl⟩ := h
  rfl

/-- However many steps are taken. -/
theorem Step.run_outlasted {s t : Step} (h : s.Richer t) (n : Nat) :
    (Step.run n s).Outlasted GaveOut SameEnd (Step.run n t) := by
  induction n generalizing s t with
  | zero =>
      cases h with
      | spent i t => exact Or.inl rfl
      | next h => exact Or.inl rfl
      | calling link args h => exact Or.inl rfl
      | trapped trap h => exact Or.inr ⟨_, rfl, rfl, h⟩
      | finished vs h => exact Or.inr ⟨_, rfl, rfl, h⟩
      | stuck h => exact Or.inr ⟨_, rfl, rfl, h⟩
  | succ n ih =>
      cases h with
      | spent i t => exact Or.inl rfl
      | trapped trap h => exact Or.inr ⟨_, rfl, rfl, h⟩
      | finished vs h => exact Or.inr ⟨_, rfl, rfl, h⟩
      | stuck h => exact Or.inr ⟨_, rfl, rfl, h⟩
      | next h =>
          obtain ⟨f, hf, rfl⟩ := h
          exact ih (Machine.step_richer hf)
      | @calling link args m m' h =>
          have hcaller := h.caller
          obtain ⟨f, hf, rfl⟩ := h
          refine ⟨_, by rw [Step.run, hcaller], fun x => ?_⟩
          dsimp only
          cases x.bind (Val.ofResult link.type.results) with
          | error e => exact Or.inr ⟨_, rfl, rfl, f, hf, rfl⟩
          | ok vs => exact ih (.next ⟨f, hf, rfl⟩)

namespace Instance

lemma invoke_outlasted (h : i.Richer j) (index : Nat) (args : List Val) :
    (i.invoke index args).Outlasted GaveOut SameEnd (j.invoke index args) := by
  obtain ⟨f, hf, rfl⟩ := h
  refine Step.run_outlasted ?_ stepAllowance
  refine Machine.enter_richer (f := f) ?_ index args
  exact hf

/-- An instance of a valid module, made with a budget and with a larger one. -/
lemma ofModule_outlasted {m : Module} (hm : m.Plain) {f g : Option Nat} (h : AtMost f g) :
    (ofModule m f).Outlasted (· = .error Trap.outOfFuel.failure) SameOutcome (ofModule m g) := by
  unfold ofModule
  rw [prepared_refuel f hm, prepared_refuel g hm]
  cases prepared m none with
  | error t => exact Or.inr ⟨_, rfl, .error _⟩
  | ok i =>
      have hricher : (i.refuel f).Richer (i.refuel g) := ⟨g, h, rfl⟩
      dsimp only [Except.map]
      cases m.start with
      | none => exact Or.inr ⟨_, rfl, .ok hricher⟩
      | some index =>
          refine (invoke_outlasted hricher index []).map (fun r hr => ?_) fun r r' hr => ?_
          · obtain ⟨outcome, k⟩ := r
            obtain rfl : outcome = .error Trap.outOfFuel.failure := hr
            rfl
          · obtain ⟨outcome, k⟩ := r
            obtain ⟨outcome', k'⟩ := r'
            obtain ⟨rfl, hk⟩ := hr
            cases outcome with
            | error e => exact .error e
            | ok vs => exact .ok hk

end Instance

end Wasm

namespace WebAssembly

open Wasm

variable {α β : Type}

/-- The guard around host functions does not look at the budget either. -/
lemma guarded_outlasted {out : α → Prop} {R : α → β → Prop} {s : Script α} {t : Script β}
    (h : s.Outlasted out R t) : (guarded s).Outlasted out R (guarded t) := by
  induction s generalizing t with
  | done a =>
      rcases h with ha | ⟨b, rfl, hab⟩
      · exact Or.inl ha
      · exact Or.inr ⟨b, rfl, hab⟩
  | call q resume ih =>
      obtain ⟨more, rfl, hmore⟩ := h
      exact ⟨_, rfl, fun x => ih _ (hmore _)⟩

/-- **A valid module is instantiated** in the same way with a larger budget, unless the smaller one
gives out. -/
theorem instantiate_outlasted {m : Module} (hm : m.Plain) {fuel fuel' : Option Int}
    (h : AtMost (budget fuel) (budget fuel')) (table : ImportTable Binding) :
    (instantiate fuel m table).Outlasted (· = .error Trap.outOfFuel.failure)
      Instance.SameOutcome (instantiate fuel' m table) := by
  unfold instantiate
  cases checkImports m table with
  | error e => exact Or.inr ⟨_, rfl, .error e⟩
  | ok u => exact guarded_outlasted (Instance.ofModule_outlasted hm h)

variable {i j : Instance}

/-- Whether there is something to be called does not depend on the budget. -/
lemma hasEntry_of_richer (h : i.Richer j) (name : Text) : hasEntry j name = hasEntry i name := by
  obtain ⟨f, -, rfl⟩ := h
  rfl

/-- **An export is called** to the same effect with a larger budget, unless the smaller one gives
out. -/
theorem call_outlasted (h : i.Richer j) (name : Text) :
    (call i name).Outlasted (·.1 = .error Trap.outOfFuel.failure) (·.1 = ·.1) (call j name) := by
  have hfunc : exportedFunc? j name = exportedFunc? i name := by
    obtain ⟨f, -, rfl⟩ := h
    rfl
  have hsignature (f : Nat) : signature j f = signature i f := by
    rw [signature, signature, h.program]
  unfold call
  rw [hfunc]
  cases exportedFunc? i name with
  | none => exact Or.inr ⟨_, rfl, rfl⟩
  | some f =>
      dsimp only
      rw [hsignature]
      split_ifs
      · refine (guarded_outlasted (Instance.invoke_outlasted h f [])).map (fun r hr => ?_)
          fun r r' hr => ?_
        · obtain ⟨outcome, k⟩ := r
          obtain rfl : outcome = .error Trap.outOfFuel.failure := hr
          rfl
        · obtain ⟨outcome, k⟩ := r
          obtain ⟨outcome', k'⟩ := r'
          obtain ⟨rfl, -⟩ := hr
          rfl
      · exact Or.inr ⟨_, rfl, rfl⟩

end WebAssembly

end WatWorkbench
