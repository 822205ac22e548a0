import WatWorkbench.Engine.Script
import Mathlib.Tactic.Common

/-!
# The calls that scripts make

A script is run from a state of whatever its host functions act on.  What it calls depends on what
came of the calls before, so the calls of a run are followed through the states.

* `Script.trace` — the calls of a run, each with what came of it; `Script.visits` — each with the
  state that it is made in.
* `Script.Gives` — whatever comes of its calls, the script's result has a property;
  `Script.Conveys` — it has one as long as the values that its calls give do.
* `Script.Reports` — the script fails for no other reason than that a call slips, and then at once.
* `Script.Reports.run` — so a run of it has failed exactly if its last call has slipped.
-/

namespace WatWorkbench.Script

variable {α β W : Type} (answer : HostCall → StateM W (Except Failure Value))

/-- The calls of a run, first to last, each with what came of it. -/
def trace : Script α → W → List (HostCall × Except Failure Value)
  | done _, _ => []
  | call q resume, w =>
    (q, (answer q w).1) :: trace (resume (answer q w).1) (answer q w).2

/-- The calls of a run, first to last, each with the state that it is made in. -/
def visits : Script α → W → List (HostCall × W)
  | done _, _ => []
  | call q resume, w => (q, w) :: visits (resume (answer q w).1) (answer q w).2

/-- What comes of a call is what is answered in the state that it is made in. -/
lemma trace_eq_map_visits (s : Script α) (w : W) :
    s.trace answer w = (s.visits answer w).map fun c => (c.1, (answer c.1 c.2).1) := by
  induction s generalizing w with
  | done a => rfl
  | call q resume ih => rw [trace, visits, ih, List.map_cons]

@[simp] lemma run_done (a : α) (w : W) : (done a).run answer w = (a, w) := rfl

@[simp] lemma run_call (q : HostCall) (resume : Except Failure Value → Script α) (w : W) :
    (call q resume).run answer w = (resume (answer q w).1).run answer (answer q w).2 := rfl

/-! ## Results -/

/-- Whatever comes of its calls, the script's result has a property. -/
def Gives (P : α → Prop) : Script α → Prop
  | done a => P a
  | call _ resume => ∀ x, Gives P (resume x)

namespace Gives

variable {P : α → Prop} {Q : β → Prop} {s : Script α}

protected lemma run (h : s.Gives P) (w : W) : P (s.run answer w).1 := by
  induction s generalizing w with
  | done a => exact h
  | call q resume ih => exact ih _ (h _) _

protected lemma bind (h : s.Gives P) {next : α → Script β} (hnext : ∀ a, P a → (next a).Gives Q) :
    (s.bind next).Gives Q := by
  induction s with
  | done a => exact hnext a h
  | call q resume ih => exact fun x => ih x (h x)

end Gives

/-- As long as the values that its calls give have a property, those that it calls with have it too,
and the script's result has another one. -/
def Conveys (P : Value → Prop) (Q : α → Prop) : Script α → Prop
  | done a => Q a
  | call q resume => (∀ v ∈ q.args, P v) ∧
      ∀ x, (∀ v, x = .ok v → P v) → Conveys P Q (resume x)

namespace Conveys

variable {P : Value → Prop} {Q : α → Prop} {R : β → Prop} {s : Script α}

/-- A run, if the calls give values with the property whenever they are made with such. -/
protected lemma run (h : s.Conveys P Q)
    (hanswer : ∀ q w v, (∀ u ∈ q.args, P u) → (answer q w).1 = .ok v → P v) (w : W) :
    Q (s.run answer w).1 := by
  induction s generalizing w with
  | done a => exact h
  | call q resume ih => exact ih _ (h.2 _ fun v hv => hanswer q w v h.1 hv) _

protected lemma bind (h : s.Conveys P Q) {next : α → Script β}
    (hnext : ∀ a, Q a → (next a).Conveys P R) : (s.bind next).Conveys P R := by
  induction s with
  | done a => exact hnext a h
  | call q resume ih => exact ⟨h.1, fun x hx => ih x (h.2 x hx)⟩

end Conveys

/-! ## Failures -/

/-- Whatever comes of its calls, the script does not fail as long as no call slips, and once a call
slips it ends with the failure that this is. -/
def Reports (failure : α → Option Failure)
    (slip : HostCall → Except Failure Value → Option Failure) : Script α → Prop
  | done a => failure a = none
  | call q resume => ∀ x, match slip q x with
    | none => Reports failure slip (resume x)
    | some f => ∃ a, resume x = done a ∧ failure a = some f

namespace Reports

variable {failure : α → Option Failure} {failure' : β → Option Failure}
  {slip : HostCall → Except Failure Value → Option Failure} {s : Script α}

/-- **A run** has failed exactly if its last call has slipped, and then with that failure. -/
protected theorem run (h : s.Reports failure slip) (w : W) :
    failure (s.run answer w).1 = (s.trace answer w).getLast?.bind fun c => slip c.1 c.2 := by
  induction s generalizing w with
  | done a => exact h
  | call q resume ih =>
      have hcall := h (answer q w).1
      rw [run_call, trace, List.getLast?_cons]
      cases hslip : slip q (answer q w).1 with
      | some f =>
          rw [hslip] at hcall
          obtain ⟨a, hdone, hfails⟩ := hcall
          rw [hdone]
          exact hfails.trans hslip.symm
      | none =>
          rw [hslip] at hcall
          rw [ih _ hcall]
          -- a run without further calls has this one for its last, which has not slipped
          cases (trace answer (resume (answer q w).1) (answer q w).2).getLast? with
          | none => exact hslip.symm
          | some c => rfl

/-- What is made of the result at the end does not matter, if it fails in the same way. -/
protected lemma map (h : s.Reports failure slip) {g : α → β}
    (hg : ∀ a, failure' (g a) = failure a) :
    (s.bind fun a => done (g a)).Reports failure' slip := by
  induction s with
  | done a => exact (hg a).trans h
  | call q resume ih =>
      intro x
      have hcall := h x
      cases hslip : slip q x with
      | none =>
          rw [hslip] at hcall
          exact ih x hcall
      | some f =>
          rw [hslip] at hcall
          obtain ⟨a, hdone, hfails⟩ := hcall
          refine ⟨g a, ?_, (hg a).trans hfails⟩
          show (resume x).bind _ = _
          rw [hdone]
          rfl

end Reports

end WatWorkbench.Script
