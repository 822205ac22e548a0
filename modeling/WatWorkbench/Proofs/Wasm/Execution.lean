import WatWorkbench.Wasm.Instantiation
import Mathlib.Tactic.Common

/-!
# What stays the same during execution

Whatever a machine does to its memories, tables and variables, the program that it executes stays
the same, so that the only host functions ever called are those that the module was linked with, at
the types it gave them.

* `Step.Within` — what comes of a step while a program is executed; `Machine.step_within` — every
  step is such.
* `Instance.program_prepared` — a new instance is one of its module's program.
-/

namespace WatWorkbench.Wasm

/-! ## Steps -/

/-- What comes of a step while a program is executed: the instance is still one of that program, and
a host function that is called is one of its links. -/
def Step.Within (p : Program) : Step → Prop
  | .next m => m.inst.program = p
  | .trapped _ i | .finished _ i | .stuck i => i.program = p
  | .calling link _ m => link ∈ p.links ∧ m.inst.program = p

namespace Machine

variable {m : Machine} {p : Program} (h : m.inst.program = p)

include h

lemma enter_within (index : Nat) (args : List Val) : (m.enter index args).Within p := by
  subst h
  unfold enter
  dsimp only
  split
  case h_1 link hlink => exact ⟨Array.mem_of_getElem? hlink, rfl⟩
  case h_2 => repeat' first | rfl | split

lemma call_within (index : Nat) : (m.call index).Within p := by
  apply enter_within
  exact h

lemma leave_within : m.leave.Within p := by
  unfold leave
  cases m.callers <;> exact h

lemma tailCall_within (index : Nat) : (m.tailCall index).Within p := by
  unfold tailCall
  dsimp only
  repeat' first | exact h | apply enter_within | split

lemma turn_within : m.turn.Within p := by
  unfold turn
  split <;> exact h

lemma branch_within (n : Nat) : (m.branch n).Within p := by
  unfold branch
  dsimp only
  repeat' first | exact h | apply leave_within | apply turn_within | split

lemma close_within : m.close.Within p := by
  unfold close
  dsimp only
  repeat' first | exact h | apply leave_within | split

lemma storing_within (index : Nat) (memory : Option Memory) (stack : List Val) :
    (m.storing index memory stack).Within p := by
  cases memory <;> exact h

lemma tabling_within (index : Nat) (table : Option Table) (stack : List Val) :
    (m.tabling index table stack).Within p := by
  cases table <;> exact h

lemma onMemory_within (i : Instr) : (m.onMemory i).Within p := by
  unfold onMemory
  dsimp only
  repeat' first | exact h | apply storing_within | split

lemma onTable_within (i : Instr) : (m.onTable i).Within p := by
  unfold onTable
  dsimp only
  repeat' first | exact h | apply tabling_within | split

/-- An instruction changes operands, variables and memories, or hands over to one of the above. -/
lemma execute_within (i : Instr) : (m.execute i).Within p := by
  unfold execute
  dsimp only
  split
  all_goals repeat' first
    | exact h
    | apply turn_within
    | apply branch_within
    | apply leave_within
    | apply call_within
    | apply tailCall_within
    | apply storing_within
    | apply onMemory_within
    | apply onTable_within
    | split

/-- **Every step** stays within the program. -/
theorem step_within : m.step.Within p := by
  unfold step
  split
  · exact close_within h
  · apply execute_within
    exact h

end Machine

/-! ## New instances -/

namespace Instance

variable {i j : Instance}

lemma program_useElem {e : Elem × Nat} (h : i.useElem e = .ok j) : j.program = i.program := by
  unfold useElem at h
  dsimp only at h
  repeat' first | cases h <;> rfl | split at h

lemma program_useData {d : Data × Nat} (h : i.useData d = .ok j) : j.program = i.program := by
  unfold useData at h
  dsimp only at h
  repeat' first | cases h <;> rfl | split at h

/-- What each step of a fold that may fail keeps, the fold keeps. -/
lemma foldlM_keeps {α : Type} {P : Instance → Prop} {use : Instance → α → Except Trap Instance}
    (huse : ∀ i a j, P i → use i a = .ok j → P j) (as : List α) {i j : Instance} (hi : P i)
    (h : as.foldlM use i = .ok j) : P j := by
  induction as generalizing i with
  | nil => cases h; exact hi
  | cons a as ih =>
      rw [List.foldlM_cons] at h
      cases hstep : use i a with
      | error t => rw [hstep] at h; cases h
      | ok k =>
          rw [hstep] at h
          exact ih (huse i a k hi hstep) h

lemma program_blank (m : Module) (fuel : Option Nat) : (blank m fuel).program = .ofModule m := by
  have htables (ts : List TableDef) (i : Instance) : (ts.foldl addTable i).program = i.program := by
    induction ts generalizing i with
    | nil => rfl
    | cons t ts ih => exact ih _
  have hglobals (gs : List Global) (i : Instance) : (gs.foldl addGlobal i).program = i.program := by
    induction gs generalizing i with
    | nil => rfl
    | cons g gs ih => exact ih _
  simp only [blank, hglobals, htables]

/-- A new instance is one of the program of its module. -/
lemma program_prepared {m : Module} {fuel : Option Nat} (h : prepared m fuel = .ok i) :
    i.program = .ofModule m := by
  unfold prepared at h
  cases helems : m.elems.zipIdx.foldlM useElem (blank m fuel) with
  | error t => rw [helems] at h; cases h
  | ok j =>
      rw [helems] at h
      have hused := foldlM_keeps (P := (·.program = .ofModule m))
        (fun _ _ _ hi he => (program_useElem he).trans hi) _ (program_blank m fuel) helems
      exact foldlM_keeps (P := (·.program = .ofModule m))
        (fun _ _ _ hi hd => (program_useData hd).trans hi) _ hused h

end Instance

end WatWorkbench.Wasm
