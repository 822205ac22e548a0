import Mathlib.Logic.Function.Basic
import Mathlib.Tactic.Common
import WatWorkbench.Log.Capture

/-!
# Several interceptors over one logging state

An interceptor knows whether it is active, and the logging state has a list of the channels that
are being captured.  The two records are kept apart, and every call has to keep them in step.  This
file puts a family of interceptors over one logging state and says once what a call does to both.

* `Interceptors` — the family with its logging state, and `Interceptors.call`, one call.
* `Interceptors.after` — the family after calls, one after another.
* `enter_of_mem`, `enter_of_notMem`, `leave` lemmas — what a call does to the list of channels and
  to who is active.  Later proofs use these and never look inside a call.
-/

namespace WatWorkbench

namespace Interceptor

/-! ## One interceptor -/

/-- A channel on the list is refused, and nothing changes. -/
lemma enter_of_mem {i : Interceptor} {s : LogState} (h : i.channel ∈ s.captured) :
    i.enter s = .error (.captured i.channel) := by
  rw [enter, if_pos h]

/-- A channel that is not on the list is put there, and the interceptor is active. -/
lemma enter_of_notMem {i : Interceptor} {s : LogState} (h : i.channel ∉ s.captured) :
    ∃ j t, i.enter s = .ok (j, t) ∧ j.isActive = true ∧ j.channel = i.channel ∧
      t.captured = i.channel :: s.captured := by
  simp only [enter, if_neg h]
  split
  · exact ⟨_, _, rfl, rfl, rfl, rfl⟩
  · exact ⟨_, _, rfl, rfl, rfl, rfl⟩

/-- The channel's name goes off the list, whether or not the interceptor was active. -/
lemma mem_leave_captured {i : Interceptor} {s : LogState} {c : Text} :
    c ∈ (i.leave s).2.captured ↔ c ∈ s.captured ∧ c ≠ i.channel := by
  simp [leave, List.mem_filter]

end Interceptor

/-! ## A family of interceptors -/

/-- Interceptors, told apart by `ι`, and the logging state that they share. -/
structure Interceptors (ι : Type) where
  logs : LogState
  member : ι → Interceptor

namespace Interceptors

/-- A call of one of the interceptors. -/
inductive Call (ι : Type) where
  | enter (i : ι)
  | leave (i : ι)
  deriving DecidableEq

variable {ι : Type}

/-- Interceptors that have just been made, when no channel is being captured. -/
def start (logs : LogState) (book : ι → Nat) (channel : ι → Text) : Interceptors ι where
  logs := { logs with captured := [] }
  member i := { book := book i, channel := channel i }

/-- Whether an interceptor is active. -/
def Active (s : Interceptors ι) (i : ι) : Prop := (s.member i).isActive = true

instance (s : Interceptors ι) (i : ι) : Decidable (s.Active i) :=
  inferInstanceAs (Decidable (_ = true))

/-- The channel of an interceptor. -/
def channel (s : Interceptors ι) (i : ι) : Text := (s.member i).channel

/-- Some active interceptor has the channel. -/
def Held (s : Interceptors ι) (c : Text) : Prop := ∃ i, s.Active i ∧ s.channel i = c

variable [DecidableEq ι]

/-- Carries out a call.  One that is refused changes nothing. -/
def call (s : Interceptors ι) : Call ι → Except Failure Unit × Interceptors ι
  | .enter i =>
    match (s.member i).enter s.logs with
    | .ok (j, logs) => (.ok (), ⟨logs, Function.update s.member i j⟩)
    | .error e => (.error e, s)
  | .leave i =>
    let (j, logs) := (s.member i).leave s.logs
    (.ok (), ⟨logs, Function.update s.member i j⟩)

/-- The interceptors after calls, one after another. -/
def after (s : Interceptors ι) (calls : List (Call ι)) : Interceptors ι :=
  calls.foldl (fun s c => (s.call c).2) s

@[simp] lemma after_nil (s : Interceptors ι) : s.after [] = s := rfl

@[simp] lemma after_cons (s : Interceptors ι) (c : Call ι) (calls : List (Call ι)) :
    s.after (c :: calls) = (s.call c).2.after calls := rfl

@[simp] lemma after_append (s : Interceptors ι) (as bs : List (Call ι)) :
    s.after (as ++ bs) = (s.after as).after bs := List.foldl_append

/-! ## What a call does -/

section Calls

variable {s : Interceptors ι} {i j : ι} {c : Text}

/-- Entering is refused on a channel that is on the list. -/
lemma call_enter_of_mem (h : s.channel i ∈ s.logs.captured) :
    s.call (.enter i) = (.error (.captured (s.channel i)), s) := by
  simp only [call, Interceptor.enter_of_mem h, channel]

/-- Entering succeeds on a channel that is not on the list, which then is. -/
lemma call_enter_of_notMem (h : s.channel i ∉ s.logs.captured) :
    ∃ t, s.call (.enter i) = (.ok (), t) ∧ t.logs.captured = s.channel i :: s.logs.captured ∧
      (∀ j, t.channel j = s.channel j) ∧ ∀ j, t.Active j ↔ j = i ∨ s.Active j := by
  obtain ⟨k, logs, hk, hactive, hchannel, hlogs⟩ := Interceptor.enter_of_notMem h
  refine ⟨⟨logs, Function.update s.member i k⟩, ?_, hlogs, ?_, ?_⟩
  · simp only [call, hk]
  · intro j
    by_cases hj : j = i
    · subst hj; simp [channel, hchannel]
    · simp [channel, hj]
  · intro j
    by_cases hj : j = i
    · subst hj; simp [Active, hactive]
    · simp [Active, hj]

/-- Leaving takes the channel off the list, and the one that leaves is not active any more. -/
lemma call_leave (s : Interceptors ι) (i : ι) :
    ∃ t, s.call (.leave i) = (.ok (), t) ∧
      (∀ c, c ∈ t.logs.captured ↔ c ∈ s.logs.captured ∧ c ≠ s.channel i) ∧
      (∀ j, t.channel j = s.channel j) ∧ ∀ j, t.Active j ↔ j ≠ i ∧ s.Active j := by
  refine ⟨_, rfl, fun c => Interceptor.mem_leave_captured, ?_, ?_⟩
  · intro j
    by_cases hj : j = i
    · subst hj; simp [channel]
    · simp [channel, hj]
  · intro j
    by_cases hj : j = i
    · subst hj; simp [Active, Interceptor.isActive]
    · simp [Active, hj]

/-- No call changes what an interceptor captures. -/
@[simp] lemma channel_call (s : Interceptors ι) (c : Call ι) (j : ι) :
    (s.call c).2.channel j = s.channel j := by
  cases c with
  | enter i =>
      by_cases h : s.channel i ∈ s.logs.captured
      · rw [call_enter_of_mem h]
      · obtain ⟨t, ht, -, hchannel, -⟩ := call_enter_of_notMem h
        rw [ht, hchannel]
  | leave i =>
      obtain ⟨t, ht, -, hchannel, -⟩ := call_leave s i
      rw [ht, hchannel]

@[simp] lemma channel_after (s : Interceptors ι) (calls : List (Call ι)) (j : ι) :
    (s.after calls).channel j = s.channel j := by
  induction calls generalizing s with
  | nil => rfl
  | cons c cs ih => rw [after_cons, ih, channel_call]

end Calls

end Interceptors

end WatWorkbench
