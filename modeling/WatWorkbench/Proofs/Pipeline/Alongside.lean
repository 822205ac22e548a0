import WatWorkbench.Proofs.Pipeline.Operation
import WatWorkbench.Proofs.Pipeline.Running

/-!
# A run with and without nested calls, side by side

While a pipeline runs its artifact, host functions may call the pipeline again.  Here such a run is
compared with one in which the nested calls are left out.  The two worlds drift apart on the way: a
nested call changes what the pipeline holds before it is refused, and emptying the log empties it in
one of them only.

* `Notes` — what is noted on the way: how nested calls ended, and what the log held in the other run
  when it was emptied in this one.
* `Pipeline.Agree` — how far the two worlds have drifted apart at most.
* `Pipeline.Simulates` — two actions lead from such worlds to the same outcome and to such worlds.
* `Pipeline.Oblivious` — an action that cannot tell the two worlds apart.
* **`perform_refused`** — what becomes of a nested call.
-/

namespace WatWorkbench

variable {M I H α β : Type}

/-- What host functions keep for themselves, with notes on nested calls. -/
structure Notes (H : Type) where
  own : H
  /-- How nested calls ended, in their order. -/
  outcomes : List (Pipeline.Request × Except Failure Unit) := []
  /-- What the log held when a call that empties it was last left out. -/
  cleared : Option (List LogEntry) := none

/-- What a host function does with what it keeps for itself. -/
def Notes.keep (change : H → α × H) : Act (World M I (Notes H)) α := fun w =>
  let (a, own) := change w.host.own
  (.ok a, { w with host := { w.host with own } })

namespace Pipeline

variable (p : Pipeline M I)

/-! ## Nested calls -/

/-- How a nested call ends.  Only emptying the log does not need the channel, and an example that
there is not is noticed before. -/
def refusal : Request → Except Failure Unit
  | .clearLogs => .ok ()
  | .loadExample key =>
    match Catalog.find key with
    | .ok _ => .error (.captured p.channel)
    | .error e => .error e
  | _ => .error (.captured p.channel)

/-- The key of an example that there is not is absent. -/
lemma refusal_of_unknown {key : Text} (h : Catalog.find? key = none) :
    p.refusal (.loadExample (.text key)) = .error (.absent (.text key)) := by
  have hfind : Catalog.find (.text key) = .error (.absent (.text key)) := by
    simp [Catalog.find, Value.isHashable, h]
  rw [refusal, hfind]

/-- What a refused call changes: what the pipeline holds, apart from the artifact, and the supply of
numbers. -/
structure Disturbed (w v : World M I H) : Prop where
  logs : ∃ next, v.logs = { w.logs with next }
  files : v.files = w.files
  histories : v.histories = w.histories
  host : v.host = w.host
  sessions : ∀ n, n ≠ p.id → v.sessions n = w.sessions n
  artifact : (v.sessions p.id).artifact = (w.sessions p.id).artifact

variable {p}

lemma Disturbed.refl (w : World M I H) : p.Disturbed w w :=
  ⟨⟨_, rfl⟩, rfl, rfl, rfl, fun _ _ => rfl, rfl⟩

lemma disturbed_withSession (w : World M I H) (change : Session M → Session M)
    (h : (change (w.sessions p.id)).artifact = (w.sessions p.id).artifact) :
    p.Disturbed w (w.withSession p.id change) :=
  ⟨⟨_, rfl⟩, rfl, rfl, rfl, fun _ hn => World.withSession_sessions_of_ne _ _ hn, by simpa using h⟩

lemma disturbed_compileStarted (w : World M I H) : p.Disturbed w (p.compileStarted w) :=
  ⟨⟨_, rfl⟩, rfl, rfl, rfl, fun _ hn => if_neg hn, by simp [compileStarted]⟩

/-- **What becomes of a nested call.**  While the channel is being captured every call but one that
empties the log is refused, and all that it has changed by then is what the pipeline holds. -/
theorem perform_refused {w : World M I H} {a : Artifact M} (hheld : p.channel ∈ w.logs.captured)
    (ha : (w.sessions p.id).artifact = some a) (op : Operation (World M I H))
    (hop : op.request ≠ .clearLogs) :
    ∃ v, perform p op w = (p.refusal op.request, v) ∧ p.Disturbed w v := by
  obtain ⟨request, imports⟩ := op
  cases request with
  | compile source =>
      rw [perform_compile, p.compile_of_held source w hheld]
      exact ⟨_, rfl, disturbed_compileStarted w⟩
  | run =>
      rw [perform_run, p.run_of_held imports ha hheld]
      refine ⟨_, rfl, ?_⟩
      exact disturbed_withSession w ({ · with state := .running }) rfl
  | compileAndRun source =>
      rw [perform_compileAndRun, run_compileAndRun, p.compile_of_held source w hheld]
      exact ⟨_, rfl, disturbed_compileStarted w⟩
  | package path =>
      refine ⟨w, ?_, .refl w⟩
      simp only [perform, package, World.run_bind, p.requireArtifact_of_some ha,
        captured, World.capturing_of_mem hheld, refusal]
  | loadExample key =>
      refine ⟨w, ?_, .refl w⟩
      simp only [perform, loadExample, World.run_bind, World.run_settle, refusal]
      cases Catalog.find key with
      | error e => rfl
      | ok found => simp only [captured, World.capturing_of_mem hheld]
  | clearLogs => exact absurd rfl hop

/-! ## Drifting apart -/

variable (p)

/-- A nested call.  How it ends is noted and does not matter. -/
def called (op : Operation (World M I (Notes H))) : Act (World M I (Notes H)) Unit := fun w =>
  let (outcome, v) := perform p op w
  let outcomes := v.host.outcomes ++ [(op.request, outcome)]
  (.ok (), { v with host := { v.host with outcomes } })

/-- A nested call that is left out.  Where the log would have been emptied, what it holds is
noted. -/
def skipped (op : Operation (World M I (Notes H))) : Act (World M I (Notes H)) Unit := fun w =>
  match op.request with
  | .clearLogs =>
    let cleared := some (w.logs.books p.id).entries
    (.ok (), { w with host := { w.host with cleared } })
  | _ => (.ok (), w)

/-- How far the worlds of two runs have drifted apart, of which the second one leaves out the nested
calls of the first one.  What the pipeline holds may be different, apart from the artifact, and so
may the supply of numbers. -/
structure Agree (w v : World M I (Notes H)) : Prop where
  held : p.channel ∈ w.logs.captured
  /-- The log of the second run also has what it held when the first one was emptied. -/
  logs : w.logs.Alongside p.id (v.host.cleared.getD []) v.logs
  files : w.files = v.files
  histories : w.histories = v.histories
  sessions : ∀ n, n ≠ p.id → w.sessions n = v.sessions n
  present : (w.sessions p.id).artifact ≠ none
  artifact : (w.sessions p.id).artifact = (v.sessions p.id).artifact
  own : w.host.own = v.host.own
  outcomes : ∀ o ∈ w.host.outcomes, o.2 = p.refusal o.1
  /-- The log has been emptied if one of them was to empty it. -/
  cleared : v.host.cleared ≠ none ↔ ∃ o ∈ w.host.outcomes, o.1 = .clearLogs

/-- Two actions have the same outcome in such worlds and do not drive them further apart. -/
def Simulates (act act' : Act (World M I (Notes H)) α) : Prop :=
  ∀ w v, p.Agree w v → (act w).1 = (act' v).1 ∧ p.Agree (act w).2 (act' v).2

/-- An action cannot tell such worlds apart: it does not look at what a nested call may have
changed. -/
def Oblivious (act : Act (World M I (Notes H)) α) : Prop := p.Simulates act act

variable {p}

/-- A refused call does not drive the worlds further apart. -/
lemma Agree.disturbed {w w' v : World M I (Notes H)} (h : p.Agree w v) (hw : p.Disturbed w w') :
    p.Agree w' v := by
  obtain ⟨⟨next, hlogs⟩, hfiles, hhistories, hhost, hsessions, hartifact⟩ := hw
  refine ⟨?_, ?_, ?_, ?_, ?_, ?_, ?_, ?_, ?_, ?_⟩
  · rw [hlogs]; exact h.held
  · rw [hlogs]
    exact ⟨h.logs.tree, h.logs.captured, h.logs.books, h.logs.log, h.logs.recordings,
      h.logs.errorLines⟩
  · rw [hfiles]; exact h.files
  · rw [hhistories]; exact h.histories
  · exact fun n hn => (hsessions n hn).trans (h.sessions n hn)
  · rw [hartifact]; exact h.present
  · rw [hartifact]; exact h.artifact
  · rw [hhost]; exact h.own
  · rw [hhost]; exact h.outcomes
  · rw [hhost]; exact h.cleared

/-- A refusal may be noted. -/
lemma Agree.noted {w v : World M I (Notes H)} (h : p.Agree w v) {request : Request}
    (hrequest : request ≠ .clearLogs) :
    p.Agree { w with host := { w.host with
      outcomes := w.host.outcomes ++ [(request, p.refusal request)] } } v := by
  refine ⟨h.held, h.logs, h.files, h.histories, h.sessions, h.present, h.artifact, h.own, ?_, ?_⟩
  · intro o ho
    rcases List.mem_append.mp ho with ho | ho
    · exact h.outcomes o ho
    · obtain rfl := List.mem_singleton.mp ho
      rfl
  · refine h.cleared.trans ⟨fun ⟨o, ho, hc⟩ => ⟨o, List.mem_append_left _ ho, hc⟩, ?_⟩
    rintro ⟨o, ho, hc⟩
    rcases List.mem_append.mp ho with ho | ho
    · exact ⟨o, ho, hc⟩
    · obtain rfl := List.mem_singleton.mp ho
      exact absurd hc hrequest

/-- After the log has been emptied in one run, what it holds in the other one is all earlier. -/
lemma Agree.emptied {w v : World M I (Notes H)} (h : p.Agree w v)
    (imports : ImportTable (Import (World M I (Notes H)))) :
    p.Agree (p.called ⟨.clearLogs, imports⟩ w).2 (p.skipped ⟨.clearLogs, imports⟩ v).2 := by
  have hrun : p.called ⟨.clearLogs, imports⟩ w = (.ok (),
      { (w.withBook p.id (·.clear)).withSession p.id ({ · with output := "" }) with
        host := { w.host with outcomes := w.host.outcomes ++ [(.clearLogs, .ok ())] } }) := rfl
  have hskip : p.skipped ⟨.clearLogs, imports⟩ v = (.ok (),
      { v with host := { v.host with cleared := some (v.logs.books p.id).entries } }) := rfl
  rw [hrun, hskip]
  refine ⟨h.held, ⟨h.logs.tree, h.logs.captured, fun n hn => ?_, ?_, h.logs.recordings,
    h.logs.errorLines⟩, h.files, h.histories, fun n hn => ?_, ?_, ?_, h.own, ?_, ?_⟩
  · exact (if_neg hn).trans (h.logs.books n hn)
  · simp [World.withBook, LogState.setBook, LogState.assign, LogBook.clear]
  · exact (if_neg hn).trans (h.sessions n hn)
  · simpa using h.present
  · simpa using h.artifact
  · intro o ho
    rcases List.mem_append.mp ho with ho | ho
    · exact h.outcomes o ho
    · obtain rfl := List.mem_singleton.mp ho
      rfl
  · exact iff_of_true (by simp) ⟨_, List.mem_append_right _ List.mem_cons_self, rfl⟩

/-- A call and the same call left out. -/
lemma simulates_called (op : Operation (World M I (Notes H))) :
    p.Simulates (p.called op) (p.skipped op) := by
  intro w v h
  -- emptying the log is the one call that goes through
  by_cases hop : op.request = .clearLogs
  · obtain ⟨request, imports⟩ := op
    cases hop
    exact ⟨rfl, h.emptied imports⟩
  · obtain ⟨a, ha⟩ := Option.ne_none_iff_exists'.mp h.present
    obtain ⟨w', hrun, hdisturbed⟩ := perform_refused h.held ha op hop
    have hskipped : p.skipped op v = (.ok (), v) := by
      unfold skipped
      split
      · next hreq => exact absurd hreq hop
      · rfl
    rw [hskipped]
    simp only [called, hrun]
    exact ⟨trivial, (h.disturbed hdisturbed).noted hop⟩

/-! ## Actions side by side -/

namespace Simulates

protected lemma pure (a : α) : p.Simulates (H := H) (pure a) (pure a) := fun _ _ h => ⟨rfl, h⟩

protected lemma throw (e : Failure) : p.Simulates (α := α) (H := H) (throw e) (throw e) :=
  fun _ _ h => ⟨rfl, h⟩

protected lemma settle (r : Except Failure α) :
    p.Simulates (H := H) (World.settle r) (World.settle r) := fun _ _ h => ⟨rfl, h⟩

protected lemma attempt {act act' : Act (World M I (Notes H)) α} (h : p.Simulates act act') :
    p.Simulates (World.attempt act) (World.attempt act') := by
  intro w v hw
  obtain ⟨hfst, hsnd⟩ := h w v hw
  rw [World.run_attempt, World.run_attempt, hfst]
  exact ⟨rfl, hsnd⟩

protected lemma bind {act act' : Act (World M I (Notes H)) α}
    {next next' : α → Act (World M I (Notes H)) β} (h : p.Simulates act act')
    (hnext : ∀ a, p.Simulates (next a) (next' a)) :
    p.Simulates (act >>= next) (act' >>= next') := by
  intro w v hw
  obtain ⟨hfst, hsnd⟩ := h w v hw
  rw [World.run_bind, World.run_bind]
  rcases hact : act w with ⟨r, w'⟩
  rcases hact' : act' v with ⟨r', v'⟩
  rw [hact, hact'] at hfst hsnd
  obtain rfl : r = r' := hfst
  cases r with
  | error e => exact ⟨rfl, hsnd⟩
  | ok a => exact hnext a w' v' hsnd

/-- Whether a record is written does not depend on what the log holds. -/
protected lemma write (r : LogRecord) :
    p.Simulates (H := H) (World.write r) (World.write r) := by
  intro w v h
  rw [World.run_write, World.run_write]
  exact ⟨rfl, by simpa using h.held, h.logs.write r, h.files, h.histories, h.sessions, h.present,
    h.artifact, h.own, h.outcomes, h.cleared⟩

/-- Neither does what the engine is asked. -/
protected lemma ask (id : Nat) (c : EngineCall M I) :
    p.Simulates (H := H) (World.ask id c) (World.ask id c) := by
  intro w v h
  rw [World.run_ask, World.run_ask]
  refine ⟨by rw [h.histories], h.held, h.logs, h.files, ?_, h.sessions, h.present, h.artifact,
    h.own, h.outcomes, h.cleared⟩
  simp only [World.asked, h.histories]

/-- Nor what a host function does with what it keeps for itself. -/
protected lemma keep (change : H → α × H) :
    p.Simulates (Notes.keep change) (Notes.keep change) := by
  intro w v h
  exact ⟨by simp only [Notes.keep, h.own], h.held, h.logs, h.files, h.histories, h.sessions,
    h.present, h.artifact, by simp only [Notes.keep, h.own], h.outcomes, h.cleared⟩

/-- Nor what it does with files. -/
protected lemma onFiles (change : FileSystem → Except Failure α × FileSystem) :
    p.Simulates (H := H) (World.onFiles change) (World.onFiles change) := by
  intro w v h
  exact ⟨by simp only [World.onFiles, h.files], h.held, h.logs,
    by simp only [World.onFiles, h.files], h.histories, h.sessions, h.present, h.artifact, h.own,
    h.outcomes, h.cleared⟩

/-- Scripts whose calls are answered side by side. -/
protected lemma runScript {table table' : ImportTable (Import (World M I (Notes H)))}
    (h : ∀ q, p.Simulates (World.answer table q) (World.answer table' q))
    (s : Script (Except Failure α)) :
    p.Simulates (World.runScript table s) (World.runScript table' s) := by
  show ∀ w v, p.Agree w v → (s.run (World.answer table) w).1 = (s.run (World.answer table') v).1 ∧
    p.Agree (s.run (World.answer table) w).2 (s.run (World.answer table') v).2
  induction s with
  | done r => exact fun w v hw => ⟨rfl, hw⟩
  | call q resume ih =>
      intro w v hw
      obtain ⟨hfst, hsnd⟩ := h q w v hw
      simp only [Script.run, bind, StateT.bind]
      rcases hq : World.answer table q w with ⟨x, w'⟩
      rcases hq' : World.answer table' q v with ⟨x', v'⟩
      rw [hq, hq'] at hfst hsnd
      obtain rfl : x = x' := hfst
      exact ih x w' v' hsnd

end Simulates

end Pipeline

end WatWorkbench
