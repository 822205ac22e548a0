import WatWorkbench.Proofs.Pipeline.Compilation

/-!
# What running does

Running calls host functions, which may do anything, so what becomes of the world is told around
them: what is done before the module is run and what is done with its outcome.

* `Results.text_eq_error` — results are written out unless they hold a very long integer.
* `Pipeline.runFinished` — what is done with the outcome of a module.
* `Pipeline.run_of_absent`, `run_of_held`, `run_of_free` — running without an artifact, on a channel
  that is being captured, and on one that is free.
-/

namespace WatWorkbench

/-! ## Results -/

/-- What fails for a list fails for one of its members. -/
lemma mapM_eq_error {α β : Type} {f : α → Except Failure β} {l : List α} {e : Failure}
    (h : l.mapM f = .error e) : ∃ x ∈ l, f x = .error e := by
  induction l with
  | nil => cases h
  | cons x l ih =>
      rw [List.mapM_cons] at h
      rcases hx : f x with d | b
      · rw [hx] at h
        cases h
        exact ⟨x, List.mem_cons_self, hx⟩
      · rcases hl : l.mapM f with d | bs
        · rw [hx, hl] at h
          cases h
          obtain ⟨y, hy, hfails⟩ := ih hl
          exact ⟨y, List.mem_cons_of_mem _ hy, hfails⟩
        · rw [hx, hl] at h; cases h

/-- Nothing but a very long integer keeps results from being written out. -/
lemma Results.text_eq_error {r : Results} {e : Failure} (h : r.text = .error e) : e = tooLong := by
  unfold Results.text at h
  split_ifs at h
  generalize hlines : (List.mapM _ r : Except Failure (List Text)) = lines at h
  rcases lines with d | lines
  · cases h
    obtain ⟨x, -, hx⟩ := mapM_eq_error hlines
    dsimp only at hx
    split_ifs at hx
    exact (Except.error.inj hx).symm
  · cases h

/-- A single result that is short enough is written out. -/
lemma Results.text_singleton (name : Text) {v : Value} (h : v.isSpellable) :
    Results.text [(name, v)] = .ok (Text.join "\n" [name ++ ": " ++ v.plain]) := by
  simp only [Results.text, List.isEmpty_cons, List.mapM_cons, List.mapM_nil, h]
  rfl

namespace Pipeline

variable {M I H : Type} (p : Pipeline M I)

/-! ## The artifact -/

lemma requireArtifact_of_some {w : World M I H} {a : Artifact M}
    (h : (w.sessions p.id).artifact = some a) (message : Text) :
    p.requireArtifact message w = (.ok a, w) := by
  simp only [requireArtifact, World.run_bind, session, World.run_session, h]
  rfl

/-- What is missing is logged, and nothing else happens. -/
lemma requireArtifact_of_none {w : World M I H} (h : (w.sessions p.id).artifact = none)
    (message : Text) :
    ∃ e v, p.requireArtifact message w = (.error e, v) ∧ v.sessions = w.sessions ∧
      v.histories = w.histories ∧
      e = if p.channel ∈ w.logs.captured then .captured p.channel else .stage .state message := by
  simp only [requireArtifact, World.run_bind, session, World.run_session, h]
  by_cases hmem : p.channel ∈ w.logs.captured
  · rw [captured, World.capturing_of_mem hmem]
    exact ⟨_, w, rfl, rfl, rfl, (if_pos hmem).symm⟩
  · obtain ⟨i, entered, -, -, -, hrun⟩ :=
      World.capturing_of_notMem hmem p.id (p.emit .error message)
    rw [captured, hrun, run_emit]
    exact ⟨_, _, rfl, rfl, rfl, (if_neg hmem).symm⟩

/-! ## The outcome of a module -/

/-- What is done with the outcome of a module. -/
def runFinished (v : World M I H) : Except Failure Results → Except Failure Results × World M I H
  | .ok results =>
    let u := v.withSession p.id ({ · with lastResult := some results })
    match results.text with
    | .ok output =>
      (.ok results, (u.withSession p.id ({ · with output })).written (p.record .success completed))
    | .error e => (.error e, u)
  | .error e =>
    (.error (asRuntime e), (v.withSession p.id ({ · with state := .runFailed })).written
      (p.record .error ("Runtime error: " ++ e.message)))

/-- Every failure of a module becomes one of running. -/
lemma asRuntime_eq (e : Failure) : ∃ m, asRuntime e = .stage .runtime m := by
  unfold asRuntime
  split <;> exact ⟨_, rfl⟩

lemma run_runLogged (a : Artifact M) (imports : ImportTable (Import (World M I H)))
    (w : World M I H) {r : Except Failure Results} {v : World M I H}
    (h : Sandbox.runModule p.id p.engine p.channel a.module imports
      (w.written (p.record .info running)) = (r, v)) :
    p.runLogged a imports w = p.runFinished v r := by
  simp only [runLogged, World.run_bind, run_emit, World.run_attempt, h]
  cases r with
  | error e =>
      simp only [World.run_bind, enter, changeSession, World.run_changeSession, run_emit,
        World.run_throw, runFinished]
  | ok results =>
      simp only [World.run_bind, changeSession, World.run_changeSession, World.run_settle,
        runFinished]
      cases results.text with
      | error e => rfl
      | ok output => simp only [run_emit, World.run_pure]

/-! ## Runs -/

variable {w : World M I H}

/-- Without an artifact nothing is run. -/
lemma run_of_absent (imports : ImportTable (Import (World M I H)))
    (h : (w.sessions p.id).artifact = none) :
    ∃ v, p.run imports w = (.error (if p.channel ∈ w.logs.captured then .captured p.channel
      else .stage .state nothingToRun), v) ∧ v.sessions = w.sessions ∧
      v.histories = w.histories := by
  obtain ⟨e, v, hrun, hsessions, hhistories, rfl⟩ := p.requireArtifact_of_none h nothingToRun
  refine ⟨v, ?_, hsessions, hhistories⟩
  simp only [run, World.run_bind, hrun]

/-- Running is refused on a channel that is being captured.  What the pipeline holds has been
changed by then. -/
lemma run_of_held (imports : ImportTable (Import (World M I H))) {a : Artifact M}
    (h : (w.sessions p.id).artifact = some a)
    (hheld : p.channel ∈ w.logs.captured) :
    p.run imports w =
      (.error (.captured p.channel), w.withSession p.id ({ · with state := .running })) := by
  have hheld' : p.channel ∈
      (w.withSession p.id ({ · with state := .running })).logs.captured := hheld
  simp only [run, World.run_bind, p.requireArtifact_of_some h, enter, changeSession,
    World.run_changeSession, captured, World.capturing_of_mem hheld']

/-- The world in which the channel is captured for running. -/
def runStarted (w : World M I H) (entered : LogState) : World M I H :=
  { w.withSession p.id ({ · with state := .running }) with logs := entered }

/-- The world after a run whose captured part has come to an outcome. -/
def runEnded (i : Interceptor) (body : Except Failure Results × World M I H) :
    Except Failure Results × World M I H :=
  match body.1 with
  | .ok results =>
    (.ok results, (body.2.released i).withSession p.id ({ · with state := .ran }))
  | .error e => (.error e, body.2.released i)

/-- On a free channel the module is run while the channel is captured, and the channel is given back
before the state says so. -/
lemma run_of_free {a : Artifact M} (h : (w.sessions p.id).artifact = some a)
    (hfree : p.channel ∉ w.logs.captured) :
    ∃ (i : Interceptor) (entered : LogState), i.channel = p.channel ∧
      entered.captured = p.channel :: w.logs.captured ∧
      ({ book := p.id, channel := p.channel } : Interceptor).enter w.logs = .ok (i, entered) ∧
      ∀ imports, p.run imports w =
        p.runEnded i (p.runLogged a imports (p.runStarted w entered)) := by
  have hfree' : p.channel ∉
      (w.withSession p.id ({ · with state := .running })).logs.captured := hfree
  obtain ⟨i, entered, hchannel, hlist, henter, -⟩ :=
    World.capturing_of_notMem hfree' p.id (pure () : Act (World M I H) Unit)
  refine ⟨i, entered, hchannel, hlist, henter, fun imports => ?_⟩
  obtain ⟨j, entered', -, -, henter', hrun⟩ :=
    World.capturing_of_notMem hfree' p.id (p.runLogged a imports)
  obtain ⟨rfl, rfl⟩ : j = i ∧ entered' = entered := by
    rw [henter] at henter'
    exact ⟨(Prod.mk.inj (Except.ok.inj henter')).1.symm,
      (Prod.mk.inj (Except.ok.inj henter')).2.symm⟩
  simp only [run, World.run_bind, p.requireArtifact_of_some h, enter, changeSession,
    World.run_changeSession, captured, hrun, runEnded, runStarted]
  rcases (p.runLogged a imports _).1 with e | results <;> rfl

/-- A run comes to what the module comes to, if that can be written out. -/
lemma run_fst_of_free {a : Artifact M} {imports : ImportTable (Import (World M I H))}
    {results : Results} {output : Text} (h : (w.sessions p.id).artifact = some a)
    (hfree : p.channel ∉ w.logs.captured)
    (hmodule : ∀ v, (Sandbox.runModule p.id p.engine p.channel a.module imports v).1 = .ok results)
    (htext : results.text = .ok output) : (p.run imports w).1 = .ok results := by
  obtain ⟨i, entered, -, -, -, hrun⟩ := p.run_of_free h hfree
  rcases hbody : Sandbox.runModule p.id p.engine p.channel a.module imports
    ((p.runStarted w entered).written (p.record .info running)) with ⟨r, v⟩
  obtain rfl : r = .ok results := by rw [← hmodule _, hbody]
  rw [hrun, p.run_runLogged a imports _ hbody]
  simp only [runFinished, htext, runEnded]

end Pipeline

end WatWorkbench
