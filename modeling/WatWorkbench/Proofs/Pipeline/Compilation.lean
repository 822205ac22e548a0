import WatWorkbench.Proofs.Pipeline.Action

/-!
# What compiling does

Compiling calls no host function, so its outcome and all that it changes can be written down: they
depend on the engine, on what the engine was asked before and on whether the channel is free.

* `Compiler.outcome`, `Compiler.asks` — the outcome that the engine alone decides, and what it is
  asked on the way.
* `Compiler.run_compileSource` — a source is compiled accordingly.
* `Pipeline.compile_fst`, `compile_session`, `compile_histories`, … — the same of a pipeline, with
  what it holds afterwards.
* `Pipeline.compile_of_held` — compiling on a channel that is being captured.
-/

namespace WatWorkbench

variable {M I H : Type}

namespace Compiler

/-! ## A source -/

/-- What compiling a source comes to when the engine has been asked `asked` before. -/
def outcome (e : Engine M I) (asked : History M I) (source : Text) : Except Failure (Artifact M) :=
  if source.trim.isEmpty then .error (.stage .compile "source is empty")
  else match e.compile asked source with
    | .error f => .error f
    | .ok binary =>
      match e.load (asked ++ [.compile source]) binary with
      | .error f => .error f
      | .ok module => .ok ⟨module, binary, source⟩

/-- What the engine is asked on the way. -/
def asks (e : Engine M I) (asked : History M I) (source : Text) : History M I :=
  if source.trim.isEmpty then []
  else match e.compile asked source with
    | .error _ => [.compile source]
    | .ok binary => [.compile source, .load binary]

/-- An artifact comes from one source, one translation of it and one load of what that gave. -/
lemma outcome_eq_ok {e : Engine M I} {asked : History M I} {source : Text} {a : Artifact M}
    (h : outcome e asked source = .ok a) :
    a.source = source ∧ e.compile asked source = .ok a.binary ∧
      e.load (asked ++ [.compile source]) a.binary = .ok a.module ∧
      asks e asked source = [.compile source, .load a.binary] := by
  unfold outcome at h
  unfold asks
  split_ifs at h ⊢
  split at h
  · cases h
  · next binary hbinary =>
      split at h
      · cases h
      · next module hmodule =>
          cases h
          exact ⟨rfl, hbinary, hmodule, rfl⟩

section

variable (id : Nat) (e : Engine M I) (logger source : Text) (w : World M I H)

/-- **Compiling a source**, in full: its outcome is the engine's, only the engine is asked and only
a line is written. -/
theorem run_compileSource :
    ∃ v : World M I H, compileSource id e logger source w = (outcome e (w.histories id) source, v) ∧
      v.sessions = w.sessions ∧ v.files = w.files ∧ v.host = w.host ∧
      v.logs.captured = w.logs.captured ∧
      v.histories id = w.histories id ++ asks e (w.histories id) source ∧
      ∀ n, n ≠ id → v.histories n = w.histories n := by
  have other : ∀ (u : World M I H) c n, n ≠ id → (u.asked id c).histories n = u.histories n :=
    fun u c _ hn => World.asked_histories_of_ne u c hn
  unfold compileSource outcome asks
  split_ifs with hblank
  · exact ⟨w, rfl, rfl, rfl, rfl, rfl, by simp, fun _ _ => rfl⟩
  · simp only [World.run_bind, World.compileText, World.loadBinary, World.run_ask,
      World.run_settle]
    rcases hc : e.compile (w.histories id) source with f | binary
    · exact ⟨w.asked id (.compile source), rfl, rfl, rfl, rfl, rfl, by simp, other _ _⟩
    · simp only [World.asked_histories_self]
      generalize e.load _ binary = loaded
      rcases loaded with f | module
      · refine ⟨(w.asked id (.compile source)).asked id (.load binary), rfl, rfl, rfl, rfl, rfl,
          by simp, fun n hn => ?_⟩
        rw [other _ _ n hn, other _ _ n hn]
      · simp only [World.log, World.run_write, assemble, World.run_settle]
        refine ⟨_, rfl, rfl, rfl, rfl, ?_, ?_, fun n hn => ?_⟩
        · simp
        · simp
        · rw [World.written_histories, other _ _ n hn, other _ _ n hn]

end

end Compiler

namespace Pipeline

/-! ## A pipeline -/

/-- What a pipeline holds after compiling has come to an outcome.  The state is set back only when
the failure is one of compiling. -/
def sessionAfter (before : Session M) : Except Failure (Artifact M) → Session M
  | .ok a => { state := .compiled, artifact := some a }
  | .error (.stage .compile _) => { before with lastResult := none, output := "" }
  | .error _ => { before with state := .compiling, lastResult := none, output := "" }

variable (p : Pipeline M I) (source : Text) (w : World M I H)

/-- The record of a message of a kind. -/
def record (kind : LogKind) (message : Text) : LogRecord where
  logger := p.channel
  level := if kind = .error then Level.error else Level.info
  message := .text message
  kind := some (.kind kind)

/-- Reporting progress writes one record. -/
lemma run_emit (kind : LogKind) (message : Text) :
    p.emit kind message w = (.ok (), w.written (p.record kind message)) := World.run_write _ _

/-- Logging what compiling comes to does not change what it comes to. -/
lemma run_compileLogged :
    ∃ v : World M I H, p.compileLogged source w =
        (Compiler.outcome p.engine (w.histories p.id) source, v) ∧
      v.sessions = w.sessions ∧ v.files = w.files ∧ v.host = w.host ∧
      v.logs.captured = w.logs.captured ∧
      v.histories p.id = w.histories p.id ++ Compiler.asks p.engine (w.histories p.id) source ∧
      ∀ n, n ≠ p.id → v.histories n = w.histories n := by
  obtain ⟨v, hv, hsessions, hfiles, hhost, hcaptured, hself, hother⟩ :=
    Compiler.run_compileSource p.id p.engine p.channel source
      (w.written (p.record .info compiling))
  have hv' : ∀ t, ((v.written t).logs.captured = w.logs.captured) := by
    intro t; rw [World.written_captured, hcaptured, World.written_captured]
  simp only [compileLogged, World.run_bind, run_emit, World.run_attempt, hv,
    World.written_histories]
  generalize Compiler.outcome p.engine (w.histories p.id) source = result
  rcases result with e | a
  · have quiet : v.logs.captured = w.logs.captured := by simpa using hcaptured
    -- only a failure of compiling is logged
    dsimp only
    split
    · simp only [World.run_bind, run_emit]
      exact ⟨v.written _, rfl, hsessions, hfiles, hhost, hv' _, hself, hother⟩
    · exact ⟨v, rfl, hsessions, hfiles, hhost, quiet, hself, hother⟩
  · simp only [World.run_bind, run_emit]
    exact ⟨v.written _, rfl, hsessions, hfiles, hhost, hv' _, hself, hother⟩

/-- The world in which the channel is captured for compiling. -/
def compileStarted : World M I H :=
  let u := w.withSession p.id ({ · with state := .compiling, output := "", lastResult := none })
  { u with logs := { u.logs with next := u.logs.next + 1 } }

/-- What is done when compiling has come to an outcome. -/
def compileFinished (state : PipelineState) (scratch : Nat) (v : World M I H) :
    Except Failure (Artifact M) → World M I H
  | .ok a =>
    let entries := (v.logs.books scratch).entries
    let u := (v.withSession p.id ({ · with artifact := some a })).withBook p.id (·.replace entries)
    u.withSession p.id ({ · with state := .compiled })
  | .error (.stage .compile _) =>
    let entries := (v.logs.books scratch).entries
    (v.withSession p.id ({ · with state })).withBook p.id (·.extend entries)
  | .error _ => v

lemma compileFinished_of_ne (state : PipelineState) (scratch : Nat) (v : World M I H) {e : Failure}
    (h : ∀ m, e ≠ .stage .compile m) : p.compileFinished state scratch v (.error e) = v := by
  unfold compileFinished
  split
  · next hok => cases hok
  · next m hm => exact absurd (Except.error.inj hm) (h m)
  · rfl

/-- Finishing concerns only what the pipeline holds and its log. -/
lemma compileFinished_frame (state : PipelineState) (scratch : Nat) (v : World M I H)
    (r : Except Failure (Artifact M)) :
    (p.compileFinished state scratch v r).histories = v.histories ∧
      (p.compileFinished state scratch v r).files = v.files ∧
      (p.compileFinished state scratch v r).host = v.host ∧
      (p.compileFinished state scratch v r).logs.captured = v.logs.captured := by
  unfold compileFinished
  split <;> exact ⟨rfl, rfl, rfl, rfl⟩

/-- Compiling, with its parts named. -/
lemma run_compile (body : Except Failure (Artifact M) × World M I H)
    (hbody : World.capturing p.channel w.logs.next (p.compileLogged source) (p.compileStarted w)
      = body) :
    p.compile source w =
      (body.1, p.compileFinished (w.sessions p.id).state w.logs.next body.2 body.1) := by
  obtain ⟨r, v⟩ := body
  have hstarted : compileStarted p w = { (w.withSession p.id
      ({ · with state := .compiling, output := "", lastResult := none })) with
      logs := { w.logs with next := w.logs.next + 1 } } := rfl
  rw [hstarted] at hbody
  simp only [compile, World.run_bind, session, changeSession, enter, World.run_session,
    World.run_changeSession, World.run_fresh, World.run_attempt, World.withSession_logs, hbody]
  cases r with
  | ok a =>
      simp only [World.run_bind, World.run_changeSession, World.run_book, World.run_changeBook]
      rfl
  | error e =>
      dsimp only
      split
      · rfl
      · next hother => rw [compileFinished_of_ne _ _ _ _ hother]; rfl

/-- Compiling is refused on a channel that is being captured.  What the pipeline holds has been
changed by then. -/
theorem compile_of_held (h : p.channel ∈ w.logs.captured) :
    p.compile source w = (.error (.captured p.channel), p.compileStarted w) := by
  have hstarted : p.channel ∈ (p.compileStarted w).logs.captured := h
  rw [p.run_compile source w _ (World.capturing_of_mem hstarted _ _)]
  rfl

/-- The part of compiling that is captured, with what the list of channels decides. -/
lemma run_compileCaptured :
    ∃ (r : Except Failure (Artifact M)) (v : World M I H),
      World.capturing p.channel w.logs.next (p.compileLogged source) (p.compileStarted w) = (r, v) ∧
      r = (if p.channel ∈ w.logs.captured then .error (.captured p.channel)
        else Compiler.outcome p.engine (w.histories p.id) source) ∧
      v.sessions = (p.compileStarted w).sessions ∧ v.files = w.files ∧ v.host = w.host ∧
      (∀ c, c ∈ v.logs.captured ↔ c ∈ w.logs.captured) ∧
      v.histories p.id = w.histories p.id ++ (if p.channel ∈ w.logs.captured then []
        else Compiler.asks p.engine (w.histories p.id) source) ∧
      ∀ n, n ≠ p.id → v.histories n = w.histories n := by
  by_cases h : p.channel ∈ w.logs.captured
  · have hstarted : p.channel ∈ (p.compileStarted w).logs.captured := h
    refine ⟨_, _, World.capturing_of_mem hstarted _ _, ?_⟩
    simp only [if_pos h, List.append_nil]
    exact ⟨trivial, trivial, rfl, rfl, fun _ => Iff.rfl, rfl, fun _ _ => rfl⟩
  · have hstarted : p.channel ∉ (p.compileStarted w).logs.captured := h
    obtain ⟨i, entered, hchannel, hlist, -, hrun⟩ :=
      World.capturing_of_notMem hstarted w.logs.next (p.compileLogged source)
    obtain ⟨v, hv, hsessions, hfiles, hhost, hcaptured, hself, hother⟩ :=
      p.run_compileLogged source { p.compileStarted w with logs := entered }
    rw [hv] at hrun
    refine ⟨_, _, hrun, ?_⟩
    simp only [if_neg h, World.released_sessions, World.released_files, World.released_host,
      World.released_histories, World.mem_released_captured]
    refine ⟨rfl, hsessions, hfiles, hhost, fun c => ?_, hself, hother⟩
    rw [hcaptured, hchannel, hlist]
    refine ⟨fun hc => (List.mem_cons.mp hc.1).resolve_left hc.2, fun hc => ?_⟩
    exact ⟨List.mem_cons_of_mem _ hc, fun e => h (e ▸ hc)⟩

/-- Compiling fails on a channel that is being captured, and comes to what the engine decides on any
other. -/
theorem compile_fst :
    (p.compile source w).1 = if p.channel ∈ w.logs.captured then .error (.captured p.channel)
      else Compiler.outcome p.engine (w.histories p.id) source := by
  obtain ⟨r, v, hbody, hr, -⟩ := p.run_compileCaptured source w
  rw [p.run_compile source w _ hbody, hr]

/-- **What the pipeline holds after compiling**, by the outcome. -/
theorem compile_session :
    (p.compile source w).2.sessions p.id =
      sessionAfter (w.sessions p.id) (p.compile source w).1 := by
  obtain ⟨r, v, hbody, -, hsessions, -⟩ := p.run_compileCaptured source w
  have hv : v.sessions p.id =
      { w.sessions p.id with state := .compiling, output := "", lastResult := none } := by
    rw [hsessions]; exact if_pos rfl
  rw [p.run_compile source w _ hbody]
  dsimp only
  unfold compileFinished sessionAfter
  split <;> simp [hv]

/-- The engine is asked what compiling a source asks, and nothing when the channel is refused. -/
theorem compile_histories :
    (p.compile source w).2.histories p.id = w.histories p.id ++
      (if p.channel ∈ w.logs.captured then []
        else Compiler.asks p.engine (w.histories p.id) source) := by
  obtain ⟨r, v, hbody, -, -, -, -, -, hself, -⟩ := p.run_compileCaptured source w
  rw [p.run_compile source w _ hbody, (p.compileFinished_frame _ _ v r).1, hself]

theorem compile_host : (p.compile source w).2.host = w.host := by
  obtain ⟨r, v, hbody, -, -, -, hhost, -⟩ := p.run_compileCaptured source w
  rw [p.run_compile source w _ hbody, (p.compileFinished_frame _ _ v r).2.2.1, hhost]

theorem compile_files : (p.compile source w).2.files = w.files := by
  obtain ⟨r, v, hbody, -, -, hfiles, -⟩ := p.run_compileCaptured source w
  rw [p.run_compile source w _ hbody, (p.compileFinished_frame _ _ v r).2.1, hfiles]

/-- Compiling gives back every channel that it takes. -/
theorem mem_compile_captured {c : Text} :
    c ∈ (p.compile source w).2.logs.captured ↔ c ∈ w.logs.captured := by
  obtain ⟨r, v, hbody, -, -, -, -, hcaptured, -⟩ := p.run_compileCaptured source w
  rw [p.run_compile source w _ hbody, (p.compileFinished_frame _ _ v r).2.2.2, hcaptured]

end Pipeline

end WatWorkbench
