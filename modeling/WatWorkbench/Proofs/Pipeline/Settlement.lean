import WatWorkbench.Proofs.Pipeline.Underway

/-!
# When the state tells what is under way

Two of the states are meant to last only as long as a call: compiling and running.  This module says
exactly when they do.  Operations are called one after another from outside; in between the world
may change in any way that leaves the session alone, so a channel may be captured by somebody else
at one call and free at the next.  Host functions may call the pipeline again.

* `Session.Settled` — the session of a pipeline that nothing is under way in.
* `Pipeline.Step` — one call of an operation, with the world in which it is made.
* `Step.Sound` — it leaves a settled session, and the state it found if the source was refused.
* `Step.Strands` — the ways in which it is left in the middle: a channel that is refused after the
  state has been changed, an engine that raises something which is no failure of compiling, and
  results that cannot be written out.
* **`forall_sound_iff`** — all calls are sound exactly when none of them is left in the middle.
* `Pipeline.Busy` — what holds while the pipeline's channel is captured by a call of its own.
-/

namespace WatWorkbench

variable {M I H : Type}

/-! ## Sessions -/

/-- Something is under way. -/
def PipelineState.Transient (s : PipelineState) : Prop := s = .compiling ∨ s = .running

/-- Nothing is under way, and the state tells whether there is an artifact. -/
structure Session.Settled (s : Session M) : Prop where
  state : s.state ∈ [.idle, .compiled, .ran, .runFailed]
  /-- Nothing has been compiled exactly when there is no artifact. -/
  idle_iff : s.state = .idle ↔ s.artifact = none

lemma Session.Settled.not_transient {s : Session M} (h : s.Settled) : ¬ s.state.Transient := by
  have hstate := h.state
  rintro (ht | ht) <;> simp [ht] at hstate

lemma Session.settled_of_artifact {s : Session M} {a : Artifact M} (ha : s.artifact = some a)
    (hstate : s.state ∈ [.compiled, .ran, .runFailed]) : s.Settled := by
  refine ⟨List.mem_cons_of_mem _ hstate, ?_⟩
  have hidle : s.state ≠ .idle := by
    intro h; simp [h] at hstate
  exact iff_of_false hidle (by rw [ha]; simp)

lemma Session.Settled.congr {s t : Session M} (h : s.Settled) (hstate : t.state = s.state)
    (hartifact : t.artifact = s.artifact) : t.Settled :=
  ⟨hstate ▸ h.state, by rw [hstate, hartifact]; exact h.idle_iff⟩

namespace Pipeline

variable {p : Pipeline M I} {w : World M I H}

/-! ## While a call is under way -/

/-- While a call has the pipeline's channel captured, calls made meanwhile do change the state but
never to one in which nothing is under way, and they never change the artifact. -/
structure Busy (p : Pipeline M I) (a : Artifact M) (w : World M I H) : Prop where
  held : p.channel ∈ w.logs.captured
  artifact : (w.sessions p.id).artifact = some a
  transient : (w.sessions p.id).state.Transient

/-- What code does apart from calling the pipeline: it leaves the session alone and does not take
the channel off the list. -/
def Aside (p : Pipeline M I) (w w' : World M I H) : Prop :=
  w'.sessions p.id = w.sessions p.id ∧ (p.channel ∈ w.logs.captured → p.channel ∈ w'.logs.captured)

section Busy

variable {a : Artifact M}

/-- What does not depend on what the engine has been asked is kept by code that does nothing else. -/
lemma Underway.aside {Q : Session M → History M I → Prop} {w' : World M I H}
    (hQ : ∀ s asked asked', Q s asked → Q s asked') (h : p.Underway a Q w)
    (haside : p.Aside w w') : p.Underway a Q w' := by
  refine ⟨haside.2 h.held, haside.1 ▸ h.artifact, ?_⟩
  rw [haside.1]
  exact hQ _ _ _ h.known

/-- That something is under way, no operation undoes. -/
def transientState (s : Session M) (_ : History M I) : Prop := s.state.Transient

lemma lasting_transientState : Lasting (transientState : Session M → History M I → Prop) :=
  ⟨fun _ _ _ => Or.inl rfl, fun _ _ _ => Or.inr rfl, fun _ _ h => h⟩

lemma busy_iff : p.Busy a w ↔ p.Underway a transientState w :=
  ⟨fun h => ⟨h.held, h.artifact, h.transient⟩, fun h => ⟨h.held, h.artifact, h.known⟩⟩

lemma Busy.congr {w' : World M I H} (h : p.Busy a w) (haside : p.Aside w w') :
    p.Busy a w' :=
  busy_iff.mpr ((busy_iff.mp h).aside (fun _ _ _ hs => hs) haside)

lemma Busy.write (r : LogRecord) :
    World.Preserves (p.Busy a) (World.write r : Act (World M I H) Unit) :=
  fun w h => busy_iff.mpr (Underway.write r w (busy_iff.mp h))

lemma busy_runStarted {entered : LogState} (ha : (w.sessions p.id).artifact = some a)
    (hentered : p.channel ∈ entered.captured) : p.Busy a (p.runStarted w entered) :=
  busy_iff.mpr (underway_runStarted ha hentered (Or.inr rfl))

/-- Host functions leave what a call has under way. -/
lemma Client.busy {α : Type} {act : Act (World M I H) α} (h : Client p p.compile p.Aside act) :
    World.Preserves (p.Busy a) act := fun w hw =>
  busy_iff.mpr (h.underway lasting_transientState
    (fun _ _ haside hv => hv.aside (fun _ _ _ hs => hs) haside) w (busy_iff.mp hw))

end Busy

/-! ## Single operations -/

section Operations

variable (p w)

/-- Compiling is left in the middle: the channel is refused, or the engine raises something that is
no failure of compiling. -/
def CompileStrands (source : Text) : Prop :=
  p.channel ∈ w.logs.captured ∨
    ∃ e, Compiler.outcome p.engine (w.histories p.id) source = .error e ∧ ∀ m, e ≠ .stage .compile m

/-- A run is left in the middle: the channel is refused, or what the module gave cannot be written
out. -/
def RunStrands (imports : ImportTable (Import (World M I H))) : Prop :=
  (w.sessions p.id).artifact ≠ none ∧
    (p.channel ∈ w.logs.captured ∨ (p.run imports w).1 = .error tooLong)

variable {p w}

lemma compileStrands_iff {source : Text} : p.CompileStrands w source ↔
    ∃ e, (p.compile source w).1 = .error e ∧ ∀ m, e ≠ .stage .compile m := by
  rw [compile_fst]
  unfold CompileStrands
  split_ifs with h
  · exact iff_of_true (Or.inl h) ⟨_, rfl, fun m => by simp⟩
  · exact ⟨fun hs => hs.resolve_left h, Or.inr⟩

lemma compile_transient {source : Text} (h : p.CompileStrands w source) :
    ((p.compile source w).2.sessions p.id).state.Transient := by
  obtain ⟨e, he, hother⟩ := compileStrands_iff.mp h
  rw [compile_session, he]
  unfold sessionAfter
  split
  · next hok => cases hok
  · next m hm => exact absurd (Except.error.inj hm) (hother m)
  · exact Or.inl rfl

lemma compile_settled {source : Text} (h : ¬ p.CompileStrands w source)
    (hw : (w.sessions p.id).Settled) : ((p.compile source w).2.sessions p.id).Settled ∧
      ∀ e, (p.compile source w).1 = .error e →
        ((p.compile source w).2.sessions p.id).state = (w.sessions p.id).state := by
  rw [compile_session]
  rcases hr : (p.compile source w).1 with e | a
  · obtain ⟨m, rfl⟩ : ∃ m, e = .stage .compile m := by
      by_contra hother
      exact h (compileStrands_iff.mpr ⟨e, hr, fun m hm => hother ⟨m, hm⟩⟩)
    exact ⟨hw.congr rfl rfl, fun _ _ => rfl⟩
  · refine ⟨Session.settled_of_artifact rfl (by simp [sessionAfter]), fun e he => ?_⟩
    cases he

/-- The ways in which a run on a free channel ends, with the session that each of them leaves. -/
inductive RunEnds (s : Session M) : Except Failure Results → Prop
  | ran (results : Results) (h : s.state = .ran) : RunEnds s (.ok results)
  /-- With a failure of running, which every failure of the module becomes. -/
  | failed (message : Text) (h : s.state = .runFailed) :
      RunEnds s (.error (.stage .runtime message))
  | stranded (h : s.state.Transient) : RunEnds s (.error tooLong)

/-- What becomes of the session once the module has come to an outcome. -/
lemma runEnded_session {a : Artifact M} {v : World M I H} (hv : p.Busy a v) (i : Interceptor)
    (r : Except Failure Results) :
    ((p.runEnded i (p.runFinished v r)).2.sessions p.id).artifact = some a ∧
      RunEnds ((p.runEnded i (p.runFinished v r)).2.sessions p.id)
        (p.runEnded i (p.runFinished v r)).1 := by
  cases r with
  | error e =>
      refine ⟨by simpa [runFinished, runEnded] using hv.artifact, ?_⟩
      obtain ⟨m, hm⟩ := asRuntime_eq e
      simp only [runFinished, runEnded, hm]
      exact .failed m (by simp)
  | ok results =>
      cases htext : results.text with
      | ok output =>
          refine ⟨by simpa [runFinished, htext, runEnded] using hv.artifact, ?_⟩
          simp only [runFinished, htext, runEnded]
          exact .ran results (by simp)
      | error e =>
          obtain rfl := Results.text_eq_error htext
          refine ⟨by simpa [runFinished, htext, runEnded] using hv.artifact, ?_⟩
          simp only [runFinished, htext, runEnded]
          exact .stranded (by simpa using hv.transient)

/-- A run on a free channel keeps the artifact and ends in one of the three ways. -/
lemma run_session_of_free {a : Artifact M} {imports : ImportTable (Import (World M I H))}
    (ha : (w.sessions p.id).artifact = some a) (hfree : p.channel ∉ w.logs.captured)
    (hosts : ∀ act, imports.Offers act → Client p p.compile p.Aside act) :
    ((p.run imports w).2.sessions p.id).artifact = some a ∧
      RunEnds ((p.run imports w).2.sessions p.id) (p.run imports w).1 := by
  obtain ⟨i, r, v, hrun, hv⟩ := exists_underway_of_free (Q := transientState) ha hfree
    (Or.inr rfl) (fun _ _ _ h => h) fun act hact w hw =>
      busy_iff.mp ((hosts act hact).busy w (busy_iff.mpr hw))
  rw [hrun]
  exact runEnded_session (busy_iff.mpr hv) i r

/-- A run that is left in the middle says so. -/
lemma run_transient {imports : ImportTable (Import (World M I H))}
    (hosts : ∀ act, imports.Offers act → Client p p.compile p.Aside act)
    (h : p.RunStrands w imports) : ((p.run imports w).2.sessions p.id).state.Transient := by
  obtain ⟨hartifact, hcause⟩ := h
  obtain ⟨a, ha⟩ := Option.ne_none_iff_exists'.mp hartifact
  by_cases hheld : p.channel ∈ w.logs.captured
  · rw [p.run_of_held imports ha hheld]
    simp [PipelineState.Transient]
  · have hlong := hcause.resolve_left hheld
    have hends := (run_session_of_free ha hheld hosts).2
    rw [hlong] at hends
    cases hends with
    | stranded h => exact h

lemma run_settled {imports : ImportTable (Import (World M I H))}
    (hosts : ∀ act, imports.Offers act → Client p p.compile p.Aside act)
    (h : ¬ p.RunStrands w imports) (hw : (w.sessions p.id).Settled) :
    ((p.run imports w).2.sessions p.id).Settled := by
  cases ha : (w.sessions p.id).artifact with
  | none =>
      obtain ⟨v, hrun, hsessions, -⟩ := p.run_of_absent imports ha
      rw [hrun, hsessions]
      exact hw
  | some a =>
      have hcause : ¬ (p.channel ∈ w.logs.captured ∨ (p.run imports w).1 = .error tooLong) :=
        fun hc => h ⟨by rw [ha]; simp, hc⟩
      rw [not_or] at hcause
      obtain ⟨hartifact, hends⟩ := run_session_of_free ha hcause.1 hosts
      refine Session.settled_of_artifact hartifact ?_
      generalize hr : (p.run imports w).1 = r at hends
      cases hends with
      | ran results h => simp [h]
      | failed m h => simp [h]
      | stranded h => exact absurd hr hcause.2

end Operations

/-! ## Calls one after another -/

/-- A call of an operation from outside. -/
structure Step (p : Pipeline M I) (H : Type) where
  operation : Operation (World M I H)
  before : World M I H
  hosts : ∀ act, operation.imports.Offers act → Client p p.compile p.Aside act

/-- Each call finds the session that the one before it has left, and the first one finds the given
session.  Everything else may have changed in between. -/
def Consecutive {p : Pipeline M I} : Session M → List (Step p H) → Prop
  | _, [] => True
  | s, c :: cs => c.before.sessions p.id = s ∧
      Consecutive ((perform p c.operation c.before).2.sessions p.id) cs

namespace Step

variable (c : Step p H)

/-- The session that the call finds. -/
def found : Session M := c.before.sessions p.id

/-- The session that the call leaves, whether it returns or fails. -/
def left : Session M := (perform p c.operation c.before).2.sessions p.id

/-- The call leaves a settled session, and if a source could not be compiled, the state it found. -/
structure Sound : Prop where
  settled : c.left.Settled
  restored : ∀ source, c.operation.request.source? = some source →
    ∀ e, (p.compile source c.before).1 = .error e → c.left.state = c.found.state

/-- The call is left in the middle. -/
def Strands : Prop :=
  match c.operation.request with
  | .compile source => p.CompileStrands c.before source
  | .run => p.RunStrands c.before c.operation.imports
  | .compileAndRun source => p.CompileStrands c.before source ∨
      (∃ a, (p.compile source c.before).1 = .ok a) ∧
        p.RunStrands (p.compile source c.before).2 c.operation.imports
  | .package _ | .loadExample _ | .clearLogs => False

end Step

/-- Packaging, loading an example and emptying the log touch neither state nor artifact. -/
lemma perform_keeps (op : Operation (World M I H)) (hsource : op.request.source? = none)
    (hrun : op.request ≠ .run) (s : Session M) :
    World.Preserves (fun w => (w.sessions p.id).state = s.state ∧
      (w.sessions p.id).artifact = s.artifact) (perform p op) :=
  quiet_preserves (fun _ _ h => h) (fun _ _ h => h) (fun w h => by simpa using h) hsource hrun

namespace Step

variable {c : Step p H}

/-- A call that is left in the middle shows it. -/
lemma left_transient (h : c.Strands) : c.left.state.Transient := by
  obtain ⟨⟨request, imports⟩, before, hosts⟩ := c
  cases request with
  | compile source =>
      rw [left, perform_compile]
      exact compile_transient h
  | run =>
      rw [left, perform_run]
      exact run_transient hosts h
  | compileAndRun source =>
      rw [left, perform_compileAndRun, run_compileAndRun]
      rcases h with h | ⟨⟨a, ha⟩, h⟩
      · obtain ⟨e, he, -⟩ := compileStrands_iff.mp h
        have htransient := compile_transient h
        rcases hrun : p.compile source before with ⟨r, v⟩
        rw [hrun] at he htransient
        obtain rfl : r = .error e := he
        exact htransient
      · rcases hrun : p.compile source before with ⟨r, v⟩
        rw [hrun] at ha h
        obtain rfl : r = .ok a := ha
        exact run_transient hosts h
  | _ => exact h.elim

/-- Compiling and running is sound if neither half is left in the middle. -/
lemma compileAndRun_sound {source : Text} {imports : ImportTable (Import (World M I H))}
    {before : World M I H} {hosts : ∀ act, imports.Offers act → Client p p.compile p.Aside act}
    (hfound : (before.sessions p.id).Settled) (hcompile : ¬ p.CompileStrands before source)
    (hrun : ∀ a, (p.compile source before).1 = .ok a →
      ¬ p.RunStrands (p.compile source before).2 imports) :
    (⟨⟨.compileAndRun source, imports⟩, before, hosts⟩ : Step p H).Sound := by
  obtain ⟨hsettled, hrestored⟩ := compile_settled hcompile hfound
  rcases hbody : p.compile source before with ⟨e | a, v⟩
  · rw [hbody] at hsettled hrestored
    refine ⟨?_, fun s hs f hf => ?_⟩
    · rw [left, perform_compileAndRun, run_compileAndRun, hbody]
      exact hsettled
    · rw [left, perform_compileAndRun, run_compileAndRun, hbody]
      exact hrestored e rfl
  · rw [hbody] at hsettled hrun
    refine ⟨?_, fun s hs f hf => ?_⟩
    · rw [left, perform_compileAndRun, run_compileAndRun, hbody]
      exact run_settled hosts (hrun a rfl) hsettled
    · cases hs
      rw [hbody] at hf
      cases hf

lemma sound_of_quiet (hfound : c.found.Settled) (hsource : c.operation.request.source? = none)
    (hrun : c.operation.request ≠ .run) : c.Sound := by
  obtain ⟨hstate, hartifact⟩ := perform_keeps c.operation hsource hrun c.found c.before ⟨rfl, rfl⟩
  refine ⟨hfound.congr hstate hartifact, fun source hs => ?_⟩
  rw [hsource] at hs
  cases hs

/-- A call that is not left in the middle is sound, if the one before it was. -/
lemma sound_of_settled (hfound : c.found.Settled) (h : ¬ c.Strands) : c.Sound := by
  obtain ⟨⟨request, imports⟩, before, hosts⟩ := c
  cases request with
  | compile source =>
      obtain ⟨hsettled, hrestored⟩ := compile_settled h hfound
      refine ⟨?_, fun s hs e he => ?_⟩
      · rw [left, perform_compile]; exact hsettled
      · cases hs
        rw [left, perform_compile]; exact hrestored e he
  | run =>
      refine ⟨?_, fun s hs => by cases hs⟩
      rw [left, perform_run]
      exact run_settled hosts h hfound
  | compileAndRun source =>
      rw [Strands, not_or] at h
      exact compileAndRun_sound hfound h.1 fun a ha hstrands => h.2 ⟨⟨a, ha⟩, hstrands⟩
  | package | loadExample | clearLogs => exact sound_of_quiet hfound rfl (by simp)

end Step

/-- **When all calls are sound.**  Whatever operations of a new pipeline are called one after
another, on whatever condition of the channel and with whatever engine, each of them leaves a
settled session, and the state it found if the source could not be compiled — exactly if none of
them is left in the middle. -/
theorem forall_sound_iff (calls : List (Step p H)) (h : Consecutive {} calls) :
    (∀ c ∈ calls, c.Sound) ↔ ∀ c ∈ calls, ¬ c.Strands := by
  refine ⟨fun hsound c hc hstrands => ?_, fun hstrands => ?_⟩
  · exact (hsound c hc).settled.not_transient (Step.left_transient hstrands)
  · have hstart : Session.Settled ({} : Session M) := ⟨by simp, by simp⟩
    generalize ({} : Session M) = s at h hstart
    -- what one call leaves is what the next one finds, so being settled is handed on
    induction calls generalizing s with
    | nil => intro c hc; cases hc
    | cons c cs ih =>
        obtain ⟨rfl, hrest⟩ := h
        have hc := Step.sound_of_settled hstart (hstrands c List.mem_cons_self)
        refine List.forall_mem_cons.mpr ⟨hc, ?_⟩
        exact ih (fun d hd => hstrands d (List.mem_cons_of_mem _ hd)) _ hrest hc.settled

/-! ## An engine that raises something else -/

/-- An engine that cannot do anything, and says so by a failure of the given kind. -/
def refusing (e : Failure) : Engine Unit Unit where
  compile _ _ := .error e
  load _ _ := .error e
  instantiate _ _ _ := .done (.error e)
  hasEntry _ _ _ := .error e
  invoke _ _ _ := .done (.error e)

/-- A call on a pipeline with such an engine, in a world where nothing has been done yet. -/
def firstCall (e : Failure) (request : Request) :
    Step (⟨0, refusing e, channelName⟩ : Pipeline Unit Unit) Unit where
  operation := ⟨request, []⟩
  before := { files := { working := "/" }, host := () }
  hosts := fun act h => absurd h (ImportTable.not_offers_nil act)

/-- A failure of compiling is what the state is set back for. -/
theorem forall_sound_refusing :
    let calls := [firstCall (.stage .compile "no") (.compile "(module)"),
      firstCall (.stage .compile "no") .clearLogs]
    Consecutive {} calls ∧ ∀ c ∈ calls, c.Sound := by
  intro calls
  have hconsecutive : Consecutive {} calls := by
    refine ⟨rfl, ?_, trivial⟩
    rfl
  refine ⟨hconsecutive, (forall_sound_iff calls hconsecutive).mpr fun c hc => ?_⟩
  simp only [calls, List.mem_cons, List.not_mem_nil, or_false] at hc
  rcases hc with rfl | rfl
  · rintro (hheld | ⟨e, he, hother⟩)
    · cases hheld
    · exact hother "no" (Except.error.inj he).symm
  · exact fun h => h

/-- Any other failure of the engine leaves the state in which a source is being compiled. -/
theorem firstCall_not_sound :
    (firstCall (.raised .value "no") (.compile "(module)")).left.state = .compiling ∧
      ¬ (firstCall (.raised .value "no") (.compile "(module)")).Sound := by
  have hleft : (firstCall (.raised .value "no") (.compile "(module)")).left.state = .compiling :=
    rfl
  exact ⟨hleft, fun h => h.settled.not_transient (Or.inl hleft)⟩

end Pipeline

end WatWorkbench
