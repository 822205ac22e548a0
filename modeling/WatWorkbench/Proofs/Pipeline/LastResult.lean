import WatWorkbench.Proofs.Pipeline.Settlement

/-!
# Whose result the last result is

A pipeline shows the result of its last run, and the output that was written out from it.  Compiling
forgets both before anything can fail.  A run forgets neither: it puts its own in their place, and
only if it succeeds.  So a run that fails is followed by the result of another one, unless compiling
has come between them.

* `Pipeline.latest` — what the most recent run since compiling has come to, after some calls.
* `Session.Fresh` — the last result is from that run, and nothing is shown beside a failure.
* `Step.Lingers` — a call in which a run fails, but which leaves a last result; `Step.Inherits` —
  what such a call finds.
* **`Pipeline.forall_fresh_iff`** — what is shown is fresh after each call exactly when there is no
  such call.
-/

namespace WatWorkbench

variable {M I H : Type}

/-! ## What is shown -/

/-- The last result is that of the run that came to `latest`, with its text as the output unless the
output has been taken away; and nothing is shown where a run has failed. -/
structure Session.Fresh (s : Session M) (latest : Option (Except Failure Results)) : Prop where
  result : ∀ results, s.lastResult = some results →
    latest = some (.ok results) ∧ (s.output = "" ∨ results.text = .ok s.output)
  failed : s.state = .runFailed → s.output = "" ∧ s.lastResult = none

/-- Besides, there is no output without a last result. -/
structure Session.Tidy (s : Session M) (latest : Option (Except Failure Results)) : Prop
    extends s.Fresh latest where
  empty : s.lastResult = none → s.output = ""

lemma Session.tidy_of_none {s : Session M} (hresult : s.lastResult = none) (houtput : s.output = "")
    (latest : Option (Except Failure Results)) : s.Tidy latest where
  result results h := by simp [hresult] at h
  failed _ := ⟨houtput, hresult⟩
  empty _ := houtput

lemma Session.Tidy.clear {s : Session M} {latest : Option (Except Failure Results)}
    (h : s.Tidy latest) : { s with output := "" }.Tidy latest where
  result results hresult := ⟨(h.result results hresult).1, Or.inl rfl⟩
  failed hstate := ⟨rfl, (h.failed hstate).2⟩
  empty _ := rfl

namespace Pipeline

variable {p : Pipeline M I} {w : World M I H} {a : Artifact M}
  {imports : ImportTable (Import (World M I H))}

/-! ## Runs -/

/-- What running comes to.  Without an artifact there is nothing to run. -/
def runOutcome (p : Pipeline M I) (w : World M I H) (imports : ImportTable (Import (World M I H))) :
    Option (Except Failure Results) :=
  (w.sessions p.id).artifact.map fun _ => (p.run imports w).1

/-- There is no output without a last result. -/
def noOutput (s : Session M) (_ : History M I) : Prop := s.lastResult = none → s.output = ""

lemma lasting_noOutput : Lasting (noOutput : Session M → History M I → Prop) :=
  ⟨fun _ _ _ _ => rfl, fun _ _ h => h, fun _ _ _ _ => rfl⟩

/-- How a run leaves what is shown: as its own if it returns.  If it fails, there is at least no output
without a last result. -/
inductive Shown (s : Session M) : Except Failure Results → Prop
  | own {results} (hstate : s.state = .ran) (hresult : s.lastResult = some results)
      (htext : results.text = .ok s.output) : Shown s (.ok results)
  | failed {e} (hempty : s.lastResult = none → s.output = "") : Shown s (.error e)

lemma shown_runEnded {v : World M I H} (hv : p.Underway a noOutput v) (i : Interceptor)
    (r : Except Failure Results) :
    Shown ((p.runEnded i (p.runFinished v r)).2.sessions p.id)
      (p.runEnded i (p.runFinished v r)).1 := by
  cases r with
  | error e => exact .failed (by simpa [runFinished, runEnded, noOutput] using hv.known)
  | ok results =>
      cases htext : results.text with
      | ok output =>
          simp only [runFinished, htext, runEnded]
          exact .own (by simp) (by simp) (by simpa using htext)
      | error e =>
          simp only [runFinished, htext, runEnded]
          exact .failed (by simp)

lemma shown_run (hosts : ∀ act, imports.Offers act → Client p p.compile p.Aside act)
    (ha : (w.sessions p.id).artifact = some a)
    (hempty : (w.sessions p.id).lastResult = none → (w.sessions p.id).output = "") :
    Shown ((p.run imports w).2.sessions p.id) (p.run imports w).1 := by
  by_cases hheld : p.channel ∈ w.logs.captured
  · rw [p.run_of_held imports ha hheld]
    exact .failed (by simpa using hempty)
  · have hkept : ∀ act, imports.Offers act → World.Preserves (p.Underway a noOutput) act :=
      fun act hact => (hosts act hact).underway lasting_noOutput
        fun _ _ haside hv => hv.aside (fun _ _ _ hs => hs) haside
    obtain ⟨i, r, v, hrun, hv⟩ :=
      exists_underway_of_free (Q := noOutput) ha hheld hempty (fun _ _ _ h => h) hkept
    rw [hrun]
    exact shown_runEnded hv i r

/-- A run that fails leaves the last result that it found, if its host functions leave the pipeline
alone; unless it has results itself, which cannot be written out. -/
lemma run_lastResult_of_error {e : Failure}
    (hquiet : ∀ act, imports.Offers act → ∀ w, p.Aside w (act w).2)
    (ha : (w.sessions p.id).artifact = some a) (he : (p.run imports w).1 = .error e) :
    ((p.run imports w).2.sessions p.id).lastResult ≠ none ↔
      e = tooLong ∨ (w.sessions p.id).lastResult ≠ none := by
  by_cases hheld : p.channel ∈ w.logs.captured
  · rw [p.run_of_held imports ha hheld] at he ⊢
    obtain rfl := Except.error.inj he
    simp [tooLong]
  · have hkept : ∀ act, imports.Offers act → World.Preserves
        (p.Underway a fun s _ => s.lastResult = (w.sessions p.id).lastResult) act :=
      fun act hact v hv => hv.aside (fun _ _ _ hs => hs) (hquiet act hact v)
    obtain ⟨i, r, v, hrun, hv⟩ := exists_underway_of_free ha hheld rfl (fun _ _ _ h => h) hkept
    rw [hrun] at he ⊢
    cases r with
    | error f =>
        obtain ⟨m, hm⟩ := asRuntime_eq f
        simp only [runFinished, runEnded, hm, Except.error.injEq] at he
        subst he
        simp [runFinished, runEnded, hv.known, tooLong]
    | ok results =>
        rcases htext : results.text with f | output
        · obtain rfl := Results.text_eq_error htext
          simp only [runFinished, htext, runEnded, Except.error.injEq] at he
          simp [runFinished, htext, runEnded, he]
        · simp only [runFinished, htext, runEnded] at he
          cases he

/-! ## Single calls -/

namespace Step

variable (c : Step p H)

/-- What the run that the call makes comes to, if it makes one. -/
def ran : Option (Except Failure Results) :=
  match c.operation.request with
  | .run => p.runOutcome c.before c.operation.imports
  | .compileAndRun source =>
    match p.compile source c.before with
    | (.ok _, v) => p.runOutcome v c.operation.imports
    | (.error _, _) => none
  | _ => none

/-- What the most recent run since compiling has come to after the call, if `earlier` is what it had
before. -/
def latest (earlier : Option (Except Failure Results)) : Option (Except Failure Results) :=
  match c.operation.request.source? with
  | some _ => c.ran
  | none => c.ran.or earlier

/-- A run fails, and there is a last result nonetheless. -/
def Lingers : Prop := (∃ e, c.ran = some (.error e)) ∧ c.left.lastResult ≠ none

/-- The host functions leave the pipeline alone. -/
def Quiet : Prop := ∀ act, c.operation.imports.Offers act → ∀ w, p.Aside w (act w).2

/-- A run fails where another one has left a last result, or it has results that cannot be written
out. -/
def Inherits : Prop := ∃ e, c.ran = some (.error e) ∧
  (e = tooLong ∨ c.operation.request = .run ∧ c.found.lastResult ≠ none)

variable {c} {earlier : Option (Except Failure Results)}

lemma latest_of_ran {r : Except Failure Results} (h : c.ran = some r) :
    c.latest earlier = some r := by
  rw [latest]
  split
  · exact h
  · rw [h, Option.some_or]

lemma tidy_of_shown {r : Except Failure Results} (hshown : Shown c.left r) (hran : c.ran = some r)
    (h : ¬ c.Lingers) : c.left.Tidy (c.latest earlier) := by
  cases hshown with
  | @own results hstate hresult htext =>
      refine ⟨⟨fun other hother => ?_, fun hfailed => ?_⟩, fun hnone => ?_⟩
      · obtain rfl := Option.some.inj (hresult.symm.trans hother)
        exact ⟨latest_of_ran hran, Or.inr htext⟩
      · simp [hstate] at hfailed
      · simp [hresult] at hnone
  | failed hempty =>
      have hnone : c.left.lastResult = none := by
        by_contra hsome
        exact h ⟨⟨_, hran⟩, hsome⟩
      exact Session.tidy_of_none hnone (hempty hnone) _

end Step

/-- Compiling forgets what is shown, however it ends. -/
lemma compile_shows_none (p : Pipeline M I) (source : Text) (w : World M I H) :
    ((p.compile source w).2.sessions p.id).lastResult = none ∧
    ((p.compile source w).2.sessions p.id).output = "" := by
  rw [compile_session]
  unfold sessionAfter
  split <;> exact ⟨rfl, rfl⟩

namespace Step

variable {c : Step p H} {earlier : Option (Except Failure Results)}

/-- The run that a call makes.  It comes upon what the call has found, or upon nothing that is shown
if the call compiles first. -/
lemma exists_run_of_ran {r : Except Failure Results} (h : c.ran = some r) :
    ∃ (w : World M I H) (a : Artifact M), (w.sessions p.id).artifact = some a ∧
      (p.run c.operation.imports w).1 = r ∧
      c.left = (p.run c.operation.imports w).2.sessions p.id ∧
      (c.operation.request = .run ∧ w.sessions p.id = c.found ∨
        c.operation.request ≠ .run ∧ (w.sessions p.id).lastResult = none ∧
          (w.sessions p.id).output = "") := by
  obtain ⟨⟨request, imports⟩, before, hosts⟩ := c
  cases request with
  | run =>
      obtain ⟨a, ha, hr⟩ := Option.map_eq_some_iff.mp h
      refine ⟨before, a, ha, hr, ?_, Or.inl ⟨rfl, rfl⟩⟩
      rw [left, perform_run]
  | compileAndRun source =>
      have hnone := p.compile_shows_none source before
      rcases hcompile : p.compile source before with ⟨e | b, v⟩
      · simp only [ran, hcompile] at h
        cases h
      · simp only [ran, hcompile] at h
        obtain ⟨a, ha, hr⟩ := Option.map_eq_some_iff.mp h
        rw [hcompile] at hnone
        refine ⟨v, a, ha, hr, ?_, Or.inr ⟨by simp, hnone⟩⟩
        rw [left, perform_compileAndRun, run_compileAndRun, hcompile]
  | _ => cases h

/-- A call that runs nothing forgets what is shown, or leaves it but for the output. -/
lemma tidy_of_not_ran (hfound : c.found.Tidy earlier) (h : c.ran = none) :
    c.left.Tidy (c.latest earlier) := by
  obtain ⟨⟨request, imports⟩, before, hosts⟩ := c
  cases request with
  | compile source =>
      obtain ⟨hresult, houtput⟩ := p.compile_shows_none source before
      rw [left, perform_compile]
      exact Session.tidy_of_none hresult houtput _
  | run =>
      -- there is no artifact
      obtain ⟨v, hrun, hsessions, -⟩ := p.run_of_absent imports (Option.map_eq_none_iff.mp h)
      rw [latest, h, left, perform_run, hrun, hsessions]
      exact hfound
  | compileAndRun source =>
      obtain ⟨hresult, houtput⟩ := p.compile_shows_none source before
      have hsession := p.compile_session source before
      rw [left, perform_compileAndRun, run_compileAndRun]
      rcases hcompile : p.compile source before with ⟨e | a, v⟩
      · rw [hcompile] at hresult houtput
        exact Session.tidy_of_none hresult houtput _
      · -- there is an artifact, so it has been run
        rw [hcompile] at hsession
        have ha : (v.sessions p.id).artifact = some a := congrArg Session.artifact hsession
        simp only [ran, hcompile, runOutcome, ha] at h
        cases h
  | package | loadExample | clearLogs =>
      exact quiet_preserves (P := fun w => (w.sessions p.id).Tidy earlier) (fun _ _ hw => hw)
        (fun _ _ hw => hw) (fun w hw => by simpa using hw.clear) rfl (by simp) before hfound

/-- **What one call leaves.** -/
theorem tidy_left (hfound : c.found.Tidy earlier) (h : ¬ c.Lingers) :
    c.left.Tidy (c.latest earlier) := by
  rcases hran : c.ran with _ | r
  · exact tidy_of_not_ran hfound hran
  · obtain ⟨w, a, ha, rfl, hleft, hw⟩ := exists_run_of_ran hran
    have hempty : (w.sessions p.id).lastResult = none → (w.sessions p.id).output = "" := by
      rcases hw with ⟨-, hw⟩ | ⟨-, -, houtput⟩
      · rw [hw]
        exact hfound.empty
      · exact fun _ => houtput
    have hshown := shown_run c.hosts ha hempty
    rw [← hleft] at hshown
    exact tidy_of_shown hshown hran h

/-- A call that compiles first comes upon no last result. -/
lemma lingers_iff_inherits (hquiet : c.Quiet) : c.Lingers ↔ c.Inherits := by
  rw [Lingers, Inherits, ← exists_and_right]
  refine exists_congr fun e => and_congr_right fun hran => ?_
  obtain ⟨w, a, ha, he, hleft, hw⟩ := exists_run_of_ran hran
  rw [hleft, run_lastResult_of_error hquiet ha he]
  rcases hw with ⟨hrequest, hw⟩ | ⟨hrequest, hnone, -⟩
  · simp [hrequest, hw]
  · simp [hrequest, hnone]

end Step

/-! ## Calls one after another -/

/-- What the most recent run since compiling has come to, after the calls. -/
def latest (calls : List (Step p H)) : Option (Except Failure Results) :=
  calls.foldl (fun earlier c => c.latest earlier) none

/-- What one call leaves, the next one finds. -/
lemma tidy_of_consecutive {calls : List (Step p H)} {s : Session M}
    {earlier : Option (Except Failure Results)} (hs : s.Tidy earlier) (h : Consecutive s calls)
    (hlingers : ∀ c ∈ calls, ¬ c.Lingers) (before : List (Step p H)) (c : Step p H)
    (after : List (Step p H)) (hcalls : calls = before ++ c :: after) :
    c.left.Tidy ((before ++ [c]).foldl (fun earlier c => c.latest earlier) earlier) := by
  induction calls generalizing s earlier before with
  | nil => simp at hcalls
  | cons d ds ih =>
      obtain ⟨rfl, hrest⟩ := h
      have hleft := Step.tidy_left hs (hlingers d List.mem_cons_self)
      cases before with
      | nil =>
          obtain ⟨rfl, -⟩ := List.cons.inj hcalls
          exact hleft
      | cons b before =>
          obtain ⟨rfl, hds⟩ := List.cons.inj hcalls
          exact ih hleft hrest (fun d hd => hlingers d (List.mem_cons_of_mem _ hd)) before hds

/-- **When what is shown is fresh.**  Whatever operations of a new pipeline are called one after
another, with whatever engine and host functions that may call it again, after each of them the last
result is that of the most recent run since compiling, and nothing is shown beside a failed run —
exactly if no run that fails leaves a last result.  It leaves one if it has found one, unless a host
function has had something compiled. -/
theorem forall_fresh_iff (calls : List (Step p H)) (h : Consecutive {} calls) :
    ((∀ before c after, calls = before ++ c :: after → c.left.Fresh (latest (before ++ [c]))) ↔
      ∀ c ∈ calls, ¬ c.Lingers) ∧ ∀ c ∈ calls, c.Quiet → (c.Lingers ↔ c.Inherits) := by
  refine ⟨⟨fun hfresh c hc => ?shown, fun hlingers => ?kept⟩,
    fun c _ hquiet => Step.lingers_iff_inherits hquiet⟩
  case shown =>
    rintro ⟨⟨e, hran⟩, hsome⟩
    obtain ⟨before, after, hcalls⟩ := List.append_of_mem hc
    obtain ⟨results, hresults⟩ := Option.ne_none_iff_exists'.mp hsome
    have hown := ((hfresh before c after hcalls).result results hresults).1
    rw [latest, List.foldl_append, List.foldl_cons, List.foldl_nil, Step.latest_of_ran hran] at hown
    cases hown
  case kept =>
    have hstart : Session.Tidy ({} : Session M) none := Session.tidy_of_none rfl rfl _
    intro before c after hcalls
    exact (tidy_of_consecutive hstart h hlingers before c after hcalls).toFresh

/-! ## A run that fails after one that has succeeded -/

/-- A pipeline whose modules give what a host function returns. -/
def relay : Pipeline Unit Unit := ⟨0, callingBack "" "env" "log", channelName⟩

/-- The host function returns something or fails. -/
def answering (r : Except Failure Value) : ImportTable (Import (World Unit Unit Unit)) :=
  [("env", [("log", .function fun _ => World.settle r)])]

lemma aside_answering {r : Except Failure Value} (act : Act (World Unit Unit Unit) Value)
    (h : (answering r).Offers act) (w : World Unit Unit Unit) : relay.Aside w (act w).2 := by
  obtain ⟨args, rfl⟩ := ImportTable.offers_singleton.mp h
  exact ⟨rfl, fun hc => hc⟩

/-- A call in a world, with this host function. -/
def relayed (r : Except Failure Value) (request : Request) (before : World Unit Unit Unit) :
    Step relay Unit where
  operation := ⟨request, answering r⟩
  before
  hosts act h := .own (aside_answering act h)

/-- A source is compiled. -/
def firstRelay : Step relay Unit :=
  relayed (.ok .null) (.compile "(module)") { files := { working := "/" }, host := () }

/-- What came of it is run. -/
def secondRelay : Step relay Unit :=
  relayed (.ok (.text "seven")) .run (perform relay firstRelay.operation firstRelay.before).2

/-- It is run again, and this time the host function fails. -/
def thirdRelay : Step relay Unit :=
  relayed (.error (.raised .value "boom")) .run
    (perform relay secondRelay.operation secondRelay.before).2

lemma secondRelay_ran : secondRelay.ran = some (.ok [(Sandbox.entryPoint, .text "seven")]) := by
  rfl

lemma thirdRelay_ran : thirdRelay.ran = some (.error (.stage .runtime "boom")) := by rfl

/-- The first run is shown, and the second one fails where it has left its result. -/
theorem forall_fresh_relayed :
    (∀ before c after, [firstRelay, secondRelay] = before ++ c :: after →
      c.left.Fresh (latest (before ++ [c]))) ∧
    secondRelay.left.lastResult = some [(Sandbox.entryPoint, .text "seven")] ∧
    thirdRelay.Lingers := by
  have htwice := forall_fresh_iff [firstRelay, secondRelay] ⟨rfl, rfl, trivial⟩
  have hthrice := forall_fresh_iff [firstRelay, secondRelay, thirdRelay] ⟨rfl, rfl, rfl, trivial⟩
  refine ⟨htwice.1.mpr ?_, by rfl, ?_⟩
  · intro c hc
    simp only [List.mem_cons, List.not_mem_nil, or_false] at hc
    rcases hc with rfl | rfl
    · rintro ⟨⟨e, he⟩, -⟩
      cases he
    · rintro ⟨⟨e, he⟩, -⟩
      rw [secondRelay_ran] at he
      cases he
  · have hfound : thirdRelay.found.lastResult ≠ none := by
      intro hnone
      cases hnone
    refine (hthrice.2 thirdRelay (by simp) fun act hact => aside_answering act hact).mpr ?_
    exact ⟨_, thirdRelay_ran, Or.inr ⟨rfl, hfound⟩⟩

/-- What is shown beside the failure is still the first. -/
theorem thirdRelay_not_fresh : Consecutive {} [firstRelay, secondRelay, thirdRelay] ∧
    thirdRelay.ran = some (.error (.stage .runtime "boom")) ∧
    thirdRelay.left.state = .runFailed ∧
    thirdRelay.left.lastResult = some [(Sandbox.entryPoint, .text "seven")] ∧
    ¬ thirdRelay.left.Fresh (latest [firstRelay, secondRelay, thirdRelay]) := by
  have hstate : thirdRelay.left.state = .runFailed := by rfl
  have hresult : thirdRelay.left.lastResult = some [(Sandbox.entryPoint, .text "seven")] := by rfl
  refine ⟨⟨rfl, rfl, rfl, trivial⟩, thirdRelay_ran, hstate, hresult, fun h => ?_⟩
  have hnone := (h.failed hstate).2
  rw [hresult] at hnone
  cases hnone

end Pipeline

end WatWorkbench
