import WatWorkbench.Proofs.Pipeline.Chronicle
import WatWorkbench.Proofs.Pipeline.Scribes

/-!
# Running, end to end

A run begins with a note and ends with another one, whatever happens in between.  In between, the log
gets what the host functions write, in the order in which they are called.  What the module fails
with becomes a failure of the run.

* `Pipeline.launched` — the world in which the module is run.
* `Pipeline.run_eq_of_runModule` — a run, by what the module comes to in that world.
* `Pipeline.run_of_wrote` — the records of a run, and what it leaves besides.
* **`Pipeline.run_narrates`** — a run of a pipeline whose host functions are scribes.
-/

namespace WatWorkbench

/-- Results without very long integers are written out. -/
lemma Results.exists_text {r : Results} (h : ∀ x ∈ r, x.2.isSpellable) :
    ∃ text, r.text = .ok text := by
  cases htext : r.text with
  | ok text => exact ⟨text, rfl⟩
  | error e =>
      unfold Results.text at htext
      split_ifs at htext
      generalize hlines : (List.mapM _ r : Except Failure (List Text)) = lines at htext
      rcases lines with d | lines
      · obtain ⟨x, hx, hfails⟩ := mapM_eq_error hlines
        dsimp only at hfails
        rw [if_pos (h x hx)] at hfails
        cases hfails
      · cases htext

lemma Results.exists_text_of_ok {r : Except Failure Results}
    (h : ∀ results, r = .ok results → ∀ x ∈ results, x.2.isSpellable) :
    ∃ text, ∀ results, r = .ok results → results.text = .ok text := by
  cases r with
  | error e => exact ⟨"", fun _ hr => by cases hr⟩
  | ok results =>
      obtain ⟨text, htext⟩ := exists_text (h results rfl)
      exact ⟨text, fun _ hr => by cases hr; exact htext⟩

namespace Pipeline

variable {M I H : Type} {p : Pipeline M I} {w : World M I H} {a : Artifact M}
  {imports : ImportTable (Import (World M I H))}

/-! ## The module -/

/-- The world in which the module is run: the channel is captured into the pipeline's log, where it
says that running begins. -/
def launched (p : Pipeline M I) (w : World M I H) : World M I H :=
  ((w.withSession p.id ({ · with state := .running })).tapped p.channel p.id).written
    (p.record .info running)

/-- A run, by what the module comes to. -/
lemma run_eq_of_runModule (hartifact : (w.sessions p.id).artifact = some a)
    (hfree : p.channel ∉ w.logs.captured) {r : Except Failure Results} {v : World M I H}
    (hmodule : Sandbox.runModule p.id p.engine p.channel a.module imports (p.launched w) = (r, v)) :
    p.run imports w = p.runEnded (w.logs.tap p.channel p.id) (p.runFinished v r) := by
  obtain ⟨i, entered, -, -, henter, hrun⟩ := p.run_of_free hartifact hfree
  rw [LogState.enter_eq_tapped hfree] at henter
  obtain ⟨rfl, rfl⟩ := Prod.mk.inj (Except.ok.inj henter)
  rw [hrun]
  exact congrArg _ (p.run_runLogged a imports (p.runStarted w _) hmodule)

/-- The entry for what the module comes to. -/
def runLine : Except Failure Results → LogEntry
  | .ok _ => ⟨.success, completed⟩
  | .error e => ⟨.error, "Runtime error: " ++ e.message⟩

/-- What a pipeline holds after its module has come to something, with the text of its results. -/
def runSession (before : Session M) (text : Text) : Except Failure Results → Session M
  | .ok results => { before with state := .ran, lastResult := some results, output := text }
  | .error _ => { before with state := .runFailed }

/-- **A run, by what its module comes to** and writes: the records, what is left of the logging, what
the run comes to and what it leaves besides. -/
theorem run_of_wrote (hartifact : (w.sessions p.id).artifact = some a)
    (hfree : p.channel ∉ w.logs.captured) {r : Except Failure Results} {v : World M I H}
    (hmodule : Sandbox.runModule p.id p.engine p.channel a.module imports (p.launched w) = (r, v))
    {rs : List LogRecord} (hwrote : p.Wrote rs (p.launched w) v)
    {text : Text} (htext : ∀ results, r = .ok results → results.text = .ok text) :
    ∃ ss : List LogRecord, (∀ x ∈ ss, x.logger = p.channel) ∧
      ss.flatMap LogRecord.captured =
        ⟨.info, running⟩ :: rs.flatMap LogRecord.captured ++ [runLine r] ∧
      (p.run imports w).2.logs = ((w.logs.tap p.channel p.id).leave
        ((w.logs.tapped p.channel p.id).writtenAll ss)).2 ∧
      (p.run imports w).1 = r.mapError asRuntime ∧
      (p.run imports w).2.sessions p.id = runSession (w.sessions p.id) text r ∧
      (p.run imports w).2.files = v.files ∧ (p.run imports w).2.host = v.host := by
  have hlogs : v.logs = (w.logs.tapped p.channel p.id).writtenAll
      (p.record .info running :: rs) := hwrote.logs
  have hsession : v.sessions p.id = { w.sessions p.id with state := .running } :=
    hwrote.session.trans (World.withSession_sessions_self w p.id ({ · with state := .running }))
  have hwritten (x : LogRecord) : (v.written x).logs = (w.logs.tapped p.channel p.id).writtenAll
      (p.record .info running :: rs ++ [x]) := by
    rw [LogState.writtenAll_append, ← hlogs]
    rfl
  rw [run_eq_of_runModule hartifact hfree hmodule]
  cases r with
  | error e =>
      refine ⟨_, logger_framed hwrote.channel .info .error running ("Runtime error: " ++ e.message),
        captured_framed _ _ _ _ _, ?_, rfl, ?_, rfl, rfl⟩
      · show (Interceptor.leave _ (v.written _).logs).2 = _
        rw [hwritten]
      · simp only [runFinished, runEnded, World.withSession_sessions_self,
          World.released_sessions, World.written_sessions, hsession]
        rfl
  | ok results =>
      have htext := htext results rfl
      simp only [runFinished, htext, runEnded]
      refine ⟨_, logger_framed hwrote.channel .info .success running completed,
        captured_framed _ _ _ _ _, ?_, rfl, ?_, rfl, rfl⟩
      · show (Interceptor.leave _ (v.written _).logs).2 = _
        rw [hwritten]
      · simp only [World.withSession_sessions_self, World.released_sessions,
          World.written_sessions, hsession]
        rfl

/-- The records of a run, if all host functions are scribes. -/
lemma exists_runRecords (hartifact : (w.sessions p.id).artifact = some a)
    (hfree : p.channel ∉ w.logs.captured) (hosts : ∀ act, imports.Offers act → p.Scribe act)
    {r : Except Failure Results}
    (hmodule : (Sandbox.runModule p.id p.engine p.channel a.module imports (p.launched w)).1 = r)
    {text : Text} (htext : ∀ results, r = .ok results → results.text = .ok text) :
    ∃ told rs, List.Forall₂ (p.Told imports)
        (Sandbox.visits p.id p.engine p.channel a.module imports (p.launched w)) told ∧
      (∀ x ∈ rs, x.logger = p.channel) ∧
      rs.flatMap LogRecord.captured =
        ⟨.info, running⟩ :: told.flatten.flatMap LogRecord.captured ++ [runLine r] ∧
      (p.run imports w).2.logs = ((w.logs.tap p.channel p.id).leave
        ((w.logs.tapped p.channel p.id).writtenAll rs)).2 ∧
      (p.run imports w).1 = r.mapError asRuntime ∧
      (p.run imports w).2.sessions p.id = runSession (w.sessions p.id) text r := by
  obtain ⟨told, rs, hcalls, hwrote, hsaid⟩ :=
    Sandbox.exists_told hosts a.module (p.launched w)
  rcases hbody : Sandbox.runModule p.id p.engine p.channel a.module imports (p.launched w) with
    ⟨r', v⟩
  obtain rfl : r' = r := by rw [← hmodule, hbody]
  rw [hbody] at hwrote
  obtain ⟨ss, hchannel, hlines, hlogs, hrun, hsession, -⟩ :=
    run_of_wrote hartifact hfree hbody hwrote htext
  rw [hsaid] at hlines
  exact ⟨told, ss, hcalls, hchannel, hlines, hlogs, hrun, hsession⟩

/-! ## Running -/

/-- **Running, end to end.**  The log gets a note that running begins, then what each call of a host
function has written, call by call and in their order, and then one entry for what the module has
come to.  Results are given back and kept, with their text; any failure becomes one of the run, which
it is already or of which it is the text. -/
theorem run_narrates (hartifact : (w.sessions p.id).artifact = some a)
    (hchannel : w.logs.Capturable p.channel p.id)
    (hosts : ∀ act, imports.Offers act → p.Scribe act)
    (hspellable : ∀ results,
      (Sandbox.runModule p.id p.engine p.channel a.module imports (p.launched w)).1 = .ok results →
      ∀ x ∈ results, x.2.isSpellable) :
    ∃ told terminal,
      List.Forall₂ (p.Told imports)
        (Sandbox.visits p.id p.engine p.channel a.module imports (p.launched w)) told ∧
      ((p.run imports w).2.logs.books p.id).entries = (w.logs.books p.id).entries ++
        ⟨.info, running⟩ :: told.flatten.flatMap LogRecord.captured ++ [terminal] ∧
      match (Sandbox.runModule p.id p.engine p.channel a.module imports (p.launched w)).1 with
      | .ok results => terminal = ⟨.success, completed⟩ ∧ (p.run imports w).1 = .ok results ∧
          ∃ text, results.text = .ok text ∧ (p.run imports w).2.sessions p.id =
            { w.sessions p.id with state := .ran, lastResult := some results, output := text }
      | .error e => terminal = ⟨.error, "Runtime error: " ++ e.message⟩ ∧
          (p.run imports w).1 = .error (.stage .runtime e.message) ∧
          (∀ m, e = .stage .runtime m → (p.run imports w).1 = .error e) ∧
          (p.run imports w).2.sessions p.id = { w.sessions p.id with state := .runFailed } := by
  have hasRuntime (e : Failure) : asRuntime e = .stage .runtime e.message := by
    unfold asRuntime
    split <;> rfl
  generalize hmodule : (Sandbox.runModule p.id p.engine p.channel a.module imports
    (p.launched w)).1 = r at hspellable ⊢
  obtain ⟨text, htext⟩ := Results.exists_text_of_ok hspellable
  obtain ⟨told, rs, hcalls, hrs, hlines, hlogs, houtcome, hsession⟩ :=
    exists_runRecords hartifact hchannel.free hosts hmodule htext
  refine ⟨told, runLine r, hcalls, ?_, ?_⟩
  · rw [hlogs, List.append_assoc, ← hlines]
    exact LogState.writtenAll_tapped_book hchannel hrs rfl
  · cases r with
    | ok results => exact ⟨rfl, houtcome, text, htext results rfl, hsession⟩
    | error e =>
        have houtcome : (p.run imports w).1 = .error (.stage .runtime e.message) :=
          houtcome.trans (congrArg Except.error (hasRuntime e))
        exact ⟨rfl, houtcome, fun m hm => by rw [houtcome, hm]; rfl, hsession⟩

/-- An engine for examples, whose modules have a number logged and give it. -/
def announcing (n : Int) : Engine Unit Unit where
  compile _ _ := .ok []
  load _ _ := .ok ()
  instantiate _ _ _ := .done (.ok ())
  hasEntry _ _ _ := .ok true
  invoke _ _ _ := .call ⟨"env", "log", {}, [.int n]⟩ .done

/-- A pipeline with such an engine. -/
def announcer (n : Int) : Pipeline Unit Unit := { id := 1, engine := announcing n }

/-- A world for examples, in which there is an artifact. -/
def furnished (a : Artifact Unit) : World Unit Unit Unit where
  files := { working := "/" }
  sessions _ := { state := .compiled, artifact := some a }
  host := ()

section Announcing

variable (n : Int) (a : Artifact Unit) (w : World Unit Unit Unit)

/-- A module of such an engine calls one host function, -/
lemma visits_announcing : ∃ v, Sandbox.visits (announcer n).id (announcer n).engine
    (announcer n).channel a.module [] w = [(⟨"env", "log", {}, [.int n]⟩, v)] := ⟨_, rfl⟩

/-- which gives the number back. -/
lemma runModule_announcing : (Sandbox.runModule (announcer n).id (announcer n).engine
    (announcer n).channel a.module [] w).1 = .ok [("main", .int n)] := by
  have hlookup : (Sandbox.linkTable (M := Unit) (I := Unit) (H := Unit) channelName []).lookup?
      "env" "log" = some (.function (Sandbox.logValue channelName)) := rfl
  have hanswer (v : World Unit Unit Unit) : (World.runScript (Sandbox.linkTable channelName [])
      (.call ⟨"env", "log", {}, [.int n]⟩ .done) v).1 = .ok (.int n) := by
    show (World.answer (Sandbox.linkTable channelName []) ⟨"env", "log", {}, [.int n]⟩ v).1 = _
    rw [World.answer_of_lookup? hlookup, Sandbox.logValue, World.fst_bind_pure, Sandbox.logLine,
      World.log, World.run_write]
    rfl
  rw [Sandbox.runModule_eq, World.run_bind, World.run_instantiate]
  show (Sandbox.enter (announcer n).id (announcer n).engine (announcer n).channel [] () _).1 = _
  rw [Sandbox.enter, World.run_bind, World.run_hasEntry]
  show ((World.invoke (announcer n).id (announcer n).engine () _ _ >>= fun v => pure [(_, v)]) _).1
    = _
  rw [World.fst_bind_pure, World.run_invoke]
  exact congrArg (Except.map _) (hanswer _)

end Announcing

/-- A number that is logged comes between the two notes. -/
theorem run_narrates_announcing :
    ((announcer (-7)).run [] (furnished ⟨(), [], "(module)"⟩)).1 = .ok [("main", .int (-7))] ∧
      (((announcer (-7)).run [] (furnished ⟨(), [], "(module)"⟩)).2.logs.books
          (announcer (-7)).id).entries =
        [⟨.info, running⟩, ⟨.info, "WASM log: -7"⟩, ⟨.success, completed⟩] := by
  generalize (⟨(), [], "(module)"⟩ : Artifact Unit) = a
  have hfit := LogState.fit_initial channelName
  have hmodule := runModule_announcing (-7) a ((announcer (-7)).launched (furnished a))
  obtain ⟨v, hvisits⟩ := visits_announcing (-7) a ((announcer (-7)).launched (furnished a))
  have hosts : ∀ act, ImportTable.Offers ([] : ImportTable (Import (World Unit Unit Unit))) act →
      (announcer (-7)).Scribe act := fun act h => absurd h (ImportTable.not_offers_nil act)
  have hrun := run_narrates (p := announcer (-7)) (w := furnished a) (a := a) rfl
    (hfit.capturable (hfit.unread 1 (Nat.le_refl _))) hosts (fun results h x hx => by
      obtain rfl := Except.ok.inj (hmodule.symm.trans h)
      rw [List.mem_singleton.mp hx]
      exact Value.isSpellable_int (by decide))
  rw [hmodule, hvisits] at hrun
  obtain ⟨told, terminal, hcalls, hlog, rfl, hresult, -⟩ := hrun
  refine ⟨hresult, ?_⟩
  obtain ⟨rs, rest, htold, hrest, rfl⟩ := List.forall₂_cons_left_iff.mp hcalls
  obtain rfl := List.forall₂_nil_left_iff.mp hrest
  have hline := htold.line (fun _ h => (List.not_mem_nil h).elim) rfl rfl (-7) rfl (by decide)
  rw [hlog, List.flatten_singleton, hline]
  rfl

end Pipeline

end WatWorkbench
