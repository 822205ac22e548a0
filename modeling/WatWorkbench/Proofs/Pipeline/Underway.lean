import WatWorkbench.Proofs.Pipeline.Operation
import WatWorkbench.Proofs.Pipeline.Running

/-!
# While a run is under way

A run has the channel captured while it calls host functions, and they may call the pipeline again.
Compiling and running are refused then, though not before they have changed what the pipeline holds,
and emptying the log takes the output away.  Whatever survives these three changes is still known
when the module has come to its outcome.

* `Pipeline.Lasting` — what survives.
* `Pipeline.Underway` — it is known, and the channel is captured.
* **`Client.underway`** — host functions keep it so.
* `Pipeline.exists_underway_of_free` — a run on a free channel, up to the outcome of the module.
-/

namespace WatWorkbench.Pipeline

variable {M I H : Type} {p : Pipeline M I} {w w' : World M I H} {a : Artifact M}
  {Q : Session M → History M I → Prop}

/-- Something about what a pipeline holds and its engine has been asked, which operations that are
called on a captured channel do not undo. -/
structure Lasting (Q : Session M → History M I → Prop) : Prop where
  compiling : ∀ s asked, Q s asked →
    Q { s with state := .compiling, output := "", lastResult := none } asked
  running : ∀ s asked, Q s asked → Q { s with state := .running } asked
  clearing : ∀ s asked, Q s asked → Q { s with output := "" } asked

/-- The channel is captured, the pipeline has an artifact, and something is known besides. -/
structure Underway (p : Pipeline M I) (a : Artifact M) (Q : Session M → History M I → Prop)
    (w : World M I H) : Prop where
  held : p.channel ∈ w.logs.captured
  artifact : (w.sessions p.id).artifact = some a
  known : Q (w.sessions p.id) (w.histories p.id)

/-! ## What host functions do -/

lemma Underway.congr (h : p.Underway a Q w)
    (hheld : p.channel ∈ w.logs.captured → p.channel ∈ w'.logs.captured)
    (hsession : w'.sessions p.id = w.sessions p.id)
    (hhistory : w'.histories p.id = w.histories p.id) : p.Underway a Q w' :=
  ⟨hheld h.held, hsession ▸ h.artifact, by rw [hsession, hhistory]; exact h.known⟩

lemma Underway.write (r : LogRecord) :
    World.Preserves (p.Underway a Q) (World.write r : Act (World M I H) Unit) :=
  fun w h => by rw [World.run_write]; exact h.congr (fun hc => by simpa using hc) rfl rfl

lemma Underway.capturing {α : Type} {body : Act (World M I H) α}
    (h : World.Preserves (p.Underway a Q) body) (channel : Text) (book : Nat) :
    World.Preserves (p.Underway a Q) (World.capturing channel book body) :=
  .capturing_of_held (fun _ hw => hw.held) (fun _ _ hw hc => hw.congr (fun _ => hc) rfl rfl) h _ _

lemma Underway.compile (hQ : Lasting Q) (source : Text) :
    World.Preserves (p.Underway a Q) (p.compile source : Act (World M I H) (Artifact M)) := by
  intro w h
  rw [p.compile_of_held source w h.held]
  refine ⟨h.held, ?_, ?_⟩
  · simpa [compileStarted] using h.artifact
  · simpa [compileStarted] using hQ.compiling _ _ h.known

/-- Running the pipeline itself is refused; another one holds something of its own and asks an engine
of its own. -/
lemma Underway.run (hQ : Lasting Q) (q : Pipeline M I)
    (imports : ImportTable (Import (World M I H))) (hq : q.id = p.id → q = p)
    (hosts : ∀ act, imports.Offers act → World.Preserves (p.Underway a Q) act) :
    World.Preserves (p.Underway a Q) (q.run imports) := by
  by_cases hid : q.id = p.id
  · obtain rfl := hq hid
    intro w h
    rw [q.run_of_held imports h.artifact h.held]
    refine ⟨h.held, ?_, ?_⟩
    · simpa using h.artifact
    · simpa using hQ.running _ _ h.known
  · have hne : p.id ≠ q.id := Ne.symm hid
    exact run_preserves Underway.write (fun _ hbody => Underway.capturing hbody _ _)
      (fun c w h => h.congr (fun hc => hc) rfl (World.asked_histories_of_ne w c hne))
      (fun change _ w h => h.congr (fun hc => hc) (World.withSession_sessions_of_ne _ _ hne) rfl)
      hosts

/-- **Host functions** keep what is known, if what they do of their own does. -/
theorem Client.underway {α : Type} {act : Act (World M I H) α}
    {Own : World M I H → World M I H → Prop} (hQ : Lasting Q)
    (own : ∀ w w', Own w w' → p.Underway a Q w → p.Underway a Q w')
    (h : Client p p.compile Own act) : World.Preserves (p.Underway a Q) act := by
  refine h.preserves own (Underway.compile hQ)
    (fun q imports hq hosts => Underway.run hQ q imports hq hosts) (fun path => ?packages)
    (fun key => ?examples) ?clears
  case packages =>
    exact package_preserves Underway.write (fun _ hbody => Underway.capturing hbody _ _)
      (fun w files hw => hw.congr (fun hc => hc) rfl rfl) path
  case examples =>
    exact loadExample_preserves Underway.write (fun _ hbody => Underway.capturing hbody _ _) key
  case clears =>
    intro w hw
    rw [run_clearLogs]
    refine ⟨hw.held, ?_, ?_⟩
    · simpa using hw.artifact
    · simpa using hQ.clearing _ _ hw.known

/-! ## The run itself -/

lemma underway_runStarted {entered : LogState} (ha : (w.sessions p.id).artifact = some a)
    (hentered : p.channel ∈ entered.captured)
    (hknown : Q { w.sessions p.id with state := .running } (w.histories p.id)) :
    p.Underway a Q (p.runStarted w entered) := by
  refine ⟨hentered, ?_, ?_⟩
  · simpa [runStarted] using ha
  · simpa [runStarted] using hknown

lemma Underway.ask (hask : ∀ s asked c, Q s asked → Q s (asked ++ [c])) (c : EngineCall M I) :
    World.Preserves (p.Underway a Q) (World.ask p.id c : Act (World M I H) (History M I)) := by
  intro w h
  refine ⟨h.held, h.artifact, ?_⟩
  rw [World.run_ask, World.asked_histories_self]
  exact hask _ _ c h.known

/-- **A run on a free channel**: the module comes to an outcome, and what has lasted till then is
still known when it is put down. -/
lemma exists_underway_of_free {imports : ImportTable (Import (World M I H))}
    (ha : (w.sessions p.id).artifact = some a) (hfree : p.channel ∉ w.logs.captured)
    (hknown : Q { w.sessions p.id with state := .running } (w.histories p.id))
    (hask : ∀ s asked c, Q s asked → Q s (asked ++ [c]))
    (hosts : ∀ act, imports.Offers act → World.Preserves (p.Underway a Q) act) :
    ∃ (i : Interceptor) (r : Except Failure Results) (v : World M I H),
      p.run imports w = p.runEnded i (p.runFinished v r) ∧ p.Underway a Q v := by
  obtain ⟨i, entered, -, hlist, -, hrun⟩ := p.run_of_free ha hfree
  have hstarted : p.Underway a Q (p.runStarted w entered) :=
    underway_runStarted ha (by simp [hlist]) hknown
  have hmodule : World.Preserves (p.Underway a Q)
      (Sandbox.runModule p.id p.engine p.channel a.module imports) :=
    Sandbox.runModule_preserves Underway.write (Underway.ask hask) hosts
  have hwritten := Underway.write (p.record .info running) _ hstarted
  rw [World.run_write] at hwritten
  have hended := hmodule _ hwritten
  rcases hbody : Sandbox.runModule p.id p.engine p.channel a.module imports
    ((p.runStarted w entered).written (p.record .info running)) with ⟨r, v⟩
  rw [hbody] at hended
  exact ⟨i, r, v, by rw [hrun, p.run_runLogged a imports _ hbody], hended⟩

end WatWorkbench.Pipeline
