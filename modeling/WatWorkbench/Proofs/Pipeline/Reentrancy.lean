import WatWorkbench.Proofs.Pipeline.Alongside

/-!
# Runs whose host functions call the pipeline again

A host function may call any operation of the pipeline that is being run, as often as it likes and
without minding how the calls end.  If the run succeeds all the same, it has come to what it would
have come to without them; only what the log held when it was last emptied is missing from the log.

* `Pipeline.LeftOut` — an action, and the same action with nested calls left out.
* `Pipeline.Guest` — a host function in these two forms.
* `Pipeline.Reconverged` — what the two runs have in common in the end.
* **`run_reconverged`** — a run that succeeds with nested calls succeeds without them, to the same
  effect.
-/

namespace WatWorkbench.Pipeline

variable {M I H : Type}

/-! ## Leaving out nested calls -/

/-- The second action is the first one with its nested calls left out.  Between them it does things
of its own, for which it does not look at what they may have changed. -/
inductive LeftOut (p : Pipeline M I) : {α : Type} → Act (World M I (Notes H)) α →
    Act (World M I (Notes H)) α → Prop
  | own {α : Type} {act : Act (World M I (Notes H)) α} (h : p.Oblivious act) : LeftOut p act act
  | bind {α β : Type} {act act' : Act (World M I (Notes H)) α}
      {next next' : α → Act (World M I (Notes H)) β} (hact : LeftOut p act act')
      (hnext : ∀ a, LeftOut p (next a) (next' a)) : LeftOut p (act >>= next) (act' >>= next')
  | attempt {α : Type} {act act' : Act (World M I (Notes H)) α} (hact : LeftOut p act act') :
      LeftOut p (World.attempt act) (World.attempt act')
  | call (op : Operation (World M I (Notes H))) : LeftOut p (p.called op) (p.skipped op)

/-- The same of entries of an import table. -/
inductive LeftOutImport (p : Pipeline M I) : Import (World M I (Notes H)) →
    Import (World M I (Notes H)) → Prop
  | function {f f' : List Value → Act (World M I (Notes H)) Value}
      (h : ∀ args, LeftOut p (f args) (f' args)) : LeftOutImport p (.function f) (.function f')
  | withCaller {f f' : Caller → List Value → Act (World M I (Notes H)) Value}
      (h : ∀ caller args, LeftOut p (f caller args) (f' caller args)) :
      LeftOutImport p (.withCaller f) (.withCaller f')
  | inert (wrapped : Bool) (v : Value) : LeftOutImport p (.inert wrapped v) (.inert wrapped v)

/-- An entry of an import table, with and without nested calls. -/
structure Guest (p : Pipeline M I) (H : Type) where
  acting : Import (World M I (Notes H))
  quiet : Import (World M I (Notes H))
  leftOut : LeftOutImport p acting quiet

variable {p : Pipeline M I}

lemma LeftOut.simulates {α : Type} {act act' : Act (World M I (Notes H)) α}
    (h : LeftOut p act act') : p.Simulates act act' := by
  induction h with
  | own h => exact h
  | bind _ _ hact hnext => exact hact.bind hnext
  | attempt _ hact => exact hact.attempt
  | call op => exact simulates_called op

/-- An engine cannot tell the two forms of a guest apart. -/
lemma Guest.binding (g : Guest p H) : g.acting.binding = g.quiet.binding := by
  obtain ⟨acting, quiet, h⟩ := g
  cases h <;> rfl

lemma Guest.shapes (guests : ImportTable (Guest p H)) :
    (guests.map Guest.acting).map Import.binding = (guests.map Guest.quiet).map Import.binding := by
  rw [ImportTable.map_map, ImportTable.map_map]
  exact congrArg (ImportTable.map · guests) (funext Guest.binding)

/-! ## A module with guests -/

/-- Calls that a module makes. -/
lemma simulates_answer (guests : ImportTable (Guest p H)) (q : HostCall) :
    p.Simulates (World.answer (guests.map Guest.acting) q)
      (World.answer (guests.map Guest.quiet) q) := by
  have hfind : ∀ f : Guest p H → Import (World M I (Notes H)),
      Entries.find? (guests.map f) q.module =
        (Entries.find? guests q.module).map (Entries.each f) := fun f =>
    Entries.find?_each (Entries.each f) guests q.module
  unfold World.answer
  rw [hfind, hfind]
  cases Entries.find? guests q.module with
  | none => exact fun _ _ h => ⟨rfl, h⟩
  | some es =>
      simp only [Option.map_some, Entries.find?_each]
      cases Entries.find? es q.name with
      | none => exact fun _ _ h => ⟨rfl, h⟩
      | some g =>
          obtain ⟨acting, quiet, h⟩ := g
          cases h with
          | function h => exact (h q.args).simulates
          | withCaller h => exact (h q.caller q.args).simulates
          | inert wrapped v => exact fun _ _ h => ⟨rfl, h⟩

lemma oblivious_logValue (logger : Text) (args : List Value) :
    p.Oblivious (H := H) (Sandbox.logValue logger args) := by
  unfold Sandbox.logValue
  split
  · exact (Simulates.write _).bind fun _ => .pure _
  · exact .throw _

lemma oblivious_logString (logger : Text) (caller : Caller) (args : List Value) :
    p.Oblivious (H := H) (Sandbox.logString logger caller args) := by
  unfold Sandbox.logString
  split
  · exact (Simulates.settle _).bind fun _ => (Simulates.write _).bind fun _ => .pure _
  · exact .throw _

/-- The default host functions, which make no nested calls. -/
def defaultGuests (p : Pipeline M I) (H : Type) : ImportTable (Guest p H) :=
  [("env", [
    ("log", ⟨_, _, .function fun args => .own (oblivious_logValue p.channel args)⟩),
    ("log_string", ⟨_, _, .withCaller fun caller args =>
      .own (oblivious_logString p.channel caller args)⟩)])]

/-- A module is run to the same outcome. -/
lemma simulates_runModule (e : Engine M I) (m : M) (guests : ImportTable (Guest p H)) :
    p.Simulates (Sandbox.runModule p.id e p.channel m (guests.map Guest.acting))
      (Sandbox.runModule p.id e p.channel m (guests.map Guest.quiet)) := by
  let table := ImportTable.merge (defaultGuests p H) guests
  have hacting : ImportTable.merge (Sandbox.defaultImports p.channel) (guests.map Guest.acting) =
      table.map Guest.acting := ImportTable.merge_map Guest.acting (defaultGuests p H) guests
  have hquiet : ImportTable.merge (Sandbox.defaultImports p.channel) (guests.map Guest.quiet) =
      table.map Guest.quiet := ImportTable.merge_map Guest.quiet (defaultGuests p H) guests
  unfold Sandbox.runModule World.instantiate World.hasEntry World.invoke
  rw [hacting, hquiet]
  dsimp only
  rw [Guest.shapes]
  refine .bind ((Simulates.ask _ _).bind fun _ => .runScript (simulates_answer table) _) fun i => ?_
  refine .bind ((Simulates.ask _ _).bind fun _ => .settle _) fun entry => ?_
  split
  · exact .bind ((Simulates.ask _ _).bind fun _ => .runScript (simulates_answer table) _)
      fun _ => .pure _
  · exact (Simulates.write _).bind fun _ => .pure _

/-! ## A run with guests -/

/-- What two runs have in common in the end, of which the second one leaves out the nested calls of
the first one. -/
structure Reconverged (p : Pipeline M I) (w v : World M I (Notes H)) : Prop where
  ran : (w.sessions p.id).state = .ran
  sessions : w.sessions = v.sessions
  histories : w.histories = v.histories
  files : w.files = v.files
  own : w.host.own = v.host.own
  refused : ∀ o ∈ w.host.outcomes, o.2 = p.refusal o.1
  /-- If none of them was to empty the log, the log is the same. -/
  sameLog : (∀ o ∈ w.host.outcomes, o.1 ≠ .clearLogs) →
    (w.logs.books p.id).entries = (v.logs.books p.id).entries
  /-- Otherwise it is what has come after the last time it was to be emptied. -/
  laterLog : (∃ o ∈ w.host.outcomes, o.1 = .clearLogs) →
    ∃ earlier, v.host.cleared = some earlier ∧
      (v.logs.books p.id).entries = earlier ++ (w.logs.books p.id).entries

/-- The two runs begin in the same way. -/
lemma Agree.refl {w : World M I (Notes H)} (hheld : p.channel ∈ w.logs.captured)
    (hpresent : (w.sessions p.id).artifact ≠ none) (houtcomes : w.host.outcomes = [])
    (hcleared : w.host.cleared = none) : p.Agree w w where
  held := hheld
  logs := ⟨rfl, rfl, fun _ _ => rfl, by rw [hcleared]; rfl, rfl, rfl⟩
  files := rfl
  histories := rfl
  sessions _ _ := rfl
  present := hpresent
  artifact := rfl
  own := rfl
  outcomes o ho := by rw [houtcomes] at ho; cases ho
  cleared := by rw [houtcomes, hcleared]; simp

/-- And they end in the same way once their modules have come to the same outcome, if that is a
result. -/
lemma Agree.runEnded {w v : World M I (Notes H)} (h : p.Agree w v) (i : Interceptor)
    {r : Except Failure Results} {results : Results}
    (hok : (p.runEnded i (p.runFinished w r)).1 = .ok results) :
    (p.runEnded i (p.runFinished v r)).1 = .ok results ∧
      p.Reconverged (p.runEnded i (p.runFinished w r)).2 (p.runEnded i (p.runFinished v r)).2 := by
  cases r with
  | error e => cases hok
  | ok results' =>
      -- success writes over everything that a refused call may have changed of the session
      cases htext : results'.text with
      | error e =>
          simp only [runFinished, htext, Pipeline.runEnded] at hok
          cases hok
      | ok output =>
          simp only [runFinished, htext, Pipeline.runEnded] at hok ⊢
          obtain rfl : results' = results := Except.ok.inj hok
          refine ⟨rfl, ?_⟩
          have hlogs := (h.logs.write (p.record .success completed)).leave i
          refine ⟨by simp, funext fun n => ?_, h.histories, h.files, h.own, h.outcomes,
            fun hnone => ?_, fun hsome => ?_⟩
          · by_cases hn : n = p.id
            · subst hn
              simp [h.artifact]
            · simp only [World.withSession_sessions_of_ne _ _ hn, World.released_sessions,
                World.written_sessions]
              exact h.sessions n hn
          · have hkept : v.host.cleared = none := by
              by_contra hcleared
              obtain ⟨o, ho, hclear⟩ := h.cleared.mp hcleared
              exact hnone o ho hclear
            rw [hkept] at hlogs
            exact hlogs.log.symm
          · obtain ⟨earlier, hearlier⟩ := Option.ne_none_iff_exists'.mp (h.cleared.mpr hsome)
            rw [hearlier] at hlogs
            exact ⟨earlier, hearlier, hlogs.log⟩

/-- **Nested calls make no difference to a run that succeeds**, however many there are and in
whatever order they are made: without them it gives the same results and ends in the same session,
with the same questions asked of the engines and the same files.  The log is what has come after it
was last to be emptied. -/
theorem run_reconverged (guests : ImportTable (Guest p H)) {w : World M I (Notes H)}
    {results : Results} (houtcomes : w.host.outcomes = []) (hcleared : w.host.cleared = none)
    (hok : (p.run (guests.map Guest.acting) w).1 = .ok results) :
    (p.run (guests.map Guest.quiet) w).1 = .ok results ∧
      p.Reconverged (p.run (guests.map Guest.acting) w).2 (p.run (guests.map Guest.quiet) w).2 := by
  -- a run that succeeds has had an artifact and a free channel
  obtain ⟨a, ha⟩ : ∃ a, (w.sessions p.id).artifact = some a := by
    by_contra hnone
    have habsent : (w.sessions p.id).artifact = none :=
      Option.eq_none_iff_forall_ne_some.mpr fun a ha => hnone ⟨a, ha⟩
    obtain ⟨v, hrun, -⟩ := p.run_of_absent (guests.map Guest.acting) habsent
    rw [hrun] at hok
    cases hok
  have hfree : p.channel ∉ w.logs.captured := by
    intro hheld
    rw [p.run_of_held _ ha hheld] at hok
    cases hok
  obtain ⟨i, entered, -, hlist, -, hrun⟩ := p.run_of_free ha hfree
  have hstart : p.Agree (p.runStarted w entered) (p.runStarted w entered) :=
    .refl (by simp [runStarted, hlist]) (by simp [runStarted, ha]) houtcomes hcleared
  have hwritten := (Simulates.write (p.record .info running) _ _ hstart).2
  rw [World.run_write] at hwritten
  obtain ⟨hfst, hsnd⟩ := simulates_runModule p.engine a.module guests _ _ hwritten
  rcases hx : Sandbox.runModule p.id p.engine p.channel a.module (guests.map Guest.acting)
    ((p.runStarted w entered).written (p.record .info running)) with ⟨r, x⟩
  rcases hy : Sandbox.runModule p.id p.engine p.channel a.module (guests.map Guest.quiet)
    ((p.runStarted w entered).written (p.record .info running)) with ⟨r', y⟩
  rw [hx, hy] at hfst hsnd
  obtain rfl : r = r' := hfst
  have hacting : p.run (guests.map Guest.acting) w = p.runEnded i (p.runFinished x r) := by
    rw [hrun, p.run_runLogged a _ _ hx]
  have hquiet : p.run (guests.map Guest.quiet) w = p.runEnded i (p.runFinished y r) := by
    rw [hrun, p.run_runLogged a _ _ hy]
  rw [hacting] at hok ⊢
  rw [hquiet]
  exact hsnd.runEnded i hok

/-- A pipeline whose modules call a host function that is there anyway. -/
def interrupted : Pipeline Unit Unit := ⟨0, callingBack "(module" "env" "log", channelName⟩

/-- Compiles, empties the log, writes a line to it and runs, where each call is made in the given
way. -/
def interruption (call : Operation (World Unit Unit (Notes Unit)) →
    Act (World Unit Unit (Notes Unit)) Unit) : Act (World Unit Unit (Notes Unit)) Value := do
  call ⟨.compile "(module)", []⟩
  call ⟨.clearLogs, []⟩
  World.write (interrupted.record .info "back")
  call ⟨.run, []⟩
  return .null

/-- A host function that does so. -/
def interrupting : Guest interrupted Unit where
  acting := .function fun _ => interruption interrupted.called
  quiet := .function fun _ => interruption interrupted.skipped
  leftOut := .function fun _ => .bind (.call _) fun _ => .bind (.call _) fun _ =>
    .bind (.own (Simulates.write _)) fun _ => .bind (.call _) fun _ => .own (Simulates.pure _)

/-- A world in which there is something to run. -/
def compiledWorld : World Unit Unit (Notes Unit) where
  files := { working := "/" }
  sessions _ := { state := .compiled, artifact := some ⟨(), [], "(module)"⟩ }
  host := { own := () }

theorem interrupting_reconverged :
    let guests : ImportTable (Guest interrupted Unit) := [("env", [("log", interrupting)])]
    (interrupted.run (guests.map Guest.acting) compiledWorld).1 =
        .ok [(Sandbox.entryPoint, .null)] ∧
      (interrupted.run (guests.map Guest.quiet) compiledWorld).1 =
        .ok [(Sandbox.entryPoint, .null)] ∧
      interrupted.Reconverged (interrupted.run (guests.map Guest.acting) compiledWorld).2
        (interrupted.run (guests.map Guest.quiet) compiledWorld).2 := by
  intro guests
  have hfound : World.answer (ImportTable.merge (Sandbox.defaultImports channelName)
      (guests.map Guest.acting)) ⟨"env", "log", {}, []⟩ = interruption interrupted.called := by
    simp [World.answer, guests, ImportTable.map, ImportTable.merge, Sandbox.defaultImports,
      Entries.put, Entries.overlay, Entries.find?, interrupting]
    rfl
  have hanswer : ∀ v, (interruption interrupted.called v).1 = .ok .null := by
    intro v
    rw [interruption, World.run_bind_of_ok rfl, World.run_bind_of_ok rfl,
      World.run_bind_of_ok (by rw [World.run_write]), World.run_bind_of_ok rfl, World.run_pure]
  have hok : (interrupted.run (guests.map Guest.acting) compiledWorld).1 =
      .ok [(Sandbox.entryPoint, .null)] := by
    exact interrupted.run_fst_of_free (a := ⟨(), [], "(module)"⟩) rfl List.not_mem_nil
      (fun v => runModule_callingBack (hfound ▸ hanswer) v) (Results.text_singleton _ rfl)
  exact ⟨hok, run_reconverged guests rfl rfl hok⟩

end WatWorkbench.Pipeline
