import WatWorkbench.Playground.Handlers
import WatWorkbench.Proofs.Pipeline.Standard

/-!
# Visits to the playground

A visitor presses buttons, as many and in whatever order, with any text in the editor.  Whatever goes
wrong in between, no handler fails: what went wrong is the last line of the log.  The output panel
shows the results that are due, and packages are handed out of what has been compiled.

* `Request`, `Reply`, `respond` — what is asked for, and what comes back.
* `Visit`, `due` — where a visit is, and the results that are due to be shown.
* `Sound` — what holds between requests; `Fares` — what an operation of the pipeline comes to.
* `fares_compile`, `fares_run`, `fares_compileAndRun`, `fares_package` — the operations.
* `Right` — what a reply has to be; **`right_of_respond`** — every reply is.
-/

namespace WatWorkbench

/-! ## Results as text -/

lemma Text.isEmpty_join {t : Text} (h : t.points ≠ []) (sep : Text) (ts : List Text) :
    (Text.join sep (t :: ts)).isEmpty = false := by
  cases ts <;> simp [Text.join, Text.isEmpty, List.intercalate, h]

/-- The text of results is never empty. -/
lemma Results.isEmpty_text {r : Results} {t : Text} (h : r.text = .ok t) : t.isEmpty = false := by
  have hline (name rest : Text) : (name ++ ": " ++ rest).points ≠ [] := by
    rw [Text.points_append, Text.points_append]
    simp [Text.ofString]
  unfold Results.text at h
  split_ifs at h with hempty
  · cases h
    rfl
  · obtain ⟨⟨name, v⟩, rest, rfl⟩ := List.exists_cons_of_ne_nil
      (by simpa using hempty : r ≠ [])
    rw [List.mapM_cons] at h
    dsimp only at h
    split_ifs at h
    · generalize (List.mapM _ rest : Except Failure (List Text)) = lines at h
      rcases lines with e | lines
      · cases h
      · cases h
        exact Text.isEmpty_join (hline name v.plain) _ _
    · cases h

/-- Every key of the catalog is found. -/
lemma Catalog.exists_find {key : Text} (h : key ∈ keys) :
    ∃ e ∈ examples, e.key = key ∧ find (.text key) = .ok e := by
  obtain ⟨e, he, rfl⟩ := List.mem_map.mp h
  cases hfind : find? e.key with
  | none => exact absurd (by simp) (List.find?_eq_none.mp hfind e he)
  | some found =>
      refine ⟨found, List.mem_of_find?_eq_some hfind, ?_, ?_⟩
      · simpa using List.find?_some hfind
      · simp [find, Value.isHashable, hfind]

namespace Playground

open Wasm

variable {M I H α : Type}

/-! ## Requests -/

/-- What a visitor asks for. -/
inductive Request where
  /-- What a button of the toolbar asks for, with what the editor holds. -/
  | act (button source : Text)
  /-- An example. -/
  | showExample (key : {k : Text // k ∈ Catalog.keys})
  /-- The package. -/
  | download (fileName : Text)

/-- What comes back. -/
inductive Reply where
  /-- The output and the log. -/
  | panels (output : Text) (logs : LogPanel)
  /-- A source and the log. -/
  | sourceOf (source : Text) (logs : LogPanel)
  /-- A file, if there is one, and the log. -/
  | file (file : Option Download) (logs : LogPanel)

/-- What the log panel shows then. -/
def Reply.logs : Reply → LogPanel
  | panels _ logs | sourceOf _ logs | file _ logs => logs

/-- Handles a request. -/
def respond (p : Pipeline M I) : Request → Act (World M I H) Reply
  | .act button source => do
    let (output, logs) ← act p button source
    return .panels output logs
  | .showExample key => do
    let (source, logs) ← showExample p (.text key)
    return .sourceOf source logs
  | .download fileName => do
    let (file, logs) ← download p fileName
    return .file file logs

/-- What a request has the pipeline do, where that may fail. -/
def operation? (p : Pipeline M I) : Request → Option (Act (World M I H) Unit)
  | .act button source =>
    match Action.ofButton? button with
    | some .clear | none => none
    | some action => some (perform p source action)
  | .showExample _ => none
  | .download _ => some do let _ ← p.package none

/-- The results that are due to be shown after a request: those of the last run that has succeeded
since a source was to be compiled or the log was emptied, if there is one. -/
def due (p : Pipeline M I) (w : World M I H) (before : Option Results) : Request → Option Results
  | .act button source =>
    match Action.ofButton? button with
    | some .compile | some .clear => none
    | some .compileAndRun => (p.compileAndRun source [] w).1.toOption
    | some .run => (p.run [] w).1.toOption.orElse fun _ => before
    | none => before
  | .showExample _ | .download _ => before

/-- Where a visit is. -/
structure Visit (M I H : Type) where
  /-- The world. -/
  world : World M I H
  /-- The results that are due to be shown. -/
  due : Option Results := none

/-- Where a visit is after a request. -/
def Visit.next (p : Pipeline M I) (v : Visit M I H) (r : Request) : Visit M I H :=
  ⟨(respond p r v.world).2, Playground.due p v.world v.due r⟩

/-- Where a visit is after requests, one after another. -/
def Visit.after (p : Pipeline M I) (v : Visit M I H) (rs : List Request) : Visit M I H :=
  rs.foldl (Visit.next p) v

/-! ## Between requests -/

/-- What holds between requests: the pipeline can work, it holds no artifact that cannot be packaged,
and its output is the text of the results that are due. -/
structure Sound (p : Pipeline M I) (w : World M I H) (results : Option Results) : Prop where
  shows : ∃ log, p.Shows w log
  plain : ∀ a, (w.sessions p.id).artifact = some a → a.source.hasSurrogate = false
  output : match results with
    | none => (w.sessions p.id).output = ""
    | some rs => rs.text = .ok (w.sessions p.id).output

/-- What an operation of the pipeline comes to: if it fails then as one of its stages, and that it has
failed is what the last entry of the log says. -/
structure Fares (p : Pipeline M I) (v : World M I H) (results : Option Results)
    (r : Except Failure α) : Prop where
  sound : Sound p v results
  expected : ∀ e, r = .error e → e.isStage = true
  ending : ∃ entry, (v.logs.books p.id).entries.getLast? = some entry ∧
    (entry.kind = .error ↔ ∃ e, r = .error e)

section Operations

variable {p : Pipeline Module Instance} {w : World Module Instance H} {results : Option Results}

/-- What an operation comes to, by what it leaves: the last entry says whether it has failed. -/
lemma Fares.of_leaves {v : World Module Instance H} {log : List LogEntry} {entry : LogEntry}
    {session : Session Module} {r : Except Failure α}
    (hleaves : p.Leaves w v (log ++ [entry]) session)
    (hplain : ∀ a, session.artifact = some a → a.source.hasSurrogate = false)
    (houtput : match results with
      | none => session.output = ""
      | some rs => rs.text = .ok session.output)
    (hexpected : ∀ e, r = .error e → e.isStage = true)
    (hkind : entry.kind = .error ↔ ∃ e, r = .error e) : Fares p v results r where
  sound := ⟨⟨_, hleaves.shows⟩, hleaves.session ▸ hplain, hleaves.session ▸ houtput⟩
  expected := hexpected
  ending := ⟨entry, by rw [hleaves.shows.log, List.getLast?_concat], hkind⟩

/-- What an operation gives does not matter for that. -/
lemma Fares.map {v : World Module Instance H} {r : Except Failure α} (h : Fares p v results r)
    {β : Type} (f : α → β) : Fares p v results (r.map f) := by
  refine ⟨h.sound, fun e he => h.expected e ?_, ?_⟩
  · cases r with
    | error d => cases he; rfl
    | ok a => cases he
  · obtain ⟨entry, hlast, hkind⟩ := h.ending
    refine ⟨entry, hlast, hkind.trans ?_⟩
    cases r <;> simp [Except.map]

lemma run_discard (act : Act (World M I H) α) (w : World M I H) :
    (do let _ ← act : Act (World M I H) Unit) w = ((act w).1.map fun _ => (), (act w).2) := by
  rw [World.run_bind]
  rcases act w with ⟨e | a, v⟩ <;> rfl

section

variable (h : Sound p w results) {fuel : Option Int} (hengine : p.engine = WebAssembly.engine fuel)

include h hengine

lemma fares_compile (source : Text) :
    Fares p (p.compile source w).2 none (p.compile source w).1 := by
  obtain ⟨log, hshows⟩ := h.shows
  obtain ⟨hrun, hleaves⟩ := hshows.leaves_compile source
  rw [hengine] at hrun hleaves
  rw [hrun]
  cases houtcome : Compiler.outcome (WebAssembly.engine fuel) (w.histories p.id) source with
  | ok a =>
      rw [houtcome] at hleaves
      change p.Leaves w _ ([_] ++ [_]) _ at hleaves
      refine .of_leaves hleaves (fun b hb => ?_) rfl nofun (by simp)
      obtain rfl : a = b := Option.some.inj hb
      exact (Compiler.plain_of_outcome houtcome).2.1
  | error e =>
      obtain ⟨m, rfl⟩ := Compiler.stage_of_outcome houtcome
      rw [houtcome] at hleaves
      have hlog : Pipeline.compileLog (M := Module) log (.error (.stage .compile m)) =
          log ++ [⟨.info, Pipeline.compiling⟩] ++ [⟨.error, "Compilation error: " ++ m⟩] := by
        simp [Pipeline.compileLog, Pipeline.compileLines]
      rw [hlog] at hleaves
      exact .of_leaves hleaves h.plain rfl (fun _ he => by cases he; rfl) (by simp)

lemma fares_run :
    Fares p (p.run [] w).2 ((p.run [] w).1.toOption.orElse fun _ => results) (p.run [] w).1 := by
  obtain ⟨log, hshows⟩ := h.shows
  cases hartifact : (w.sessions p.id).artifact with
  | none =>
      obtain ⟨hrun, hleaves⟩ := hshows.leaves_run_of_none hartifact []
      rw [hrun]
      exact .of_leaves hleaves h.plain h.output (fun _ he => by cases he; rfl) (by simp)
  | some a =>
      have : Nonempty H := ⟨w.host⟩
      obtain ⟨r, text, lines, htext, hrun⟩ := Pipeline.exists_run H fuel p.channel a.module
      obtain ⟨hrun, hleaves⟩ := hrun p w log a hengine rfl hshows hartifact rfl
      rw [← List.append_assoc] at hleaves
      rw [hrun]
      cases r with
      | error e =>
          refine .of_leaves hleaves h.plain h.output (fun _ he => ?_)
            (by simp [Pipeline.runLine, Except.mapError])
          cases he
          unfold Pipeline.asRuntime
          split <;> rfl
      | ok rs =>
          refine .of_leaves hleaves h.plain ?_ nofun (by simp [Pipeline.runLine, Except.mapError])
          exact htext rs rfl

lemma fares_compileAndRun (source : Text) :
    Fares p (p.compileAndRun source [] w).2 (p.compileAndRun source [] w).1.toOption
      (p.compileAndRun source [] w).1 := by
  have hcompiled := fares_compile h hengine source
  rw [Pipeline.compileAndRun, World.run_bind]
  rcases hcase : p.compile source w with ⟨e | a, v⟩ <;> rw [hcase] at hcompiled
  · exact ⟨hcompiled.sound, fun _ he => hcompiled.expected _ (by cases he; rfl),
      by simpa using hcompiled.ending⟩
  · -- compiling leaves nothing due, so that only what the run gives is
    have hran := fares_run hcompiled.sound hengine
    have hnone : ((p.run [] v).1.toOption.orElse fun _ => none) = (p.run [] v).1.toOption := by
      cases (p.run [] v).1.toOption <;> rfl
    rw [hnone] at hran
    exact hran

omit hengine in
lemma fares_package : Fares p (p.package none w).2 results (p.package none w).1 := by
  obtain ⟨log, hshows⟩ := h.shows
  cases hartifact : (w.sessions p.id).artifact with
  | none =>
      obtain ⟨hrun, hleaves⟩ := hshows.leaves_package_of_none hartifact none
      rw [hrun]
      exact .of_leaves hleaves h.plain h.output (fun _ he => by cases he; rfl) (by simp)
  | some a =>
      obtain ⟨hrun, hleaves⟩ := hshows.leaves_package hartifact (h.plain a hartifact)
      rw [hrun]
      exact .of_leaves hleaves h.plain h.output nofun (by simp)

/-- What an action comes to that can fail. -/
lemma fares_perform {action : Action} (haction : action ≠ .clear) {button : Text}
    (hbutton : Action.ofButton? button = some action) (source : Text) :
    Fares p (perform p source action w).2 (due p w results (.act button source))
      (perform p source action w).1 := by
  simp only [due, hbutton]
  cases action with
  | compile =>
      rw [perform, run_discard]
      exact (fares_compile h hengine source).map _
  | run =>
      rw [perform, run_discard]
      exact (fares_run h hengine).map _
  | compileAndRun =>
      rw [perform, run_discard]
      exact (fares_compileAndRun h hengine source).map _
  | clear => exact absurd rfl haction

end

end Operations

/-! ## Handlers -/

/-- The output panel shows results, or says that there are none. -/
def ShowsOutput (results : Option Results) (output : Text) : Prop :=
  match results with
  | none => output = noOutput
  | some rs => rs.text = .ok output

section Handlers

variable {p : Pipeline Module Instance} {w : World Module Instance H} {results : Option Results}

/-- A failure of a stage is in the log already. -/
lemma run_logged (act : Act (World M I H) α) {w : World M I H}
    (h : ∀ e, (act w).1 = .error e → e.isStage = true) :
    logged act w = (.ok (act w).1.toOption, (act w).2) := by
  simp only [logged, World.run_bind, World.run_attempt]
  rcases hact : act w with ⟨e | a, v⟩
  · have he : e.isStage = true := h e (by rw [hact])
    simp [he, Except.toOption]
  · rfl

/-- The output panel shows the results that are due. -/
lemma Sound.showsOutput (h : Sound p w results) :
    ShowsOutput results (outputPanel (w.sessions p.id).output) := by
  have houtput := h.output
  unfold ShowsOutput
  cases results with
  | none =>
      dsimp only at houtput ⊢
      rw [houtput]
      rfl
  | some rs =>
      dsimp only at houtput ⊢
      rw [houtput, outputPanel, Results.isEmpty_text houtput]
      rfl

/-- What an action leads to, if what it asks the pipeline for fails as expected if at all. -/
lemma respond_act {button source : Text} {r : Except Failure Unit} {v : World Module Instance H}
    (hrun : (Action.ofButton? button).forM (perform p source) w = (r, v))
    (hexpected : ∀ e, r = .error e → e.isStage = true) :
    respond p (.act button source) w = (.ok (.panels (outputPanel (v.sessions p.id).output)
      (logPanel (v.logs.books p.id).entries)), v) := by
  have hlogged := run_logged ((Action.ofButton? button).forM (perform p source)) (w := w)
    (by rw [hrun]; exact hexpected)
  rw [hrun] at hlogged
  simp only [respond, act, World.run_bind, hlogged, Pipeline.session, World.run_session, logs,
    Pipeline.logs, World.run_book, World.run_pure]

end Handlers

/-! ## Replies -/

/-- The log panel shows a log: a notice if it is empty, and otherwise a line for each entry. -/
def ShowsLog (panel : LogPanel) (entries : List LogEntry) : Prop :=
  (panel = .notice "No logs yet." ↔ entries = []) ∧
    (entries ≠ [] → panel = .lines (entries.map fun e =>
      .text .division { cssClass := some e.kind.name } e.message))

lemma showsLog_logPanel (entries : List LogEntry) : ShowsLog (logPanel entries) entries := by
  cases entries with
  | nil => exact ⟨iff_of_true rfl rfl, fun h => absurd rfl h⟩
  | cons e es => exact ⟨iff_of_false nofun nofun, fun _ => rfl⟩

/-- What is handed out of an artifact, if there is one: the archive with its parts, which is read as
such if it is not too large. -/
def HandsOut (artifact : Option (Artifact M)) (fileName : Text) (file : Option Download) : Prop :=
  match artifact with
  | none => file = none
  | some a => ∃ data, file = some ⟨fileName, Base64.encode data⟩ ∧
      data = Archive.write (Packaging.parts a.binary a.source) Deflate.store ∧
      (Packaging.Countable Deflate.store a.binary a.source →
        Archive.read data = .ok (Packaging.parts a.binary a.source))

/-- The content of a reply, the log apart, is what the request asks for. -/
def Answers (p : Pipeline M I) (v : Visit M I H) : Request → Reply → Prop
  | .act button source, .panels output _ =>
    ShowsOutput (due p v.world v.due (.act button source)) output
  | .showExample key, .sourceOf source _ => ∃ e ∈ Catalog.examples, e.key = key ∧ e.source = source
  | .download fileName, .file file _ => HandsOut (v.world.sessions p.id).artifact fileName file
  | _, _ => False

/-- What a reply has to be. -/
structure Right (p : Pipeline M I) (v : Visit M I H) (r : Request) (reply : Reply) : Prop where
  content : Answers p v r reply
  logs : ShowsLog reply.logs ((v.next p r).world.logs.books p.id).entries
  ending : ∀ operation, operation? p r = some operation →
    ∃ entry, ((v.next p r).world.logs.books p.id).entries.getLast? = some entry ∧
      (entry.kind = .error ↔ ∃ e, (operation v.world).1 = .error e)

/-- A package is handed out if there is something to package. -/
lemma Right.handsOut {p : Pipeline M I} {v : Visit M I H} {fileName : Text} {reply : Reply}
    (h : Right p v (.download fileName) reply)
    (hsome : (v.world.sessions p.id).artifact.isSome = true) :
    ∃ file logs, reply = .file (some file) logs ∧ file.fileName = fileName := by
  have hcontent := h.content
  cases reply with
  | panels _ _ | sourceOf _ _ => exact hcontent.elim
  | file file logs =>
      obtain ⟨a, ha⟩ := Option.isSome_iff_exists.mp hsome
      change HandsOut (v.world.sessions p.id).artifact fileName file at hcontent
      rw [ha] at hcontent
      obtain ⟨data, rfl, -⟩ := hcontent
      exact ⟨_, logs, rfl, rfl⟩

/-- A reply that shows the log as it is now, and what follows from it for the next request. -/
lemma exists_right {p : Pipeline M I} {v : Visit M I H} {r : Request} {reply : Reply}
    {w : World M I H} (hreply : respond p r v.world = (.ok reply, w))
    (hlogs : reply.logs = logPanel (w.logs.books p.id).entries) (hcontent : Answers p v r reply)
    (hending : ∀ operation, operation? p r = some operation →
      ∃ entry, (w.logs.books p.id).entries.getLast? = some entry ∧
        (entry.kind = .error ↔ ∃ e, (operation v.world).1 = .error e))
    (hsound : Sound p w (due p v.world v.due r)) :
    ∃ reply, (respond p r v.world).1 = .ok reply ∧ Right p v r reply ∧
      Sound p (v.next p r).world (v.next p r).due := by
  have hnext : (v.next p r).world = w := by rw [Visit.next, hreply]
  refine ⟨reply, by rw [hreply], ⟨hcontent, ?_, ?_⟩, ?_⟩
  · rw [hnext, hlogs]
    exact showsLog_logPanel _
  · rw [hnext]
    exact hending
  · rw [hnext]
    exact hsound

section Replies

variable {p : Pipeline Module Instance} {v : Visit Module Instance H} {fuel : Option Int}
  (h : Sound p v.world v.due) (hengine : p.engine = WebAssembly.engine fuel)

include h hengine

/-- An action is replied to. -/
lemma right_act (button source : Text) :
    ∃ reply, (respond p (.act button source) v.world).1 = .ok reply ∧
      Right p v (.act button source) reply ∧
      Sound p (v.next p (.act button source)).world (v.next p (.act button source)).due := by
  -- what the action comes to, whichever it is
  obtain ⟨r, w, hrun, hexpected, hsound, hending⟩ : ∃ r w,
      (Action.ofButton? button).forM (perform p source) v.world = (r, w) ∧
      (∀ e, r = .error e → e.isStage = true) ∧
      Sound p w (due p v.world v.due (.act button source)) ∧
      ∀ operation, operation? p (.act button source) = some operation →
        ∃ entry, (w.logs.books p.id).entries.getLast? = some entry ∧
          (entry.kind = .error ↔ ∃ e, (operation v.world).1 = .error e) := by
    cases hbutton : Action.ofButton? button with
    | none =>
        refine ⟨.ok (), v.world, rfl, nofun, ?_, ?_⟩
        · simpa only [due, hbutton] using h
        · simp [operation?, hbutton]
    | some action =>
        by_cases haction : action = .clear
        · subst haction
          obtain ⟨log, hshows⟩ := h.shows
          have hleaves := hshows.leaves_clearLogs
          refine ⟨.ok (), (p.clearLogs v.world).2, rfl, nofun, ?_, ?_⟩
          · simp only [due, hbutton]
            refine ⟨⟨_, hleaves.shows⟩, ?_, ?_⟩ <;> rw [hleaves.session]
            exact h.plain
          · simp [operation?, hbutton]
        · have hfares := fares_perform h hengine haction hbutton source
          refine ⟨_, _, rfl, hfares.expected, hfares.sound, fun operation hoperation => ?_⟩
          have hsame : perform p source action = operation := by
            cases action <;> first
              | exact absurd rfl haction
              | simpa [operation?, hbutton] using hoperation
          rw [← hsame]
          exact hfares.ending
  exact exists_right (respond_act hrun hexpected) rfl hsound.showsOutput hending hsound

omit hengine in
/-- An example is shown. -/
lemma right_showExample (key : {k : Text // k ∈ Catalog.keys}) :
    ∃ reply, (respond p (.showExample key) v.world).1 = .ok reply ∧
      Right p v (.showExample key) reply ∧
      Sound p (v.next p (.showExample key)).world (v.next p (.showExample key)).due := by
  obtain ⟨log, hshows⟩ := h.shows
  obtain ⟨e, hmem, hkey, hfind⟩ := Catalog.exists_find key.2
  obtain ⟨hrun, hsessions, hshown⟩ := hshows.loadExample hfind
  rcases hcase : p.loadExample (.text key) v.world with ⟨r, w⟩
  rw [hcase] at hrun hsessions hshown
  dsimp only at hrun hsessions hshown
  subst hrun
  have hreply : respond p (.showExample key) v.world =
      (.ok (.sourceOf e.source (logPanel (w.logs.books p.id).entries)), w) := by
    simp only [respond, showExample, World.run_bind, hcase, logs, Pipeline.logs, World.run_book,
      World.run_pure]
  have hsound : Sound p w v.due := by
    refine ⟨⟨_, hshown⟩, ?_, ?_⟩ <;> rw [hsessions]
    · exact h.plain
    · exact h.output
  exact exists_right hreply rfl ⟨e, hmem, hkey, rfl⟩ (by simp [operation?]) hsound

omit hengine in
/-- What has been compiled is handed out. -/
lemma right_download (fileName : Text) :
    ∃ reply, (respond p (.download fileName) v.world).1 = .ok reply ∧
      Right p v (.download fileName) reply ∧
      Sound p (v.next p (.download fileName)).world (v.next p (.download fileName)).due := by
  have hfares := fares_package h
  have hlogged := run_logged _ hfares.expected
  have hreply : respond p (.download fileName) v.world =
      (.ok (.file ((p.package none v.world).1.toOption.map fun bs => ⟨fileName, Base64.encode bs⟩)
        (logPanel ((p.package none v.world).2.logs.books p.id).entries)),
        (p.package none v.world).2) := by
    simp only [respond, download, World.run_bind, hlogged, logs, Pipeline.logs, World.run_book,
      World.run_pure]
  refine exists_right hreply rfl ?content ?ending hfares.sound
  case content =>
    obtain ⟨log, hshows⟩ := h.shows
    show HandsOut (v.world.sessions p.id).artifact fileName _
    unfold HandsOut
    cases hartifact : (v.world.sessions p.id).artifact with
    | none => rw [(hshows.leaves_package_of_none hartifact none).1]; rfl
    | some a =>
        have hplain := h.plain a hartifact
        rw [(hshows.leaves_package hartifact hplain).1]
        refine ⟨_, rfl, rfl, fun hcount => Archive.read_write ?_⟩
        exact Packaging.writable_of_countable Deflate.faithful_store hcount
  case ending =>
    intro operation hoperation
    rw [← Option.some.inj hoperation, run_discard]
    exact (hfares.map _).ending

/-- **Every request** is replied to rightly, and leaves all in order for the next one. -/
lemma right_of_sound (r : Request) :
    ∃ reply, (respond p r v.world).1 = .ok reply ∧ Right p v r reply ∧
      Sound p (v.next p r).world (v.next p r).due := by
  cases r with
  | act button source => exact right_act h hengine button source
  | showExample key => exact right_showExample h key
  | download fileName => exact right_download h fileName

lemma sound_after (rs : List Request) : Sound p (v.after p rs).world (v.after p rs).due := by
  -- on the requests, with the visit left open: each reply leaves all in order for the next request
  induction rs generalizing v with
  | nil => exact h
  | cons r rs ih =>
      obtain ⟨-, -, -, hnext⟩ := right_of_sound h hengine r
      exact ih hnext

end Replies

/-! ## Visits -/

variable {w : World Module Instance H} {channel : Text}

/-- A new pipeline has everything in order. -/
lemma exists_sound_create (hfit : w.logs.Fit channel) (hunused : w.sessions w.logs.next = {})
    (e : Engine Module Instance) :
    ∃ p v, Pipeline.create e channel w = (.ok p, v) ∧ p.engine = e ∧ Sound p v none := by
  refine ⟨⟨w.logs.next, e, channel⟩, { w with logs := w.logs.fresh.2 }, rfl, rfl,
    ⟨⟨[], hfit.fresh, hfit.blank _ (Nat.le_refl _)⟩, ?_, ?_⟩⟩
  · simp [hunused]
  · simp [hunused]

/-- **A visit to the playground.**  A pipeline is made with the WebAssembly engine, on a channel that
nobody has and whose records nobody keeps back.  After any requests, whatever they have come to, any
further request is replied to, and rightly: what it shows of the output, of a source or of a package
is what is due, what it shows of the log is the log, and if the pipeline has failed to do what was
asked for then the log ends with an error, and only then. -/
theorem right_of_respond (fuel : Option Int) (hfit : w.logs.Fit channel)
    (hunused : w.sessions w.logs.next = {}) (requests : List Request) (request : Request) :
    ∃ p v, Pipeline.create (WebAssembly.engine fuel) channel w = (.ok p, v) ∧
      ∃ reply, (respond p request (Visit.after p ⟨v, none⟩ requests).world).1 = .ok reply ∧
        Right p (Visit.after p ⟨v, none⟩ requests) request reply := by
  obtain ⟨p, v, hcreate, hengine, hsound⟩ := exists_sound_create hfit hunused (WebAssembly.engine fuel)
  have hafter := sound_after (v := ⟨v, none⟩) hsound hengine requests
  obtain ⟨reply, hreply, hright, -⟩ := right_of_sound hafter hengine request
  exact ⟨p, v, hcreate, reply, hreply, hright⟩

/-- A world in which nothing has happened. -/
def quietWorld : World Module Instance Unit where
  files := FileSystem.initial "/"
  host := ()

/-- The pipeline that is made there first. -/
def firstPipeline : Pipeline Module Instance :=
  ⟨quietWorld.logs.next, WebAssembly.engine none, channelName⟩

/-- The smallest module is compiled and run, then a text is to be compiled that is none, and then
something is pressed that is no button. -/
def shortVisit : Visit Module Instance Unit :=
  Visit.after firstPipeline ⟨{ quietWorld with logs := quietWorld.logs.fresh.2 }, none⟩
    [.act "compile-run-button" "(module)", .act "compile-button" "(", .act "" ""]

/-- After that the package of the module is handed out. -/
theorem respond_shortVisit :
    quietWorld.logs.Fit channelName ∧ quietWorld.sessions quietWorld.logs.next = {} ∧
      ∃ file logs, (respond firstPipeline (.download "module.zip") shortVisit.world).1 =
        .ok (.file (some file) logs) ∧ file.fileName = "module.zip" := by
  have hfit : quietWorld.logs.Fit channelName := LogState.fit_initial channelName
  refine ⟨hfit, rfl, ?_⟩
  obtain ⟨p, v, hcreate, reply, hreply, hright⟩ := right_of_respond none hfit rfl
    [.act "compile-run-button" "(module)", .act "compile-button" "(", .act "" ""]
    (.download "module.zip")
  obtain ⟨hp, rfl⟩ := Prod.mk.inj hcreate
  obtain rfl : firstPipeline = p := Except.ok.inj hp
  change (respond firstPipeline (.download "module.zip") shortVisit.world).1 = .ok reply at hreply
  change Right firstPipeline shortVisit (.download "module.zip") reply at hright
  have hsome : (shortVisit.world.sessions firstPipeline.id).artifact.isSome = true := by
    decide +kernel
  obtain ⟨file, logs, rfl, hfile⟩ := hright.handsOut hsome
  exact ⟨file, logs, hreply, hfile⟩

end Playground

end WatWorkbench
