import WatWorkbench.Proofs.Engine.Spelling
import WatWorkbench.Proofs.Packaging.Execution
import WatWorkbench.Proofs.Pipeline.RunLog

/-!
# Pipelines that run real modules

With the WebAssembly engine, and with the default host functions alone, each operation of a pipeline
can be told from its log and from what it holds: what it comes to, and what it leaves there.

* `Pipeline.Leaves` — what an operation leaves in the log and to hold; nothing else has changed.
* `Pipeline.Shows.leaves_compile`, `leaves_clearLogs` — for any engine.
* `Compiler.stage_of_outcome`, `Compiler.plain_of_outcome` — what compiling comes to.
* **`Pipeline.exists_run`** — what running comes to.
* `Pipeline.Shows.leaves_package` — what packaging comes to.
-/

namespace WatWorkbench

variable {M I H α : Type}

/-! ## What an operation leaves -/

namespace Pipeline

variable {p : Pipeline M I} {w v : World M I H} {log : List LogEntry}

/-- An operation leaves a log and what the pipeline holds, and has changed no files and nothing of the
host. -/
structure Leaves (p : Pipeline M I) (w v : World M I H) (log : List LogEntry)
    (session : Session M) : Prop where
  shows : p.Shows v log
  session : v.sessions p.id = session
  files : v.files = w.files
  host : v.host = w.host

lemma Shows.leaves_compile (h : p.Shows w log) (source : Text) :
    (p.compile source w).1 = Compiler.outcome p.engine (w.histories p.id) source ∧
      p.Leaves w (p.compile source w).2
        (compileLog log (Compiler.outcome p.engine (w.histories p.id) source))
        (sessionAfter (w.sessions p.id)
          (Compiler.outcome p.engine (w.histories p.id) source)) := by
  have hrun : (p.compile source w).1 = Compiler.outcome p.engine (w.histories p.id) source :=
    (p.compile_fst source w).trans (if_neg h.ready.free)
  refine ⟨hrun, h.compile source, ?_, p.compile_files source w, p.compile_host source w⟩
  rw [p.compile_session, hrun]

lemma Shows.leaves_clearLogs (h : p.Shows w log) :
    p.Leaves w (p.clearLogs w).2 [] { w.sessions p.id with output := "" } :=
  ⟨h.clearLogs, World.withSession_sessions_self w p.id ({ · with output := "" }), rfl, rfl⟩

/-- What needs an artifact stops without one, and says so. -/
lemma Shows.leaves_of_none (h : p.Shows w log) (hnone : (w.sessions p.id).artifact = none)
    {act : Act (World M I H) α} (message : Text) {next : Artifact M → Act (World M I H) α}
    (hact : act = p.requireArtifact message >>= next) :
    (act w).1 = .error (.stage .state message) ∧
      p.Leaves w (act w).2 (log ++ [⟨.error, message⟩]) (w.sessions p.id) := by
  obtain ⟨hrun, hshows, hsessions, hfiles, hhost⟩ := h.requireArtifact_of_none hnone message
  have hstopped : act w =
      (.error (.stage .state message), (p.requireArtifact message w).2) := by
    rw [hact, World.run_bind]
    rcases hcase : p.requireArtifact message w with ⟨r, v⟩
    rw [hcase] at hrun
    rw [show r = _ from hrun]
  rw [hstopped]
  exact ⟨rfl, hshows, congrFun hsessions _, hfiles, hhost⟩

lemma Shows.leaves_run_of_none (h : p.Shows w log) (hnone : (w.sessions p.id).artifact = none)
    (imports : ImportTable (Import (World M I H))) :
    (p.run imports w).1 = .error (.stage .state nothingToRun) ∧
      p.Leaves w (p.run imports w).2 (log ++ [⟨.error, nothingToRun⟩]) (w.sessions p.id) :=
  h.leaves_of_none hnone nothingToRun rfl

lemma Shows.leaves_package_of_none (h : p.Shows w log)
    (hnone : (w.sessions p.id).artifact = none) (path : Option Path) :
    (p.package path w).1 = .error (.stage .state nothingToPackage) ∧
      p.Leaves w (p.package path w).2 (log ++ [⟨.error, nothingToPackage⟩]) (w.sessions p.id) :=
  h.leaves_of_none hnone nothingToPackage rfl

end Pipeline

/-! ## Compiling -/

namespace Compiler

open Wasm

variable {fuel : Option Int} {asked : History Module Instance} {source : Text}

/-- The engine does not mind what it was asked before. -/
lemma outcome_webAssembly : outcome (WebAssembly.engine fuel) asked source =
    outcome (WebAssembly.engine fuel) [] source := rfl

/-- Every failure is one of compiling. -/
lemma stage_of_outcome {e : Failure}
    (h : outcome (WebAssembly.engine fuel) asked source = .error e) : ∃ m, e = .stage .compile m := by
  unfold outcome at h
  split_ifs at h
  · exact ⟨_, (Except.error.inj h).symm⟩
  · have hcompile (f : Failure) (hf : WebAssembly.compile source = .error f) :
        ∃ m, f = .stage .compile m := by
      unfold WebAssembly.compile at hf
      split at hf
      · exact ⟨_, (Except.error.inj hf).symm⟩
      · split at hf
        · cases hf
        · exact ⟨_, (Except.error.inj hf).symm⟩
    have hload (octets : Bytes) (f : Failure) (hf : WebAssembly.load octets = .error f) :
        ∃ m, f = .stage .compile m := by
      unfold WebAssembly.load at hf
      split at hf
      · split_ifs at hf
        exact ⟨_, (Except.error.inj hf).symm⟩
      · exact ⟨_, (Except.error.inj hf).symm⟩
    split at h
    · next f hf => exact Except.error.inj h ▸ hcompile f hf
    · split at h
      · next f hf => exact Except.error.inj h ▸ hload _ f hf
      · cases h

/-- What is compiled keeps its source, which can be encoded. -/
lemma plain_of_outcome {a : Artifact Module}
    (h : outcome (WebAssembly.engine fuel) asked source = .ok a) :
    a.source = source ∧ a.source.hasSurrogate = false ∧ WebAssembly.compile source = .ok a.binary := by
  obtain ⟨hsource, hcompile, -⟩ := outcome_eq_ok h
  exact ⟨hsource, hsource ▸ Packaging.plain_of_compile hcompile, hcompile⟩

end Compiler

namespace Pipeline

open Wasm

variable {w : World Module Instance H} {log : List LogEntry}

/-! ## Running -/

variable (H) in
/-- **What running a module comes to**, and which entries its host functions write: the same for all
pipelines that hold it, whatever their logs. -/
theorem exists_run [Nonempty H] (fuel : Option Int) (channel : Text) (m : Module) :
    ∃ (r : Except Failure Results) (text : Text) (lines : List LogEntry),
      (∀ results, r = .ok results → results.text = .ok text) ∧
      ∀ (p : Pipeline Module Instance) (w : World Module Instance H) (log : List LogEntry)
        (a : Artifact Module), p.engine = WebAssembly.engine fuel → p.channel = channel →
        p.Shows w log → (w.sessions p.id).artifact = some a → a.module = m →
        (p.run [] w).1 = r.mapError asRuntime ∧
        p.Leaves w (p.run [] w).2 (log ++ (⟨.info, running⟩ :: lines ++ [runLine r]))
          (runSession (w.sessions p.id) text r) := by
  have hosts : ∀ act, ImportTable.Offers ([] : ImportTable (Import (World Module Instance H))) act →
      World.SteadyIn (·.logger = channel) act :=
    fun act h => absurd h (ImportTable.not_offers_nil act)
  obtain ⟨r, cs, rs, hchannel, hrun⟩ := Sandbox.exists_runModule_eq fuel (fun _ h => h) hosts m
  -- the results do not depend on the world, so that one of them shows that they have a text
  obtain ⟨host⟩ := ‹Nonempty H›
  obtain ⟨-, histories, hmodule⟩ := hrun 0 { files := FileSystem.initial "/", host := host }
  obtain ⟨text, htext⟩ := Results.exists_text_of_ok fun results hr =>
    Sandbox.spellable_of_runModule_default ((congrArg Prod.fst hmodule).trans hr)
  refine ⟨r, text, rs.flatMap LogRecord.captured, htext,
    fun p w log a hengine hp hshows hartifact hm => ?_⟩
  obtain ⟨-, histories, hmodule⟩ := hrun p.id (p.launched w)
  rw [← hengine, ← hm, ← hp] at hmodule
  obtain ⟨ss, hss, hlines, hlogs, houtcome, hsession, hfiles, hhost⟩ :=
    run_of_wrote hartifact hshows.ready.free hmodule
      ⟨fun r hr => (hchannel r hr).trans hp.symm, rfl, rfl⟩ htext
  refine ⟨houtcome, ?_, hsession, hfiles, hhost⟩
  rw [← hlines]
  refine hshows.heard ?_
  rw [hlogs]
  exact LogState.heard_leave hshows.ready.capturable
    (hshows.ready.numbered p.channel _ (Nat.le_refl _)) hss

/-! ## Packaging -/

/-- An artifact whose source can be encoded is packaged. -/
lemma Shows.leaves_package {p : Pipeline Module Instance} (h : p.Shows w log) {a : Artifact Module}
    (hartifact : (w.sessions p.id).artifact = some a) (hplain : a.source.hasSurrogate = false) :
    (p.package none w).1 = .ok (Archive.write (Packaging.parts a.binary a.source) Deflate.store) ∧
      p.Leaves w (p.package none w).2 (log ++ [⟨.success, packaged⟩]) (w.sessions p.id) := by
  obtain ⟨hrun, hfiles, hsessions, hhost, hshows⟩ := h.package hartifact none
  have houtcome : packageOutcome a none w.files =
      (.ok (Archive.write (Packaging.parts a.binary a.source) Deflate.store), w.files) := by
    rw [packageOutcome, Packaging.contents_of_not_hasSurrogate hplain]
  rw [houtcome] at hrun hfiles hshows
  exact ⟨hrun, hshows, congrFun hsessions _, hfiles, hhost⟩

end Pipeline

end WatWorkbench
