import WatWorkbench.Proofs.Log.Listening
import WatWorkbench.Proofs.Packaging.Bundle
import WatWorkbench.Proofs.Pipeline.Operation
import WatWorkbench.Proofs.Pipeline.Running

/-!
# What the log of a pipeline shows

On a channel that nobody else has or keeps back, each operation leaves in the log just what it has
to say, and the channel can be captured again afterwards.  The log is the pipeline's book; what is
said about compiling goes through a book of its own first.

* `World.capturing_eq_tapped` — capturing a channel, in terms of `LogState.tapped`.
* `Pipeline.Shows` — the pipeline can work, and its log is a given one.
* `Shows.requireArtifact`, `Shows.compile`, `Shows.package`, `Shows.loadExample`, `Shows.clearLogs` —
  the log after each operation that calls no host function.
* `Pipeline.packageOutcome` — what packaging comes to, and which files it leaves.
-/

namespace WatWorkbench

variable {M I H α : Type}

/-! ## Capturing -/

namespace World

variable {w : World M I H} {channel : Text}

/-- The world while a channel is captured into a book. -/
def tapped (w : World M I H) (channel : Text) (book : Nat) : World M I H :=
  { w with logs := w.logs.tapped channel book }

/-- On a channel that nobody has, the body is run while the channel is tapped. -/
lemma capturing_eq_tapped (h : channel ∉ w.logs.captured) (book : Nat)
    (body : Act (World M I H) α) :
    capturing channel book body w = ((body (w.tapped channel book)).1,
      (body (w.tapped channel book)).2.released (w.logs.tap channel book)) := by
  have henter : ({ book, channel } : Interceptor).enter w.logs = _ := LogState.enter_eq_tapped h
  simp only [capturing, henter]
  rfl

end World

/-! ## The log of a pipeline -/

namespace Pipeline

variable {p : Pipeline M I} {w : World M I H} {log : List LogEntry}

/-- The entry of a message of a kind. -/
@[simp] lemma captured_record (p : Pipeline M I) (kind : LogKind) (message : Text) :
    (p.record kind message).captured = [⟨kind, message⟩] := by
  have hlevel : Level.info ≤ (p.record kind message).level := by
    cases kind <;> simp [record, Level.info, Level.error]
  rw [LogRecord.captured, if_pos hlevel]
  simp [LogRecord.entries, LogRecord.text?, LogRecord.entryKind, record, Value.isSpellable,
    Value.plain]

/-- What is written between two records of the pipeline's own is on its channel if they all are. -/
lemma logger_framed {rs : List LogRecord} (hrs : ∀ r ∈ rs, r.logger = p.channel)
    (k k' : LogKind) (m m' : Text) :
    ∀ r ∈ p.record k m :: rs ++ [p.record k' m'], r.logger = p.channel := by
  simp only [List.mem_append, List.mem_cons, List.not_mem_nil, or_false]
  rintro r ((rfl | hr) | rfl)
  · rfl
  · exact hrs r hr
  · rfl

lemma captured_framed (rs : List LogRecord) (k k' : LogKind) (m m' : Text) :
    (p.record k m :: rs ++ [p.record k' m']).flatMap LogRecord.captured =
      ⟨k, m⟩ :: rs.flatMap LogRecord.captured ++ [⟨k', m'⟩] := by
  rw [List.flatMap_append, List.flatMap_cons, List.flatMap_singleton, captured_record,
    captured_record]
  rfl

/-- The pipeline can capture its channel, and its log is the given one. -/
structure Shows (p : Pipeline M I) (w : World M I H) (log : List LogEntry) : Prop where
  ready : w.logs.Ready p.channel p.id
  log : (w.logs.books p.id).entries = log

/-- Whatever the pipeline holds and the engine has been asked. -/
lemma Shows.congr {v : World M I H} (h : p.Shows w log) (hlogs : v.logs = w.logs) :
    p.Shows v log := ⟨hlogs ▸ h.ready, hlogs ▸ h.log⟩

/-- A book of the pipeline's own is changed by nobody else. -/
lemma Shows.withBook (h : p.Shows w log) (change : LogBook → LogBook) {log' : List LogEntry}
    (hchange : (change (w.logs.books p.id)).entries = log') :
    p.Shows (w.withBook p.id change) log' where
  ready :=
    { h.ready with
      blank := fun n hn => by
        have hne : n ≠ p.id := fun e => Nat.lt_irrefl _ (Nat.lt_of_lt_of_le h.ready.below (e ▸ hn))
        exact (congrArg LogBook.entries (if_neg hne)).trans (h.ready.blank n hn) }
  log := (congrArg LogBook.entries (if_pos rfl)).trans hchange

/-- What is written to the channel while it is captured into the pipeline's log comes into it. -/
lemma Shows.heard {rs : List LogRecord} {v : World M I H} (h : p.Shows w log)
    (hheard : w.logs.Heard p.channel p.id rs v.logs) :
    p.Shows v (log ++ rs.flatMap LogRecord.captured) :=
  ⟨h.ready.heard hheard h.ready.below, by rw [hheard.entries, h.log]⟩

/-- An operation that writes to the channel while it is captured into the pipeline's log. -/
lemma Shows.captured (h : p.Shows w log) (body : Act (World M I H) α) (rs : List LogRecord)
    (hchannel : ∀ r ∈ rs, r.logger = p.channel)
    (hlogs : (body (w.tapped p.channel p.id)).2.logs =
      (w.logs.tapped p.channel p.id).writtenAll rs) :
    p.Shows (p.captured body w).2 (log ++ rs.flatMap LogRecord.captured) := by
  rw [Pipeline.captured, World.capturing_eq_tapped h.ready.free]
  refine h.heard ?_
  have hleft := LogState.heard_leave h.ready.capturable
    (h.ready.numbered p.channel _ (Nat.le_refl _)) hchannel
  rw [← hlogs] at hleft
  exact hleft

/-! ## The artifact -/

/-- That there is no artifact is logged. -/
lemma Shows.requireArtifact_of_none (h : p.Shows w log) (habsent : (w.sessions p.id).artifact = none)
    (message : Text) :
    (p.requireArtifact message w).1 = .error (.stage .state message) ∧
      p.Shows (p.requireArtifact message w).2 (log ++ [⟨.error, message⟩]) ∧
      (p.requireArtifact message w).2.sessions = w.sessions ∧
      (p.requireArtifact message w).2.files = w.files ∧
      (p.requireArtifact message w).2.host = w.host := by
  have hshows := h.captured (p.emit .error message) [p.record .error message]
    (fun r hr => by rw [List.mem_singleton.mp hr]; rfl) (by rw [run_emit]; rfl)
  rw [List.flatMap_singleton, captured_record] at hshows
  have hrun : p.requireArtifact message w =
      (.error (.stage .state message), (p.captured (p.emit .error message) w).2) := by
    simp only [requireArtifact, World.run_bind, session, World.run_session, habsent]
    rw [Pipeline.captured, World.capturing_eq_tapped h.ready.free, run_emit]
    rfl
  rw [hrun]
  refine ⟨rfl, hshows, ?_⟩
  rw [Pipeline.captured, World.capturing_eq_tapped h.ready.free, run_emit]
  exact ⟨rfl, rfl, rfl⟩

/-! ## Compiling -/

/-- What is said about compiling that has come to an outcome. -/
def compileLines : Except Failure (Artifact M) → List LogEntry
  | .ok _ => [⟨.info, compiling⟩, ⟨.success, compiled⟩]
  | .error (.stage .compile m) => [⟨.info, compiling⟩, ⟨.error, "Compilation error: " ++ m⟩]
  | .error _ => [⟨.info, compiling⟩]

/-- The log after compiling has come to an outcome.  What is said about it takes the place of the log
if there is an artifact, and is added to it if the source is refused. -/
def compileLog (log : List LogEntry) : Except Failure (Artifact M) → List LogEntry
  | .ok a => compileLines (.ok a)
  | .error (.stage .compile m) => log ++ compileLines (M := M) (.error (.stage .compile m))
  | .error _ => log

lemma compileLines_of_ne {e : Failure} (h : ∀ m, e ≠ .stage .compile m) :
    compileLines (M := M) (.error e) = [⟨.info, compiling⟩] := by
  unfold compileLines
  split
  · next hok => cases hok
  · next m hm => exact absurd (Except.error.inj hm) (h m)
  · rfl

lemma compileLog_of_ne {e : Failure} (h : ∀ m, e ≠ .stage .compile m) :
    compileLog (M := M) log (.error e) = log := by
  unfold compileLog
  split
  · next hok => cases hok
  · next m hm => exact absurd (Except.error.inj hm) (h m)
  · rfl

end Pipeline

/-- The compiler itself writes only for those who look for a fault. -/
lemma Compiler.compileSource_logs (id : Nat) (e : Engine M I) (logger source : Text)
    (w : World M I H) :
    ∃ rs : List LogRecord, (∀ r ∈ rs, r.logger = logger) ∧ rs.flatMap LogRecord.captured = [] ∧
      (compileSource id e logger source w).2.logs = w.logs.writtenAll rs := by
  unfold compileSource
  split_ifs
  · exact ⟨[], by simp, rfl, rfl⟩
  · simp only [World.run_bind, World.compileText, World.loadBinary, World.run_ask,
      World.run_settle]
    generalize e.compile (w.histories id) source = translated
    rcases translated with f | binary
    · exact ⟨[], by simp, rfl, rfl⟩
    · dsimp only
      generalize e.load _ binary = loaded
      rcases loaded with f | module
      · exact ⟨[], by simp, rfl, rfl⟩
      · simp only [World.log, World.run_write, assemble, World.run_settle]
        refine ⟨[⟨logger, Level.debug, .text "Compiled %d characters of WAT into %d bytes",
          [.int source.length, .int binary.length], none⟩], by simp, ?_, rfl⟩
        rfl

namespace Pipeline

variable {p : Pipeline M I} {w : World M I H} {log : List LogEntry}

lemma compileLogged_logs (p : Pipeline M I) (source : Text) (w : World M I H) :
    ∃ rs : List LogRecord, (∀ r ∈ rs, r.logger = p.channel) ∧
      rs.flatMap LogRecord.captured =
        compileLines (Compiler.outcome p.engine (w.histories p.id) source) ∧
      (p.compileLogged source w).2.logs = w.logs.writtenAll rs := by
  obtain ⟨v, hv, -⟩ := Compiler.run_compileSource p.id p.engine p.channel source
    (w.written (p.record .info compiling))
  obtain ⟨rs, hchannel, hquiet, hlogs⟩ := Compiler.compileSource_logs p.id p.engine p.channel
    source (w.written (p.record .info compiling))
  rw [hv] at hlogs
  have hrun : v.logs = w.logs.writtenAll (p.record .info compiling :: rs) := hlogs
  have hwritten (r : LogRecord) : (v.written r).logs =
      w.logs.writtenAll (p.record .info compiling :: rs ++ [r]) := by
    rw [LogState.writtenAll_append, ← hrun]
    rfl
  simp only [compileLogged, World.run_bind, run_emit, World.run_attempt, hv,
    World.written_histories]
  generalize Compiler.outcome p.engine (w.histories p.id) source = result
  rcases result with e | a
  · dsimp only
    split
    · next m =>
        simp only [World.run_bind, run_emit]
        refine ⟨_, logger_framed hchannel .info .error compiling ("Compilation error: " ++ m), ?_,
          hwritten _⟩
        rw [captured_framed, hquiet]
        rfl
    · next hother =>
        refine ⟨p.record .info compiling :: rs, ?_, ?_, hrun⟩
        · exact List.forall_mem_cons.mpr ⟨rfl, hchannel⟩
        · rw [compileLines_of_ne hother, List.flatMap_cons, hquiet, captured_record]
          rfl
  · simp only [World.run_bind, run_emit]
    refine ⟨_, logger_framed hchannel .info .success compiling compiled, ?_, hwritten _⟩
    rw [captured_framed, hquiet]
    rfl

/-- **The log after compiling.** -/
theorem Shows.compile (h : p.Shows w log) (source : Text) :
    p.Shows (p.compile source w).2
      (compileLog log (Compiler.outcome p.engine (w.histories p.id) source)) := by
  -- the book of its own, which is new and empty
  have hstarted : (compileStarted p w).logs = w.logs.fresh.2 := rfl
  have hscratch : (compileStarted p w).logs.Ready p.channel w.logs.next := h.ready.toFit.fresh
  have hown : (compileStarted p w).logs.Ready p.channel p.id :=
    { hscratch with ignores := h.ready.ignores, below := Nat.lt_succ_of_lt h.ready.below }
  have hfree : p.channel ∉ (compileStarted p w).logs.captured := hscratch.free
  obtain ⟨rs, hchannel, hlines, hlogs⟩ := p.compileLogged_logs source
    ((compileStarted p w).tapped p.channel w.logs.next)
  obtain ⟨v, hv, -⟩ := p.run_compileLogged source
    ((compileStarted p w).tapped p.channel w.logs.next)
  have hheard := LogState.heard_leave hscratch.capturable
    (hscratch.numbered p.channel _ (Nat.le_refl _)) hchannel
  rw [hv] at hlogs
  have hcaptured := World.capturing_eq_tapped hfree w.logs.next (p.compileLogged source)
  rw [hv] at hcaptured
  rw [p.run_compile source w _ hcaptured]
  change v.logs = (w.logs.fresh.2.tapped p.channel w.logs.next).writtenAll rs at hlogs
  have hhistories : ((compileStarted p w).tapped p.channel w.logs.next).histories =
    w.histories := rfl
  rw [hhistories] at hlines ⊢
  generalize Compiler.outcome p.engine (w.histories p.id) source = result at *
  generalize hu : v.released ((compileStarted p w).logs.tap p.channel w.logs.next) = u
  have hleft : (compileStarted p w).logs.Heard p.channel w.logs.next rs u.logs := by
    rw [← hu]
    show LogState.Heard _ _ _ _ (Interceptor.leave _ v.logs).2
    rw [hlogs]
    exact hheard
  have hready := hown.heard hleft hscratch.below
  have hlog : (u.logs.books p.id).entries = log := by
    refine (hleft.others p.id (Nat.ne_of_lt h.ready.below) h.ready.ignores).trans h.log
  have hnew : (u.logs.books w.logs.next).entries = compileLines result := by
    rw [hleft.entries, hlines]
    exact congrArg (· ++ _) (h.ready.blank w.logs.next (Nat.le_refl _))
  have hshows : p.Shows u log := ⟨hready, hlog⟩
  rcases result with e | a
  · by_cases hcompile : ∃ m, e = .stage .compile m
    · obtain ⟨m, rfl⟩ := hcompile
      refine (hshows.withBook (·.extend (u.logs.books w.logs.next).entries) ?_).congr
        rfl
      rw [LogBook.extend, hlog, hnew]
      rfl
    · have hother : ∀ m, e ≠ .stage .compile m := fun m hm => hcompile ⟨m, hm⟩
      rw [compileFinished_of_ne _ _ _ _ hother, compileLog_of_ne hother]
      exact hshows
  · exact (hshows.withBook (·.replace (u.logs.books w.logs.next).entries) hnew).congr rfl

/-! ## Packaging -/

/-- What packaging an artifact comes to, and the files it leaves. -/
def packageOutcome (a : Artifact M) (path : Option Path) (files : FileSystem) :
    Except Failure Bytes × FileSystem :=
  match Packaging.contents a.binary a.source with
  | .error e => (.error e, files)
  | .ok entries =>
    let data := Archive.write entries Deflate.store
    match path with
    | none => (.ok data, files)
    | some path =>
      let (published, files) := Packaging.publish data path files
      (published.map fun _ => data, files)

/-- What is said about packaging that has come to an outcome. -/
def packageLines : Except Failure Bytes → List LogEntry
  | .ok _ => [⟨.success, packaged⟩]
  | .error (.stage .packaging m) => [⟨.error, "Failed to create download package: " ++ m⟩]
  | .error _ => []

lemma packageLines_of_ne {e : Failure} (h : ∀ m, e ≠ .stage .packaging m) :
    packageLines (.error e) = [] := by
  unfold packageLines
  split
  · next hok => cases hok
  · next m hm => exact absurd (Except.error.inj hm) (h m)
  · rfl

/-- Assembling a package writes only for those who look for a fault. -/
lemma run_packageArtifact (p : Pipeline M I) (a : Artifact M) (path : Option Path)
    (w : World M I H) :
    ∃ rs : List LogRecord, (∀ r ∈ rs, r.logger = p.channel) ∧ rs.flatMap LogRecord.captured = [] ∧
      p.packageArtifact a path w = ((packageOutcome a path w.files).1,
        { w.writtenAll rs with files := (packageOutcome a path w.files).2 }) := by
  simp only [packageArtifact, Packaging.ofArtifact, Packaging.build, World.run_bind,
    World.run_settle, packageOutcome]
  rcases Packaging.contents a.binary a.source with e | entries
  · exact ⟨[], by simp, rfl, rfl⟩
  · refine ⟨[⟨p.channel, Level.debug, .text "Packaged %d entries into %d bytes",
      [.int entries.length, .int (Archive.write entries Deflate.store).length], none⟩], by simp,
      rfl, ?_⟩
    simp only [World.log, World.run_write, World.run_pure]
    cases path with
    | none => rfl
    | some path =>
        simp only [World.run_bind, World.run_onFiles, World.written_files]
        rcases Packaging.publish (Archive.write entries Deflate.store) path w.files with
          ⟨e | _, files⟩ <;> rfl

/-- **Packaging**, with an artifact. -/
theorem Shows.package (h : p.Shows w log) {a : Artifact M}
    (hartifact : (w.sessions p.id).artifact = some a) (path : Option Path) :
    (p.package path w).1 = (packageOutcome a path w.files).1 ∧
      (p.package path w).2.files = (packageOutcome a path w.files).2 ∧
      (p.package path w).2.sessions = w.sessions ∧ (p.package path w).2.host = w.host ∧
      p.Shows (p.package path w).2 (log ++ packageLines (packageOutcome a path w.files).1) := by
  obtain ⟨rs, hchannel, hquiet, hassembled⟩ :=
    p.run_packageArtifact a path (w.tapped p.channel p.id)
  have hfiles : (w.tapped p.channel p.id).files = w.files := rfl
  rw [hfiles] at hassembled
  generalize packageOutcome a path w.files = result at *
  obtain ⟨r, files⟩ := result
  -- the records, and that nothing else has changed
  obtain ⟨body, hpackage, ss, hsaid, hlines, hrun⟩ : ∃ body,
      p.package path w = p.captured body w ∧
      ∃ ss : List LogRecord, (∀ r ∈ ss, r.logger = p.channel) ∧
        ss.flatMap LogRecord.captured = packageLines r ∧
        body (w.tapped p.channel p.id) =
          (r, { (w.tapped p.channel p.id).writtenAll (rs ++ ss) with files }) := by
    rw [Pipeline.package, World.run_bind, p.requireArtifact_of_some hartifact]
    refine ⟨_, rfl, ?_⟩
    simp only [World.run_bind, World.run_attempt, hassembled]
    rcases r with e | data
    · dsimp only
      split
      · next m =>
          simp only [World.run_bind, run_emit]
          refine ⟨[p.record .error ("Failed to create download package: " ++ m)],
            by simp [record], ?_, ?_⟩
          · rw [List.flatMap_singleton, captured_record]
            rfl
          · rw [World.writtenAll_append]
            rfl
      · next hother =>
          exact ⟨[], by simp, (packageLines_of_ne hother).symm, by rw [List.append_nil]; rfl⟩
    · simp only [World.run_bind, run_emit]
      refine ⟨[p.record .success packaged], by simp [record], ?_, ?_⟩
      · rw [List.flatMap_singleton, captured_record]
        rfl
      · rw [World.writtenAll_append]
        rfl
  have hshows := h.captured body (rs ++ ss)
    (fun r hr => (List.mem_append.mp hr).elim (hchannel r) (hsaid r)) (by rw [hrun]; rfl)
  rw [List.flatMap_append, hquiet, hlines, List.nil_append] at hshows
  rw [hpackage]
  refine ⟨?_, ?_, ?_, ?_, hshows⟩ <;>
    rw [Pipeline.captured, World.capturing_eq_tapped h.ready.free, hrun] <;> rfl

/-! ## Examples and the log -/

/-- An example that is loaded is noted in the log. -/
lemma Shows.loadExample (h : p.Shows w log) {key : Value} {e : Example}
    (hkey : Catalog.find key = .ok e) :
    (p.loadExample key w).1 = .ok e.source ∧
      (p.loadExample key w).2.sessions = w.sessions ∧
      p.Shows (p.loadExample key w).2
        (log ++ [⟨.info, "Loaded " ++ key.plain ++ " example"⟩]) := by
  have hshows := h.captured (p.emit .info ("Loaded " ++ key.plain ++ " example"))
    [p.record .info ("Loaded " ++ key.plain ++ " example")]
    (fun r hr => by rw [List.mem_singleton.mp hr]; rfl) (by rw [run_emit]; rfl)
  rw [List.flatMap_singleton, captured_record] at hshows
  have hrun : p.loadExample key w = (.ok e.source,
      (p.captured (p.emit .info ("Loaded " ++ key.plain ++ " example")) w).2) := by
    simp only [Pipeline.loadExample, World.run_bind, World.run_settle, hkey]
    rw [Pipeline.captured, World.capturing_eq_tapped h.ready.free, run_emit]
    rfl
  rw [hrun]
  refine ⟨rfl, ?_, hshows⟩
  rw [Pipeline.captured, World.capturing_eq_tapped h.ready.free, run_emit]
  rfl

lemma Shows.clearLogs (h : p.Shows w log) : p.Shows (p.clearLogs w).2 [] :=
  (h.withBook (·.clear) rfl).congr rfl

end Pipeline

end WatWorkbench
