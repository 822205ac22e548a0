import WatWorkbench.Proofs.Pipeline.Operation

/-!
# Where the artifact comes from

Every call that compiles is noted, with what the pipeline held when it was made, what the engine had
been asked before, and the outcome.  The notes are kept beside what host functions keep for
themselves; no operation reads them.  Whatever is done from then on — operations in any order, that
fail at any point, called from host functions or from outside — the artifact can be read off the
notes.

* `CompileCall`, `Ledger`, `Pipeline.noted`, `Pipeline.notedAndRun` — compiling, and compiling and
  running, with a note of the call.
* `lastReturned` — what the last call that returned gave.
* `Pipeline.Coherent` — the artifact is that, no call found anything else, and each artifact comes
  from what the engine gave in the call that returned it.
* **`Client.coherent`** — code that uses a pipeline keeps it coherent.
-/

namespace WatWorkbench

variable {M I H : Type}

/-! ## Notes -/

/-- A call that compiles. -/
structure CompileCall (M I : Type) where
  found : Option (Artifact M)
  source : Text
  /-- What the engine had been asked when the call was made. -/
  asked : History M I
  outcome : Except Failure (Artifact M)

/-- What host functions keep for themselves, with the calls that have compiled so far. -/
structure Ledger (M I H : Type) where
  own : H
  calls : List (CompileCall M I) := []

/-- What the last call that returned gave.  A call that failed does not count. -/
def lastReturned (calls : List (CompileCall M I)) : Option (Artifact M) :=
  (calls.filterMap fun c => c.outcome.toOption).getLast?

@[simp] lemma lastReturned_nil : lastReturned ([] : List (CompileCall M I)) = none := rfl

lemma lastReturned_append_ok (calls : List (CompileCall M I)) {c : CompileCall M I} {a : Artifact M}
    (h : c.outcome = .ok a) : lastReturned (calls ++ [c]) = some a := by
  simp [lastReturned, h, Except.toOption]

lemma lastReturned_append_error (calls : List (CompileCall M I)) {c : CompileCall M I} {e : Failure}
    (h : c.outcome = .error e) : lastReturned (calls ++ [c]) = lastReturned calls := by
  simp [lastReturned, h, Except.toOption]

namespace Pipeline

variable (p : Pipeline M I)

/-- Compiles a source and notes the call. -/
def noted (source : Text) : Act (World M I (Ledger M I H)) (Artifact M) := fun w =>
  let (outcome, v) := p.compile source w
  let c : CompileCall M I :=
    { found := (w.sessions p.id).artifact, source, asked := w.histories p.id, outcome }
  (outcome, { v with host := { v.host with calls := v.host.calls ++ [c] } })

/-- Compiles a source, notes the call and, if it returns, runs what it gave. -/
def notedAndRun (source : Text) (imports : ImportTable (Import (World M I (Ledger M I H)))) :
    Act (World M I (Ledger M I H)) Results := do
  let _ ← p.noted source
  p.run imports

/-! ## Coherence -/

/-- The artifact came about in this call: its binary is what the engine gave for the source, and its
module what the engine gave for that binary, right after one another.  `history` is what the engine
has been asked in the end. -/
structure MadeIn (c : CompileCall M I) (a : Artifact M) (history : History M I) : Prop where
  source : a.source = c.source
  binary : p.engine.compile c.asked c.source = .ok a.binary
  module : p.engine.load (c.asked ++ [.compile c.source]) a.binary = .ok a.module
  /-- Both were asked of the engine, in this call. -/
  asked : c.asked ++ [.compile c.source, .load a.binary] <+: history

/-- The artifact can be read off the notes. -/
structure Coherent (w : World M I (Ledger M I H)) : Prop where
  current : (w.sessions p.id).artifact = lastReturned w.host.calls
  /-- So it was when each of the calls was made: nothing but the calls before it had changed it. -/
  found : ∀ before c, before ++ [c] <+: w.host.calls → c.found = lastReturned before
  made : ∀ c ∈ w.host.calls, ∀ a, c.outcome = .ok a → p.MadeIn c a (w.histories p.id)

/-- What code does apart from calling the pipeline: it touches neither the artifact nor the notes.
It may do anything else, such as asking the engine something. -/
def Unrelated (w w' : World M I (Ledger M I H)) : Prop :=
  (w'.sessions p.id).artifact = (w.sessions p.id).artifact ∧ w'.host.calls = w.host.calls ∧
    w.histories p.id <+: w'.histories p.id

variable {p}

lemma MadeIn.mono {c : CompileCall M I} {a : Artifact M} {history later : History M I}
    (h : p.MadeIn c a history) (hinitial : history <+: later) : p.MadeIn c a later :=
  ⟨h.source, h.binary, h.module, h.asked.trans hinitial⟩

lemma Coherent.congr {w w' : World M I (Ledger M I H)} (h : p.Coherent w)
    (hw : p.Unrelated w w') : p.Coherent w' := by
  obtain ⟨hartifact, hcalls, hhistory⟩ := hw
  refine ⟨?_, ?_, ?_⟩
  · rw [hartifact, hcalls]; exact h.current
  · rw [hcalls]; exact h.found
  · rw [hcalls]; exact fun c hc a ha => (h.made c hc a ha).mono hhistory

/-! ## What each operation does to it -/

/-- A call that returns an artifact has made it. -/
lemma madeIn_of_compile {source : Text} {w : World M I H} {a : Artifact M}
    (h : (p.compile source w).1 = .ok a) (found : Option (Artifact M)) :
    p.MadeIn ⟨found, source, w.histories p.id, .ok a⟩ a
      ((p.compile source w).2.histories p.id) := by
  rw [compile_fst] at h
  split_ifs at h with hfree
  obtain ⟨hsource, hbinary, hmodule, hasks⟩ := Compiler.outcome_eq_ok h
  refine ⟨hsource, hbinary, hmodule, ?_⟩
  simp only [compile_histories, if_neg hfree, hasks]
  exact List.prefix_rfl

/-- A call that fails leaves the artifact. -/
lemma compile_artifact_of_error {source : Text} {w : World M I H} {e : Failure}
    (h : (p.compile source w).1 = .error e) :
    ((p.compile source w).2.sessions p.id).artifact = (w.sessions p.id).artifact := by
  rw [compile_session, h]
  unfold sessionAfter
  split
  · next hok => cases hok
  · rfl
  · rfl

/-- Compiling adds a note, and changes the artifact to what the note says. -/
lemma Coherent.noted (source : Text) :
    World.Preserves p.Coherent
      (p.noted source : Act (World M I (Ledger M I H)) (Artifact M)) := by
  intro w h
  have hhost := p.compile_host source w
  have hinitial : w.histories p.id <+: (p.compile source w).2.histories p.id :=
    ⟨_, (p.compile_histories source w).symm⟩
  have hcurrent := p.compile_session source w
  have hfailed := @compile_artifact_of_error _ _ _ p source w
  have hmade := @madeIn_of_compile _ _ _ p source w
  unfold Pipeline.noted
  rcases hrun : p.compile source w with ⟨r, v⟩
  rw [hrun] at hhost hinitial hcurrent hfailed hmade
  dsimp only at hhost ⊢
  rw [hhost]
  refine ⟨?_, fun before c hc => ?_, fun c hc a ha => ?_⟩
  · cases r with
    | ok a => rw [hcurrent, lastReturned_append_ok _ rfl]; rfl
    | error e => rw [hfailed rfl, lastReturned_append_error _ rfl]; exact h.current
  · rcases List.prefix_concat_iff.mp hc with hlast | hearlier
    · obtain ⟨rfl, rfl⟩ := List.append_singleton_inj.mp hlast
      exact h.current
    · exact h.found before c hearlier
  · rcases List.mem_append.mp hc with hc | hc
    · exact (h.made c hc a ha).mono hinitial
    · obtain rfl := List.mem_singleton.mp hc
      obtain rfl : r = .ok a := ha
      exact hmade rfl _

lemma Coherent.relog (w : World M I (Ledger M I H)) (logs : LogState) (h : p.Coherent w) :
    p.Coherent { w with logs } :=
  h.congr ⟨rfl, rfl, List.prefix_rfl⟩

lemma Coherent.write (r : LogRecord) :
    World.Preserves p.Coherent (World.write r : Act (World M I (Ledger M I H)) Unit) :=
  fun w h => by rw [World.run_write]; exact h.congr ⟨rfl, rfl, List.prefix_rfl⟩

/-- Running keeps the artifact, whatever else it changes of the session. -/
lemma Coherent.run (q : Pipeline M I) (imports : ImportTable (Import (World M I (Ledger M I H))))
    (hosts : ∀ act, imports.Offers act → World.Preserves p.Coherent act) :
    World.Preserves p.Coherent (q.run imports) := by
  refine run_preserves Coherent.write (fun _ hbody => .capturing Coherent.relog hbody _ _)
    (fun c w h => h.congr ⟨rfl, rfl, ?_⟩) (fun change hchange w h => h.congr ⟨?_, rfl, ?_⟩) hosts
  · by_cases hid : p.id = q.id
    · rw [← hid, World.run_ask, World.asked_histories_self]
      exact List.prefix_append _ _
    · simp only [World.run_ask, World.asked_histories_of_ne _ _ hid]
      exact List.prefix_rfl
  · by_cases hid : p.id = q.id
    · rw [← hchange (w.sessions p.id), hid]
      exact congrArg Session.artifact (World.withSession_sessions_self _ _ _)
    · exact congrArg Session.artifact (World.withSession_sessions_of_ne _ _ hid)
  · exact List.prefix_rfl

/-- Compiling and running is the one after the other. -/
lemma Client.notedAndRun {Own : World M I (Ledger M I H) → World M I (Ledger M I H) → Prop}
    (source : Text) (imports : ImportTable (Import (World M I (Ledger M I H))))
    (hosts : ∀ act, imports.Offers act → Client p p.noted Own act) :
    Client p p.noted Own (p.notedAndRun source imports) :=
  .bind (.compile source) fun _ => .run p (fun _ => rfl) imports hosts

/-- **Where the artifact comes from.**  A pipeline starts without an artifact and without calls.
Whatever code does with it from then on — with operations that are refused or fail at any point, and
with host functions that call operations themselves — its artifact is what the last call that
returned gave, and that artifact came about in that call. -/
theorem Client.coherent {α : Type} {act : Act (World M I (Ledger M I H)) α}
    (h : Client p p.noted p.Unrelated act) {w : World M I (Ledger M I H)}
    (hnone : (w.sessions p.id).artifact = none) (hcalls : w.host.calls = []) :
    p.Coherent (act w).2 := by
  refine h.preserves (fun _ _ hown hw => hw.congr hown) Coherent.noted
    (fun q imports _ hosts => Coherent.run q imports hosts) (fun path => ?_) (fun key => ?_) ?_ w ?_
  · exact package_preserves Coherent.write (fun _ hbody => .capturing Coherent.relog hbody _ _)
      (fun w files hw => hw.congr ⟨rfl, rfl, List.prefix_rfl⟩) path
  · exact loadExample_preserves Coherent.write
      (fun _ hbody => .capturing Coherent.relog hbody _ _) key
  · intro w hw
    rw [run_clearLogs]
    exact hw.congr ⟨by simp, rfl, List.prefix_rfl⟩
  · refine ⟨?_, fun before c hc => ?_, fun c hc => ?_⟩
    · rw [hnone, hcalls, lastReturned_nil]
    · rw [hcalls] at hc
      simp at hc
    · rw [hcalls] at hc
      cases hc

/-- A pipeline whose modules call back. -/
def pondering : Pipeline Unit Unit := ⟨0, callingBack "(module" "env" "again", channelName⟩

/-- A host function that compiles something and does not mind how that ends. -/
def ponder : Act (World Unit Unit (Ledger Unit Unit Unit)) Value := do
  let _ ← World.attempt (pondering.noted "(module $inner)")
  return .null

/-- Compiles a text that is refused and one that is not, and runs what that gave. -/
def pondered : Act (World Unit Unit (Ledger Unit Unit Unit)) Results := do
  let _ ← World.attempt (pondering.noted "(module")
  pondering.notedAndRun "(module $outer)" [("env", [("again", .function fun _ => ponder)])]

theorem pondered_coherent :
    pondering.Coherent (pondered { files := { working := "/" }, host := { own := () } }).2 := by
  have quiet : ∀ {α : Type} (a : α), Client (H := Ledger Unit Unit Unit) pondering pondering.noted
      pondering.Unrelated (pure a) := fun a => .own fun w => ⟨rfl, rfl, List.prefix_rfl⟩
  have hponder : Client pondering pondering.noted pondering.Unrelated ponder :=
    .bind (.attempt (.compile _)) fun _ => quiet _
  refine Client.coherent (.bind (.attempt (.compile _)) fun _ =>
    Client.notedAndRun _ _ fun act hact => ?_) rfl rfl
  obtain ⟨args, rfl⟩ := ImportTable.offers_singleton.mp hact
  exact hponder

end Pipeline

end WatWorkbench
