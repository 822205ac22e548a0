import WatWorkbench.Proofs.Log.Custody
import WatWorkbench.Proofs.Pipeline.Chronicle

/-!
# Pipelines that are reached

A pipeline is made in a world in which others may have done things to the logging, and then operations
are called and others do things in any order, the host functions of a run included.  Whatever they do,
between the calls nothing captures into the pipeline's log, so if the channel is free and keeps no
records back, it can be captured.

* `Pipeline.Moves` — what may happen to a world between two points at which no operation is under way;
  `Pipeline.Reached` — what may have happened since the pipeline was made.
* `Pipeline.Watched` — the log is in somebody's custody; `perform_watched` — operations keep it so, if
  their host functions do.
* **`Reached.ready`**, `Reached.shows` — a pipeline that is reached can work.
-/

namespace WatWorkbench.Pipeline

variable {M I H : Type} {p : Pipeline M I} {w w' : World M I H} {c : Custody}

/-! ## Worlds that are reached -/

/-- What happens while no operation is under way: others do things that do not concern the pipeline,
and operations are called with host functions that do nothing but such things. -/
inductive Moves (p : Pipeline M I) : World M I H → World M I H → Prop
  | refl (w : World M I H) : Moves p w w
  | trans {u v w : World M I H} (h : Moves p u v) (h' : Moves p v w) : Moves p u w
  | others {w w' : World M I H}
      (hlogs : Relation.ReflTransGen (LogState.Turn p.id) w.logs w'.logs)
      (hsession : w'.sessions p.id = w.sessions p.id) : Moves p w w'
  | perform (op : Operation (World M I H))
      (hosts : ∀ act, op.imports.Offers act → ∀ w, Moves p w (act w).2) (w : World M I H) :
      Moves p w (perform p op w).2

/-- The pipeline has been made and things have happened since then. -/
inductive Reached (p : Pipeline M I) : World M I H → Prop
  | create {w w' : World M I H} (hlogs : Relation.ReflTransGen (LogState.Turn p.id) {} w.logs)
      (hsession : w.sessions p.id = {}) (hcreate : create p.engine p.channel w = (.ok p, w')) :
      Reached p w'
  | move {w w' : World M I H} (h : Reached p w) (hmoves : Moves p w w') : Reached p w'

/-! ## The custody of the log -/

/-- The pipeline's log is in the given custody. -/
structure Watched (p : Pipeline M I) (c : Custody) (w : World M I H) : Prop where
  book : c.book = p.id
  channel : c.channel = p.channel
  issued : p.id < c.issued
  watches : c.Watches w.logs

lemma Watched.congr (h : p.Watched c w) (hwatches : c.Watches w'.logs) : p.Watched c w' :=
  ⟨h.book, h.channel, h.issued, hwatches⟩

lemma Watched.lt (h : p.Watched c w) : p.id < w.logs.next :=
  Nat.lt_of_lt_of_le h.issued h.watches.issued

lemma write_watched (r : LogRecord) :
    World.Preserves (p.Watched c) (World.write r : Act (World M I H) Unit) := by
  intro w h
  rw [World.run_write]
  exact h.congr (h.watches.write r)

/-- While the channel is captured into the log, the log is in the custody of one more interceptor. -/
lemma captured_watched {α : Type} (body : Act (World M I H) α)
    (hbody : ∀ c, World.Preserves (p.Watched c) body) (c : Custody) :
    World.Preserves (p.Watched c) (p.captured body) := by
  intro w h
  by_cases hmem : p.channel ∈ w.logs.captured
  · rw [captured, World.capturing_of_mem hmem]
    exact h
  · rw [captured, World.capturing_eq_tapped hmem]
    have htapped := h.watches.tapped_own (by rw [h.book]; exact h.lt)
    rw [h.book, h.channel] at htapped
    have hstarted : p.Watched (c.tapping (w.logs.tap p.channel p.id)) (w.tapped p.channel p.id) :=
      ⟨h.book, h.channel, h.issued, htapped⟩
    have hended := hbody _ _ hstarted
    exact h.congr (hended.watches.released h.channel.symm)

lemma compileFinished_watched (h : p.Watched c w) (state : PipelineState) (scratch : Nat)
    (r : Except Failure (Artifact M)) : p.Watched c (p.compileFinished state scratch w r) := by
  unfold compileFinished
  split
  · exact h.congr (h.watches.setBook h.lt _)
  · exact h.congr (h.watches.setBook h.lt _)
  · exact h

/-- The book that compiling is captured into is another one. -/
lemma compile_watched (source : Text) :
    World.Preserves (p.Watched c) (p.compile source : Act (World M I H) (Artifact M)) := by
  intro w h
  have hstarted : c.Watches (p.compileStarted w).logs := h.watches.fresh
  by_cases hheld : p.channel ∈ w.logs.captured
  · rw [p.compile_of_held source w hheld]
    exact h.congr hstarted
  · have hfree : p.channel ∉ (p.compileStarted w).logs.captured := hheld
    obtain ⟨rs, -, -, hlogs⟩ := p.compileLogged_logs source
      ((p.compileStarted w).tapped p.channel w.logs.next)
    have hcaptured := World.capturing_eq_tapped hfree w.logs.next (p.compileLogged source)
    rw [p.run_compile source w _ hcaptured]
    have hne : w.logs.next ≠ c.book := by
      rw [h.book]
      exact Nat.ne_of_gt h.lt
    have htapped := hstarted.tapped_of_ne p.channel hne (Nat.lt_succ_self _)
    refine compileFinished_watched (h.congr ?_) _ _ _
    refine Custody.Watches.leave ?_ _
    rw [hlogs]
    exact htapped.writtenAll rs

/-- **Operations keep the log in its custody**, if their host functions do. -/
theorem perform_watched (op : Operation (World M I H))
    (hosts : ∀ act, op.imports.Offers act → ∀ c, World.Preserves (p.Watched c) act) (c : Custody) :
    World.Preserves (p.Watched c) (perform p op) := by
  have hrun : ∀ c, World.Preserves (p.Watched c) (p.run op.imports) :=
    run_preserves_each (fun _ => write_watched) captured_watched
      (fun _ _ _ h => h.congr h.watches) (fun _ _ _ _ h => h.congr h.watches) hosts
  obtain ⟨request, imports⟩ := op
  cases request with
  | compile source => exact (compile_watched source).bind fun _ => .pure _
  | run => exact (hrun c).bind fun _ => .pure _
  | compileAndRun source =>
      exact .bind ((compile_watched source).bind fun _ => hrun c) fun _ => .pure _
  | package path =>
      exact (package_preserves_each (fun _ => write_watched) captured_watched
        (fun _ _ _ h => h.congr h.watches) path c).bind fun _ => .pure _
  | loadExample key =>
      exact (loadExample_preserves_each (fun _ => write_watched) captured_watched key c).bind
        fun _ => .pure _
  | clearLogs =>
      intro w h
      exact h.congr (h.watches.setBook h.lt _)

/-- So does everything that happens. -/
theorem Moves.watched (h : p.Moves w w') (c : Custody) : p.Watched c w → p.Watched c w' := by
  induction h generalizing c with
  | refl w => exact fun hw => hw
  | trans _ _ ih ih' => exact fun hw => ih' c (ih c hw)
  | others hlogs _ => exact fun hw => hw.congr (LogState.watches_of_turns hlogs hw.book hw.watches)
  | perform op _ w ih =>
      exact perform_watched op (fun act hact c v hv => ih act hact v c hv) c w

/-! ## Pipelines that can work -/

/-- Between the calls nothing captures into the log. -/
theorem Reached.watched (h : p.Reached w) : p.Watched (.idle p.id p.channel) w := by
  induction h with
  | @create w w' hlogs _ hcreate =>
      have hwatches : (Custody.unissued p.id p.channel).Watches w.logs :=
        LogState.watches_of_turns hlogs rfl (Custody.watches_initial _ _)
      obtain ⟨hp, rfl⟩ := Prod.mk.inj hcreate
      have hid : p.id = w.logs.next := congrArg Pipeline.id (Except.ok.inj hp).symm
      refine ⟨rfl, rfl, Nat.lt_succ_self _, ?_⟩
      rw [hid] at hwatches ⊢
      exact hwatches.issue
  | move _ hmoves ih => exact hmoves.watched _ ih

/-- **A pipeline that is reached** can capture its channel if nobody has it or keeps its records
back. -/
theorem Reached.ready (h : p.Reached w) (hfree : p.channel ∉ w.logs.captured)
    (htakes : w.logs.tree.Takes p.channel) : w.logs.Ready p.channel p.id :=
  h.watched.watches.ready hfree htakes

lemma Reached.shows (h : p.Reached w) (hfree : p.channel ∉ w.logs.captured)
    (htakes : w.logs.tree.Takes p.channel) : p.Shows w (w.logs.books p.id).entries :=
  ⟨h.ready hfree htakes, rfl⟩

lemma Reached.compile (h : p.Reached w) (source : Text) : p.Reached (p.compile source w).2 := by
  have hmoves := Moves.perform (p := p) ⟨.compile source, []⟩
    (fun act hact => absurd hact (ImportTable.not_offers_nil act)) w
  rw [perform_compile] at hmoves
  exact h.move hmoves

/-! ## An example -/

/-- A world in which the default channel takes only errors. -/
def reticent : World Unit Unit Unit where
  logs := ({} : LogState).configure channelName fun _ => { level := Level.error }
  files := { working := "/" }
  host := ()

/-- A pipeline that is made there.  Its engine refuses one source. -/
def picky : Pipeline Unit Unit := ⟨1, callingBack "(modul)" "env" "log", channelName⟩

lemma exists_reached_picky : ∃ w : World Unit Unit Unit, picky.Reached w ∧
    picky.channel ∉ w.logs.captured ∧ w.logs.tree.Takes picky.channel ∧
      w.files = { working := "/" } := by
  refine ⟨{ reticent with logs := reticent.logs.fresh.2 }, ?_, List.not_mem_nil, ?_, rfl⟩
  · refine .create (.single ?_) rfl (w := reticent) rfl
    exact .configure channelName { level := Level.error } (by simp) (by simp)
  · exact ⟨by decide, rfl, fun r _ => rfl⟩

end WatWorkbench.Pipeline
