import WatWorkbench.Proofs.Pipeline.Reachability

/-!
# Compiling, end to end

The compiler's outcome decides what compiling a source does to a pipeline.  An artifact takes the
place of the one before, and what is said about it that of the log; a refusal is added to the log and
changes nothing else, except that the output of the last run is gone in any case.

* `Engine.Refuses` — an engine that fails to translate or load only by refusing.
* **`Pipeline.Reached.compile_narrates`** — compiling a source, on a pipeline that is reached.
-/

namespace WatWorkbench

variable {M I H : Type}

/-- Translating and loading fail with failures of compiling only. -/
structure Engine.Refuses (e : Engine M I) : Prop where
  compile : ∀ asked source f, e.compile asked source = .error f → ∃ m, f = .stage .compile m
  load : ∀ asked binary f, e.load asked binary = .error f → ∃ m, f = .stage .compile m

lemma Compiler.compileSource_fst (id : Nat) (e : Engine M I) (logger source : Text)
    (w : World M I H) :
    (compileSource id e logger source w).1 = outcome e (w.histories id) source := by
  obtain ⟨v, hv, -⟩ := run_compileSource id e logger source w
  rw [hv]

lemma Compiler.outcome_eq_error {e : Engine M I} (h : e.Refuses) {asked : History M I} {source : Text}
    {f : Failure} (hf : outcome e asked source = .error f) : ∃ m, f = .stage .compile m := by
  unfold outcome at hf
  split_ifs at hf
  · cases hf
    exact ⟨_, rfl⟩
  · split at hf
    · next g hg =>
        cases hf
        exact h.compile _ _ _ hg
    · split at hf
      · next g hg =>
          cases hf
          exact h.load _ _ _ hg
      · cases hf

namespace Pipeline

variable {p : Pipeline M I} {w : World M I H}

/-- **Compiling, end to end.**  If the compiler gives an artifact, the pipeline has it and is compiled,
and the log holds the two notes of this call.  If the compiler refuses the source, the call fails with
that and the pipeline is as it was, with a note and the refusal added to the log.  In either case there
is no output and no last result. -/
theorem Reached.compile_narrates (h : p.Reached w) (hfree : p.channel ∉ w.logs.captured)
    (htakes : w.logs.tree.Takes p.channel) (hengine : p.engine.Refuses) (source : Text) :
    (∀ a, (Compiler.compileSource p.id p.engine p.channel source w).1 = .ok a →
      (p.compile source w).1 = .ok a ∧
      ((p.compile source w).2.logs.books p.id).entries =
        [⟨.info, compiling⟩, ⟨.success, compiled⟩] ∧
      (p.compile source w).2.sessions p.id =
        { state := .compiled, artifact := some a, lastResult := none, output := "" }) ∧
    ∀ f, (Compiler.compileSource p.id p.engine p.channel source w).1 = .error f →
      ∃ m, f = .stage .compile m ∧ (p.compile source w).1 = .error f ∧
      ((p.compile source w).2.logs.books p.id).entries = (w.logs.books p.id).entries ++
        [⟨.info, compiling⟩, ⟨.error, "Compilation error: " ++ m⟩] ∧
      (p.compile source w).2.sessions p.id =
        { w.sessions p.id with lastResult := none, output := "" } := by
  have hlog := ((h.shows hfree htakes).compile source).log
  have hsession := p.compile_session source w
  have hresult := p.compile_fst source w
  rw [if_neg hfree] at hresult
  rw [hresult] at hsession
  rw [Compiler.compileSource_fst]
  refine ⟨fun a ha => ?artifact, fun f hf => ?refusal⟩
  case artifact =>
    rw [ha] at hlog hsession hresult
    exact ⟨hresult, hlog, hsession⟩
  case refusal =>
    obtain ⟨m, rfl⟩ := Compiler.outcome_eq_error hengine hf
    rw [hf] at hlog hsession hresult
    exact ⟨m, rfl, hresult, hlog, hsession⟩

/-! ## A source that is refused after another one -/

lemma picky_refuses : picky.engine.Refuses where
  compile asked source f hf := by
    simp only [picky, callingBack] at hf
    split_ifs at hf
    cases hf
    exact ⟨_, rfl⟩
  load asked binary f hf := by cases hf

/-- Two sources, of which the second is refused. -/
theorem compile_narrates_picky : ∃ w : World Unit Unit Unit, picky.Reached w ∧
    (picky.compile "(module)" w).1 = .ok ⟨(), [], "(module)"⟩ ∧
      (picky.compile "(modul)" (picky.compile "(module)" w).2).1 =
        .error (.stage .compile "refused") ∧
      ((picky.compile "(modul)" (picky.compile "(module)" w).2).2.logs.books 1).entries =
        [⟨.info, compiling⟩, ⟨.success, compiled⟩, ⟨.info, compiling⟩,
          ⟨.error, "Compilation error: refused"⟩] ∧
      (picky.compile "(modul)" (picky.compile "(module)" w).2).2.sessions 1 =
        { state := .compiled, artifact := some ⟨(), [], "(module)"⟩ } := by
  obtain ⟨w, hreached, hfree, htakes, -⟩ := exists_reached_picky
  -- the first source
  have houtcome : (Compiler.compileSource picky.id picky.engine picky.channel "(module)" w).1 =
      .ok ⟨(), [], "(module)"⟩ := by
    rw [Compiler.compileSource_fst]
    rfl
  obtain ⟨hfirst, hlog, hsession⟩ :=
    (hreached.compile_narrates hfree htakes picky_refuses "(module)").1 _ houtcome
  have hshows := (hreached.shows hfree htakes).compile "(module)"
  have hmoved := hreached.compile "(module)"
  refine ⟨w, hreached, hfirst, ?_⟩
  generalize (picky.compile "(module)" w).2 = v at *
  -- the second one
  have hrefused : (Compiler.compileSource picky.id picky.engine picky.channel "(modul)" v).1 =
      .error (.stage .compile "refused") := by
    rw [Compiler.compileSource_fst]
    rfl
  obtain ⟨m, hm, hsecond, hlog', hsession'⟩ := (hmoved.compile_narrates hshows.ready.free
    hshows.ready.takes picky_refuses "(modul)").2 _ hrefused
  cases hm
  refine ⟨hsecond, ?_, ?_⟩
  · rw [hlog] at hlog'
    exact hlog'
  · rw [hsession] at hsession'
    exact hsession'

end Pipeline

end WatWorkbench
