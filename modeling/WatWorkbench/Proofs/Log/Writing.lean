import Mathlib.Tactic.Common
import WatWorkbench.Log.Capture
import WatWorkbench.Proofs.Log.Places

/-!
# Writing a record

Handlers never refuse a record: a book takes every text.  So writing always succeeds, and what it
changes is confined to what handlers have received and to the loggers that are there.

* `receive_eq_ok`, `write_fst` — writing succeeds.
* `write_captured`, `write_tree`, `write_logger` — the list of captured channels stays, and the tree
  gets the logger at most.
* `writtenAll` — the state after several records.
* `Alongside` — two states that differ in what one log book has lost, and in the supply of numbers.
* `Alongside.write`, `Alongside.leave` — they stay so when both are written to or given back to.
-/

namespace WatWorkbench.LogState

lemma receive_eq_ok (r : LogRecord) (h : Handler) (s : LogState) :
    ∃ t, receive r h s = .ok t ∧ t.captured = s.captured := by
  unfold receive
  split <;> exact ⟨_, rfl, rfl⟩

lemma deliver_eq_ok (r : LogRecord) (hs : List Handler) (s : LogState) :
    ∃ t, deliver r hs s = (.ok (), t) ∧ t.captured = s.captured := by
  induction hs generalizing s with
  | nil => exact ⟨s, rfl, rfl⟩
  | cons h hs ih =>
      obtain ⟨t, ht, hcaptured⟩ := receive_eq_ok r h s
      obtain ⟨u, hu, hsame⟩ := ih t
      refine ⟨u, ?_, hsame.trans hcaptured⟩
      rw [deliver, ht, ← hu]

/-- Writing succeeds. -/
@[simp] lemma write_fst (s : LogState) (r : LogRecord) : (s.write r).1 = .ok () := by
  obtain ⟨t, ht, -⟩ :=
    deliver_eq_ok r (s.tree.deliveries r) { s with tree := s.tree.enroll r.logger }
  rw [write, ht]

@[simp] lemma write_captured (s : LogState) (r : LogRecord) :
    (s.write r).2.captured = s.captured := by
  obtain ⟨t, ht, hcaptured⟩ :=
    deliver_eq_ok r (s.tree.deliveries r) { s with tree := s.tree.enroll r.logger }
  rw [write, ht]
  exact hcaptured

/-- Receiving a record concerns only what handlers have received. -/
lemma receive_frame {r : LogRecord} {h : Handler} {s t : LogState} (hr : receive r h s = .ok t) :
    t.tree = s.tree ∧ t.next = s.next := by
  unfold receive at hr
  split at hr <;> cases hr <;> exact ⟨rfl, rfl⟩

lemma deliver_frame (r : LogRecord) (hs : List Handler) (s : LogState) :
    (deliver r hs s).2.tree = s.tree ∧ (deliver r hs s).2.next = s.next := by
  induction hs generalizing s with
  | nil => exact ⟨rfl, rfl⟩
  | cons h hs ih =>
      obtain ⟨t, ht, -⟩ := receive_eq_ok r h s
      obtain ⟨htree, hnext⟩ := receive_frame ht
      rw [deliver, ht, ← htree, ← hnext]
      exact ih t

/-- Writing brings the logger into the tree, if it is not there already. -/
lemma write_tree (s : LogState) (r : LogRecord) : (s.write r).2.tree = s.tree.enroll r.logger :=
  (deliver_frame r _ _).1

@[simp] lemma write_logger (s : LogState) (r : LogRecord) :
    (s.write r).2.tree.logger = s.tree.logger := by
  rw [write_tree, LogTree.enroll_logger]

@[simp] lemma write_next (s : LogState) (r : LogRecord) : (s.write r).2.next = s.next :=
  (deliver_frame r _ _).2

/-- The state after records have been written, first to last. -/
def writtenAll (s : LogState) (rs : List LogRecord) : LogState :=
  rs.foldl (fun s r => (s.write r).2) s

lemma writtenAll_append (s : LogState) (rs rs' : List LogRecord) :
    s.writtenAll (rs ++ rs') = (s.writtenAll rs).writtenAll rs' := List.foldl_append

/-! ## Two states side by side -/

/-- The second state is like the first one, except that a log book of the first one lacks what it
held earlier, and except for the supply of numbers. -/
structure Alongside (id : Nat) (earlier : List LogEntry) (s t : LogState) : Prop where
  tree : s.tree = t.tree
  captured : s.captured = t.captured
  books : ∀ n, n ≠ id → s.books n = t.books n
  /-- The book of the second one holds more at its beginning. -/
  log : (t.books id).entries = earlier ++ (s.books id).entries
  recordings : s.recordings = t.recordings
  errorLines : s.errorLines = t.errorLines

namespace Alongside

variable {id : Nat} {earlier : List LogEntry} {s t : LogState}

/-- An entry comes at the end of a book, so what the book held earlier does not matter. -/
lemma append (h : Alongside id earlier s t) (n : Nat) (e : LogEntry) :
    Alongside id earlier (s.setBook n ((s.books n).append e))
      (t.setBook n ((t.books n).append e)) := by
  refine ⟨h.tree, h.captured, fun m hm => ?_, ?_, h.recordings, h.errorLines⟩
  · simp only [setBook, assign]
    split_ifs with hmn
    · subst hmn; rw [h.books m hm]
    · exact h.books m hm
  · simp only [setBook, assign]
    split_ifs with hn
    · subst hn; simp [LogBook.append, h.log]
    · exact h.log

lemma receive (h : Alongside id earlier s t) (r : LogRecord) (handler : Handler) :
    ∃ s' t', LogState.receive r handler s = .ok s' ∧ LogState.receive r handler t = .ok t' ∧
      Alongside id earlier s' t' := by
  unfold LogState.receive
  split
  · exact ⟨_, _, rfl, rfl, h.append _ _⟩
  · refine ⟨_, _, rfl, rfl, h.tree, h.captured, h.books, h.log, ?_, h.errorLines⟩
    rw [h.recordings]
  · refine ⟨_, _, rfl, rfl, h.tree, h.captured, h.books, h.log, h.recordings, ?_⟩
    simp only [printError, h.errorLines]
  · refine ⟨_, _, rfl, rfl, h.tree, h.captured, h.books, h.log, h.recordings, ?_⟩
    simp only [printError, h.errorLines]
  · exact ⟨_, _, rfl, rfl, h⟩

lemma deliver (h : Alongside id earlier s t) (r : LogRecord) (handlers : List Handler) :
    Alongside id earlier (LogState.deliver r handlers s).2 (LogState.deliver r handlers t).2 := by
  induction handlers generalizing s t with
  | nil => exact h
  | cons handler handlers ih =>
      obtain ⟨s', t', hs, ht, hreceived⟩ := h.receive r handler
      rw [LogState.deliver, LogState.deliver, hs, ht]
      exact ih hreceived

/-- Writing a record to both keeps them side by side. -/
lemma write (h : Alongside id earlier s t) (r : LogRecord) :
    Alongside id earlier (s.write r).2 (t.write r).2 := by
  have hboth : Alongside id earlier { s with tree := s.tree.enroll r.logger }
      { t with tree := t.tree.enroll r.logger } :=
    ⟨by rw [h.tree], h.captured, h.books, h.log, h.recordings, h.errorLines⟩
  rw [LogState.write, LogState.write, h.tree]
  rw [h.tree] at hboth
  exact hboth.deliver r _

/-- So does leaving by the same interceptor. -/
lemma leave (h : Alongside id earlier s t) (i : Interceptor) :
    Alongside id earlier (i.leave s).2 (i.leave t).2 := by
  refine ⟨?_, ?_, h.books, h.log, h.recordings, h.errorLines⟩
  · simp only [Interceptor.leave, configure, h.tree]
  · simp only [Interceptor.leave, h.captured]

end Alongside

end WatWorkbench.LogState
